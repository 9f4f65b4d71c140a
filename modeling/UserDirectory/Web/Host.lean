/-
Hosts as requests name them: a name, or a number between brackets, each perhaps with a port behind
it. A number between brackets has eight groups of hexadecimal digits, of which one run of zeros may
be left out and the last two may be written as four decimal numbers; or it says by a version that it
is of a later kind.
-/

import UserDirectory.Number.Reading

namespace UserDirectory.Host

open Text

/-! ### Names and ports -/

/-- The characters of names, letters and digits apart. -/
def marks : List Char := "-._~!$&'()*+,;=%".toList

/-- Whether a character may stand in a name. -/
def isNameChar (c : Char) : Bool :=
  c.isAlphanum || marks.contains c

/-- Whether a text is the name of a host. -/
def isName (text : List Char) : Bool :=
  !text.isEmpty && text.all isNameChar

/-- Whether all characters of a text are digits, and there are some. -/
def isDigits (text : List Char) : Bool :=
  !text.isEmpty && text.all fun c => (asciiDigit? c).isSome

/-- Whether all characters of a text are hexadecimal digits, and there are some. -/
def isHexadecimal (text : List Char) : Bool :=
  !text.isEmpty && text.all fun c => (hexValue? c).isSome

/-- The number that digits write. -/
def numberOf (digits : List Char) : Nat :=
  ofDigits (digits.filterMap asciiDigit?)

/-- The greatest number of a port. -/
def maxPort : Nat := 65535

/-- Whether a text is the number of a port, perhaps with zeros in front. -/
def isPort (text : List Char) : Bool :=
  isDigits text && text.length ≤ Number.maxIntegerDigits && numberOf text ≤ maxPort

/-! ### Numbers between brackets -/

/-- Whether a text is a number below 256 without zeros in front. -/
def isOctet (text : List Char) : Bool :=
  isDigits text && text.length ≤ 3 && (text = ['0'] || text.head? ≠ some '0')
    && numberOf text < 256

/-- Whether a text is four numbers between points. -/
def isQuad (text : List Char) : Bool :=
  (pieces '.' text).length = 4 && (pieces '.' text).all isOctet

/-- Whether a text is a group of up to four hexadecimal digits. -/
def isGroup (text : List Char) : Bool :=
  isHexadecimal text && text.length ≤ 4

/-- The number of groups that an address has. -/
def groupCount : Nat := 8

/-- The groups between the colons of an address. Four numbers in place of the last one are two
groups, whatever the numbers are. -/
def groups? (text : List Char) : Option (List (List Char)) :=
  let groups := pieces ':' text
  match groups.getLast? with
  | some last =>
    if groups.length < 3 then none
    else if !last.contains '.' then some groups
    else if isQuad last then some (groups.dropLast ++ [['0'], ['0']])
    else none
  | none => none

/-- The groups on one side of those that are left out. An empty text there is no group. -/
def side (groups : List (List Char)) : List (List Char) :=
  if groups = [[]] then [] else groups

/-- Whether groups make an address. At most one run of groups may be left out; it is written as an
empty group between others, or as two at an end. -/
def isAddress (groups : List (List Char)) : Bool :=
  match (List.range groups.length).filter fun place =>
      0 < place && place + 1 < groups.length && groups[place]? = some [] with
  | [] => groups.length = groupCount && groups.all isGroup
  | [place] =>
    let given := side (groups.take place) ++ side (groups.drop (place + 1))
    given.length < groupCount && given.all isGroup
  | _ => false

/-- An address without the zone that it may name behind a percent sign. -/
def withoutZone? (text : List Char) : Option (List Char) :=
  match splitFirst? '%' text with
  | some (address, zone) => if zone.isEmpty || zone.contains '%' then none else some address
  | none => some text

/-- Whether a text is the number of a host, perhaps with a zone. -/
def isNumber (text : List Char) : Bool :=
  ((withoutZone? text).bind groups?).any isAddress

/-- Whether a text is of a later kind: a version and more behind a point. -/
def isLater (text : List Char) : Bool :=
  match text with
  | 'v' :: rest => (splitFirst? '.' rest).any fun (version, more) =>
      isHexadecimal version && !more.isEmpty
  | _ => false

/-- Whether a text may stand between brackets. -/
def isBracketed (text : List Char) : Bool :=
  (text.all fun c => isNameChar c || c = ':') && (isLater text || isNumber text)

/-! ### Hosts -/

/-- Whether a text is a host without a port. -/
def isBare (text : List Char) : Bool :=
  match text with
  | '[' :: rest => rest.getLast? = some ']' && isBracketed rest.dropLast
  | _ => isName text

/-- Whether a text is a host, perhaps with a port. -/
def isHost (text : List Char) : Bool :=
  isBare text || (splitLast? ':' text).any fun (host, port) => isBare host && isPort port

end UserDirectory.Host
