/-
Reading documents from their text. Blanks may stand between the parts of a document. An object that
names a member twice has the value named last. A number with a fraction or an exponent is rounded to
the nearest floating-point number, and so is one whose name says that it is not finite. A document
nested too deep is not read.
-/

import UserDirectory.Json

namespace UserDirectory.Json.Reader

/-! ### Blanks and words -/

/-- Whether a character may stand between the parts of a document. -/
def isGap (c : Char) : Bool :=
  c = ' ' || c = '\t' || c = '\n' || c = '\r'

/-- Remove the blanks in front. -/
def skipGaps (text : List Char) : List Char :=
  text.dropWhile isGap

/-- The words that stand for documents, names of numbers that are not finite among them. -/
def words : List (String × Json) :=
  [("null", .null), ("true", .bool true), ("false", .bool false), ("NaN", .float .nan),
   ("Infinity", .float (.infinite false)), ("-Infinity", .float (.infinite true))]

/-- Split off a word. -/
def word? (text : List Char) : Option (Json × List Char) :=
  (words.find? fun entry => entry.1.toList.isPrefixOf text).map fun entry =>
    (entry.2, text.drop entry.1.length)

/-! ### Numbers -/

/-- Split off the leading digits. -/
def digits (text : List Char) : List Char × List Char :=
  text.span fun c => (Text.asciiDigit? c).isSome

/-- Split off the digits of a whole part, which is zero or does not begin with a zero. -/
def wholePart? (text : List Char) : Option (List Char × List Char) :=
  match text with
  | '0' :: rest => some (['0'], rest)
  | _ => match digits text with
    | ([], _) => none
    | split => some split

/-- Split off a fraction, if there is one. -/
def fraction (text : List Char) : List Char × List Char :=
  match text with
  | '.' :: rest => match digits rest with
    | ([], _) => ([], text)
    | (found, rest) => ('.' :: found, rest)
  | _ => ([], text)

/-- Split off an exponent, if there is one. -/
def exponent (text : List Char) : List Char × List Char :=
  match text with
  | c :: rest =>
    if c = 'e' ∨ c = 'E' then
      let (sign, rest) := match rest with
        | '+' :: rest => (['+'], rest)
        | '-' :: rest => (['-'], rest)
        | _ => ([], rest)
      match digits rest with
      | ([], _) => ([], text)
      | (found, rest) => (c :: sign ++ found, rest)
    else ([], text)
  | [] => ([], [])

/-- Split off a number. -/
def number? (text : List Char) : Option (Json × List Char) := do
  let (negative, unsigned) := match text with
    | '-' :: rest => (true, rest)
    | _ => (false, text)
  let (whole, rest) ← wholePart? unsigned
  let (fraction, rest) := fraction rest
  let (exponent, rest) := exponent rest
  if fraction.isEmpty ∧ exponent.isEmpty then
    if Number.maxIntegerDigits < whole.length then none
    pure (.int (Number.signed negative (Text.ofDigits (whole.filterMap Text.asciiDigit?))), rest)
  else
    pure (.float (← Number.decimal? negative (whole ++ fraction ++ exponent)), rest)

/-! ### Texts -/

/-- The number that four hexadecimal digits write. -/
def unit? (a b c d : Char) : Option Nat := do
  let high := 16 * (← Text.hexValue? a) + (← Text.hexValue? b)
  let low := 16 * (← Text.hexValue? c) + (← Text.hexValue? d)
  pure (256 * high + low)

/-- The character that a letter stands for after a backslash. -/
def escaped? (c : Char) : Option Char :=
  match c with
  | '"' => some '"'
  | '\\' => some '\\'
  | '/' => some '/'
  | 'b' => some '\x08'
  | 'f' => some '\x0c'
  | 'n' => some '\n'
  | 'r' => some '\r'
  | 't' => some '\t'
  | _ => none

/-- The character of a pair of units, or the replacement for a unit that is half of none. -/
def ofUnits (first : Nat) (second : Option Nat) : Char :=
  match second with
  | some second => Char.ofNat (0x10000 + 1024 * (first - 0xD800) + (second - 0xDC00))
  | none => if 0xD800 ≤ first ∧ first < 0xE000 then '\uFFFD' else Char.ofNat first

/-- Whether two units are the halves of one character. -/
def isPair (first second : Nat) : Bool :=
  0xD800 ≤ first && first < 0xDC00 && 0xDC00 ≤ second && second < 0xE000

/-- Split off the rest of a text after its opening quote, behind the characters found so far, the
last one first. -/
def textRest? (found : List Char) : List Char → Option (List Char × List Char)
  | [] => none
  | '"' :: rest => some (found.reverse, rest)
  | '\\' :: 'u' :: a :: b :: c :: d :: '\\' :: 'u' :: e :: f :: g :: h :: rest =>
    match unit? a b c d, unit? e f g h with
    | none, _ => none
    | some first, second =>
      if second.any (isPair first) then textRest? (ofUnits first second :: found) rest
      else textRest? (ofUnits first none :: found) ('\\' :: 'u' :: e :: f :: g :: h :: rest)
  | '\\' :: 'u' :: a :: b :: c :: d :: rest =>
    match unit? a b c d with
    | some unit => textRest? (ofUnits unit none :: found) rest
    | none => none
  | '\\' :: c :: rest =>
    match escaped? c with
    | some c => textRest? (c :: found) rest
    | none => none
  | c :: rest => if c.toNat < 32 then none else textRest? (c :: found) rest

/-! ### Documents -/

/-- Give a member a value, in place of the one it has. -/
def put (name : String) (value : Json) : List (String × Json) → List (String × Json)
  | [] => [(name, value)]
  | member :: rest =>
    if member.1 = name then (name, value) :: rest else member :: put name value rest

mutual

/-- Split off a document in which lists and objects are nested no deeper than `nesting`. Every
document inside it is shorter, so the steps never run out if they are twice the length of the text
to begin with. -/
def document? : (steps nesting : Nat) → List Char → Option (Json × List Char)
  | 0, _, _ => none
  | steps + 1, nesting, text =>
    match text, nesting with
    | '"' :: rest, _ =>
      (textRest? [] rest).map fun (found, rest) => (.str (String.ofList found), rest)
    | '[' :: _, 0 => none
    | '[' :: rest, nesting + 1 => match skipGaps rest with
      | ']' :: rest => some (.arr [], rest)
      | rest => (items? steps nesting rest).map fun (items, rest) => (.arr items, rest)
    | '\x7b' :: _, 0 => none
    | '\x7b' :: rest, nesting + 1 => match skipGaps rest with
      | '\x7d' :: rest => some (.obj [], rest)
      | rest => (members? steps nesting [] rest).map fun (members, rest) => (.obj members, rest)
    | _, _ => (word? text).or (number? text)

/-- Split off the items of a list and its closing bracket. -/
def items? : (steps nesting : Nat) → List Char → Option (List Json × List Char)
  | 0, _, _ => none
  | steps + 1, nesting, text => do
    let (item, rest) ← document? steps nesting text
    match skipGaps rest with
    | ']' :: rest => pure ([item], rest)
    | ',' :: rest =>
      let (items, rest) ← items? steps nesting (skipGaps rest)
      pure (item :: items, rest)
    | _ => none

/-- Split off the members of an object and its closing brace, behind the members found so far. -/
def members? : (steps nesting : Nat) → List (String × Json) → List Char →
    Option (List (String × Json) × List Char)
  | 0, _, _, _ => none
  | steps + 1, nesting, found, text => do
    let (name, rest) ← match text with
      | '"' :: rest => textRest? [] rest
      | _ => none
    match skipGaps rest with
    | ':' :: rest =>
      let (value, rest) ← document? steps nesting (skipGaps rest)
      let found := put (String.ofList name) value found
      match skipGaps rest with
      | '\x7d' :: rest => pure (found, rest)
      | ',' :: rest => members? steps nesting found (skipGaps rest)
      | _ => none
    | _ => none

end

end Reader

/-- The document that a text writes, if it writes one and nothing else, and one that is nested no
deeper than `nesting`. -/
def ofNestedText? (nesting : Nat) (text : List Char) : Option Json :=
  match Reader.document? (2 * text.length + 1) nesting (Reader.skipGaps text) with
  | some (document, rest) => if (Reader.skipGaps rest).isEmpty then some document else none
  | none => none

/-- How deep the lists and objects of a document may be nested. -/
def maxNesting : Nat := 970

/-- The document that a text writes, if it writes one and nothing else. -/
def ofText? (text : List Char) : Option Json :=
  ofNestedText? maxNesting text

end UserDirectory.Json
