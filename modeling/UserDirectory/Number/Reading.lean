/-
Reading numbers from texts that people and forms write. Three readers are needed: floating-point
settings, whole numbers inside claims, and whole numbers of request parameters. The first two share
digit runs with single underscores between digits. The third looks for a number in plain form, and
if there is none, brings the text into one, which drops zeros and underscores in front of the
digits, or even of a minus, more freely. Only a number that is too long as it stands is said to be.
-/

import UserDirectory.Number.Binary64
import UserDirectory.Text.Blank
import UserDirectory.Text.Digit
import UserDirectory.Text.Quoted
import UserDirectory.Text.Split

namespace UserDirectory.Number

open Text

/-! ### Runs of digits -/

/-- Whether a text begins with a digit `0` to `9`. -/
def startsWithDigit : List Char → Bool
  | c :: _ => (asciiDigit? c).isSome
  | [] => false

/-- Split a text after its leading digits. One underscore may stand between two digits; the flag
says whether a digit came just before. -/
def digitRun (afterDigit : Bool) : List Char → List Nat × List Char
  | [] => ([], [])
  | c :: rest =>
    match asciiDigit? c with
    | some digit =>
      let (digits, remainder) := digitRun true rest
      (digit :: digits, remainder)
    | none =>
      if c = '_' ∧ afterDigit ∧ startsWithDigit rest then digitRun false rest else ([], c :: rest)

/-- Split off a sign; the flag says whether it is a minus. -/
def splitSign : List Char → Bool × List Char
  | '-' :: rest => (true, rest)
  | '+' :: rest => (false, rest)
  | text => (false, text)

/-- Give a magnitude its sign. -/
def signed (negative : Bool) (magnitude : Nat) : Int :=
  if negative then -(magnitude : Int) else magnitude

/-- Trim a number and write its digits in ASCII, whatever script they are in. -/
def normalDigits (text : String) : List Char :=
  (trimBy isNumberBlank text.toList).map fun c =>
    match digitValue? c with
    | some digit => digitChar digit
    | none => c

/-! ### Floating-point numbers -/

/-- The exponent part of a decimal, which may be missing. -/
def exponentPart? : List Char → Option Int
  | [] => some 0
  | c :: rest =>
    if c = 'e' ∨ c = 'E' then
      let (negative, rest) := splitSign rest
      match digitRun false rest with
      | ([], _) => none
      | (digits, []) => some (signed negative (ofDigits digits))
      | _ => none
    else none

/-- An unsigned decimal: digits on at least one side of the point, and perhaps an exponent. -/
def decimal? (negative : Bool) (text : List Char) : Option Binary64 := do
  let (whole, rest) := digitRun false text
  let (fraction, rest) := match rest with
    | '.' :: rest => digitRun false rest
    | rest => ([], rest)
  if whole.isEmpty ∧ fraction.isEmpty then none
  let exponent ← exponentPart? rest
  pure (.ofDecimal negative (ofDigits (whole ++ fraction)) (exponent - fraction.length))

/-- Read a floating-point number: a decimal, or a name of infinity or of no number. -/
def float? (text : String) : Option Binary64 :=
  let (negative, unsigned) := splitSign (normalDigits text)
  let name := String.ofList (unsigned.map Char.toLower)
  if name = "inf" ∨ name = "infinity" then some (.infinite negative)
  else if name = "nan" then some .nan
  else decimal? negative unsigned

/-- What is said of a text that is no floating-point number. -/
def notAFloat (text : String) : String :=
  "could not convert string to float: " ++ quoted text

/-! ### Whole numbers -/

/-- The most digits a whole number may be written with. -/
def maxIntegerDigits : Nat := 4300

/-- Whether a whole number can be written. -/
def isWritable (number : Int) : Bool :=
  number.natAbs < Nat.pow 10 maxIntegerDigits

/-- What is said of a whole number that cannot be written. -/
def unwritable : String :=
  "Exceeds the limit (" ++ toString maxIntegerDigits ++ " digits) for integer string conversion; "
    ++ "use sys.set_int_max_str_digits() to increase the limit"

/-- Read a whole number inside a claim: a sign and digits of any script, blanks around them. -/
def wholeNumber? (text : String) : Option Int :=
  let (negative, unsigned) := splitSign (normalDigits text)
  match digitRun false unsigned with
  | ([], _) => none
  | (digits, []) =>
    if maxIntegerDigits < digits.length then none else some (signed negative (ofDigits digits))
  | _ => none

/-- Why a text is not accepted as a whole number. -/
inductive IntegerProblem where
  /-- It is not written as one. -/
  | unreadable
  /-- It has too many digits. -/
  | oversized
deriving Repr, DecidableEq

/-- Pass over further zeros and underscores, given the one just passed. A digit or a minus ends
them; a point keeps the zero in front of it; of nothing else the last one is kept. -/
def pastZeros? (passed : Char) : List Char → Option (List Char)
  | [] => some [passed]
  | c :: rest =>
    if c = '0' ∨ c = '_' then pastZeros? c rest
    else if c = '.' then some (passed :: c :: rest)
    else if c = '-' ∨ (asciiDigit? c).isSome then some (c :: rest)
    else none

/-- Drop the zeros in front of the digits of a parameter, if it begins with a digit. -/
def withoutZeros? : List Char → Option (List Char)
  | [] => none
  | c :: rest =>
    if c = '0' then pastZeros? c rest
    else if (asciiDigit? c).isSome then some (c :: rest)
    else none

/-- Drop a fraction that leaves the value whole: a point and one or more zeros at the end. -/
def withoutFraction (text : List Char) : List Char :=
  match splitFirst? '.' text with
  | some (whole, zeros) => if !zeros.isEmpty && zeros.all (· = '0') then whole else text
  | none => text

/-- Drop the underscores of a parameter, if each stands alone and between other characters. -/
def withoutUnderscores? (text : List Char) : Option (List Char) :=
  if (pieces '_' text).length ≠ 1 ∧ (pieces '_' text).any List.isEmpty then none
  else some (text.filter (· ≠ '_'))

/-- Read a whole number in its plain form: perhaps a minus, and digits that begin with a zero only
if there is no other. The bound on the number of digits is checked before what stands behind
them. -/
def plainInteger (text : List Char) : Except IntegerProblem Int :=
  let (negative, unsigned) := match text with
    | '-' :: rest => (true, rest)
    | _ => (false, text)
  let (digits, rest) := unsigned.span fun c => (asciiDigit? c).isSome
  let number := .ok (signed negative (ofDigits (digits.filterMap asciiDigit?)))
  match digits with
  | [] => .error .unreadable
  | ['0'] => if rest.isEmpty then number else .error .unreadable
  | '0' :: _ => .error .unreadable
  | _ =>
    if maxIntegerDigits < digits.length then .error .oversized
    else if rest.isEmpty then number
    else .error .unreadable

/-- Bring a whole number of a request parameter into its plain form: without blanks around it, a
plus, zeros in front, a fraction of zeros, and underscores. -/
def plainForm? (text : String) : Option (List Char) := do
  let (negative, unsigned) := splitSign (trimBy isNumberBlank text.toList)
  let plain ← withoutUnderscores? (withoutFraction (← withoutZeros? unsigned))
  pure (if negative then '-' :: plain else plain)

/-- Read a whole number that is not in plain form. -/
def roughInteger (text : String) : Except IntegerProblem Int :=
  match (plainForm? text).map plainInteger with
  | some (.ok number) => .ok number
  | _ => .error .unreadable

/-- Read a whole number of a request parameter, as it stands between blanks if that is possible. -/
def parameterInteger (text : String) : Except IntegerProblem Int :=
  match plainInteger (trimBy isNumberBlank text.toList) with
  | .error .unreadable => roughInteger text
  | read => read

/-- The spellings of no and of yes in a request parameter, in any case. -/
def parameterBool? (text : String) : Option Bool :=
  let word := String.ofList (text.toList.map Char.toLower)
  if word ∈ ["0", "off", "f", "false", "n", "no"] then some false
  else if word ∈ ["1", "on", "t", "true", "y", "yes"] then some true
  else none

end UserDirectory.Number
