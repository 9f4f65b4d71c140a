/-
Decimal digits of every script, and hexadecimal ones. Each script's ten digits stand next to each
other, so a table of the zeros is enough: the value of a digit is its distance from the zero before
it.
-/

namespace UserDirectory.Text

/-- The code points of the digit zero in every script of Unicode 14.0. -/
def zeroDigits : List Nat :=
  [
   48, 1632, 1776, 1984, 2406, 2534, 2662, 2790, 2918, 3046, 3174, 3302, 3430, 3558, 3664, 3792,
   3872, 4160, 4240, 6112, 6160, 6470, 6608, 6784, 6800, 6992, 7088, 7232, 7248, 42528, 43216,
   43264, 43472, 43504, 43600, 44016, 65296, 66720, 68912, 69734, 69872, 69942, 70096, 70384,
   70736, 70864, 71248, 71360, 71472, 71904, 72016, 72784, 73040, 73120, 92768, 92864, 93008,
   120782, 120792, 120802, 120812, 120822, 123200, 123632, 125264, 130032]

/-- The value of a decimal digit of any script. -/
def digitValue? (c : Char) : Option Nat :=
  (zeroDigits.find? fun first => first ≤ c.toNat && c.toNat < first + 10).map (c.toNat - ·)

/-- The value of a digit `0` to `9`. -/
def asciiDigit? (c : Char) : Option Nat :=
  if '0' ≤ c ∧ c ≤ '9' then some (c.toNat - 48) else none

/-- The value of a hexadecimal digit in either case. -/
def hexValue? (c : Char) : Option Nat :=
  if '0' ≤ c ∧ c ≤ '9' then some (c.toNat - 48)
  else if 'a' ≤ c ∧ c ≤ 'f' then some (c.toNat - 87)
  else if 'A' ≤ c ∧ c ≤ 'F' then some (c.toNat - 55)
  else none

/-- Read a run of digits as the number it writes, most significant digit first. -/
def ofDigits (digits : List Nat) : Nat :=
  digits.foldl (fun value digit => 10 * value + digit) 0

/-- The character that writes a digit below ten. -/
def digitChar (digit : Nat) : Char :=
  Char.ofNat (48 + digit % 10)

/-- A number in exactly `width` decimal digits, its leading digits cut or filled with zeros. -/
def padded : (width : Nat) → Nat → List Char
  | 0, _ => []
  | width + 1, value => padded width (value / 10) ++ [digitChar value]

end UserDirectory.Text
