/-
Binary floating-point numbers of 64 bits, as exact rationals. A number is a whole number of units of
a power of two, so reading a decimal is one rounding of a rational and printing is a search for the
coarsest decimal grid that still names the number. No machine arithmetic is involved, so everything
here can be computed inside a proof.
-/

namespace UserDirectory

/-! ### A number is a count of units of a power of two -/

/-- A 64-bit binary floating-point number. A finite one is `units · 2 ^ exponent`, with at most 53
bits of units and no exponent below -1074. -/
inductive Binary64 where
  /-- The result that is no number. -/
  | nan
  /-- A magnitude beyond the largest finite number. -/
  | infinite (negative : Bool)
  /-- A finite number, zero included. -/
  | finite (negative : Bool) (units : Nat) (exponent : Int)
deriving Repr, DecidableEq

namespace Binary64

/-- The exponent of the finest grid of numbers. -/
def leastExponent : Int := -1074

/-- The exponent of the coarsest grid of finite numbers. -/
def greatestExponent : Int := 971

/-- The least units of a number that is not on the finest grid: 53 bits, the first of them set. -/
def leastFullUnits : Nat := 4503599627370496

/-- The exact value of a finite number. -/
def toRat? : Binary64 → Option Rat
  | .finite negative units exponent =>
    some ((if negative then -1 else 1) * ((units : Rat) * (2 : Rat) ^ exponent))
  | _ => none

/-- The whole number that a number is, if it is one. -/
def whole? (number : Binary64) : Option Int :=
  match number.toRat? with
  | some value => if value.den = 1 then some value.num else none
  | none => none

/-- A finite number without its fraction. -/
def truncated? (number : Binary64) : Option Int :=
  number.toRat?.map fun value => if value < 0 then -(-value).floor else value.floor

/-- Whether a number is a zero of either sign. -/
def isZero : Binary64 → Bool
  | .finite _ units _ => units = 0
  | _ => false

/-! ### The order of numbers -/

/-- A point of the line of numbers, which has two ends. -/
inductive Point where
  /-- The lower end. -/
  | belowAll
  /-- The point of a rational. -/
  | exactly (value : Rat)
  /-- The upper end. -/
  | aboveAll
deriving Repr, DecidableEq

/-- Whether a point lies strictly below another one. -/
def Point.isBelow : Point → Point → Bool
  | .belowAll, .belowAll => false
  | .belowAll, _ => true
  | .exactly first, .exactly second => first < second
  | .exactly _, .aboveAll => true
  | _, _ => false

/-- The point of a number, if it has one. -/
def point? : Binary64 → Option Point
  | .nan => none
  | .infinite negative => some (if negative then .belowAll else .aboveAll)
  | number => number.toRat?.map .exactly

/-! ### Rounding a rational to the nearest number -/

/-- The whole number nearest to a rational, the even one of two equally near. -/
def roundHalfEven (value : Rat) : Int :=
  let below := value.floor
  let rest := value - below
  if rest < 1 / 2 then below
  else if 1 / 2 < rest then below + 1
  else if below % 2 = 0 then below else below + 1

/-- The exponent of the greatest power of two that is not above a positive rational. -/
def floorLog2 (value : Rat) : Int :=
  let guess : Int := (value.num.toNat.log2 : Int) - (value.den.log2 : Int)
  if value < (2 : Rat) ^ guess then guess - 1 else guess

/-- The number nearest to a magnitude, with the given sign; a magnitude that rounds beyond the
largest number is infinite. -/
def ofMagnitude (negative : Bool) (magnitude : Rat) : Binary64 :=
  if magnitude = 0 then .finite negative 0 leastExponent
  else
    let exponent := max leastExponent (floorLog2 magnitude - 52)
    let units := (roundHalfEven (magnitude / (2 : Rat) ^ exponent)).toNat
    let carried := decide (units = 2 * leastFullUnits)
    let units := if carried then leastFullUnits else units
    let exponent := if carried then exponent + 1 else exponent
    if greatestExponent < exponent then .infinite negative else .finite negative units exponent

/-- The number nearest to a whole number, unless that is beyond the largest finite one. -/
def ofInt? (value : Int) : Option Binary64 :=
  match ofMagnitude (value < 0) value.natAbs with
  | .infinite _ => none
  | number => some number

/-- The number nearest to the sum of two numbers. A sum of nothing is negative only if both numbers
are, and the two infinities have no sum. -/
def plus : Binary64 → Binary64 → Binary64
  | .nan, _ | _, .nan => .nan
  | .infinite first, .infinite second => if first = second then .infinite first else .nan
  | .infinite negative, _ | _, .infinite negative => .infinite negative
  | .finite first units exponent, .finite second otherUnits otherExponent =>
    let value (negative : Bool) (units : Nat) (exponent : Int) : Rat :=
      (if negative then -1 else 1) * ((units : Rat) * (2 : Rat) ^ exponent)
    let sum := value first units exponent + value second otherUnits otherExponent
    if sum = 0 then .finite (first && second) 0 leastExponent
    else ofMagnitude (sum < 0) (if sum < 0 then -sum else sum)

/-- The number nearest to a multiple of a number. -/
def scaled (factor : Nat) : Binary64 → Binary64
  | .finite negative units exponent =>
    ofMagnitude negative ((factor : Rat) * ((units : Rat) * (2 : Rat) ^ exponent))
  | other => other

/-- The number nearest to `digits · 10 ^ power`. Magnitudes far outside the range are settled by
their size alone, so the cost does not grow with the power. -/
def ofDecimal (negative : Bool) (digits : Nat) (power : Int) : Binary64 :=
  let size : Int := (Nat.toDigits 10 digits).length + power
  if digits = 0 ∨ size < -400 then .finite negative 0 leastExponent
  else if 400 < size then .infinite negative
  else ofMagnitude negative ((digits : Rat) * (10 : Rat) ^ power)

/-! ### The fewest digits that read back -/

/-- Whether a decimal lies among the rationals that round to `units · 2 ^ exponent`. The ends belong
to it when the units are even. -/
def namedBy (units : Nat) (exponent : Int) (candidate : Rat) : Bool :=
  let unit := (2 : Rat) ^ exponent
  let value := (units : Rat) * unit
  let below := if units = leastFullUnits ∧ leastExponent < exponent then unit / 4 else unit / 2
  let above := unit / 2
  if units % 2 = 0 then value - below ≤ candidate && candidate ≤ value + above
  else value - below < candidate && candidate < value + above

/-- The number of decimal places before the point of a positive rational: `10 ^ (n - 1) ≤ v < 10 ^
n`. -/
def decimalSize (value : Rat) : Int :=
  let whole := value.floor.toNat
  if whole ≠ 0 then (Nat.toDigits 10 whole).length
  else
    -- below one: count the zeros behind the point by the digits of the reciprocal
    let zeros : Int := ((Nat.toDigits 10 (1 / value).floor.toNat).length : Int)
    if (10 : Rat) ^ (-zeros + 1) ≤ value then -zeros + 2 else -zeros + 1

/-- The point of a grid of the given unit that names the number and lies nearest to it, if one of
its two neighbours on the grid does. -/
def gridPoint? (units : Nat) (exponent : Int) (unit : Rat) : Option Nat :=
  let value := (units : Rat) * (2 : Rat) ^ exponent
  let low := (value / unit).floor.toNat
  let lowNames := namedBy units exponent (low * unit)
  let highNames := namedBy units exponent ((low + 1 : Nat) * unit)
  let middle := (2 * low + 1 : Nat) * unit / 2
  match lowNames, highNames with
  | true, true => some (if value < middle ∨ (value = middle ∧ low % 2 = 0) then low else low + 1)
  | true, false => some low
  | false, true => some (low + 1)
  | false, false => none

/-- Search grids of one digit, of two, and so on, for the first that names the number. -/
def searchDigits (units : Nat) (exponent size : Int) (count : Nat) : (remaining : Nat) → Nat × Int
  | 0 => (units, exponent)
  | remaining + 1 =>
    let power := size - count
    match gridPoint? units exponent ((10 : Rat) ^ power) with
    | some point => (point, power)
    | none => searchDigits units exponent size (count + 1) remaining

/-- The shortest decimal that reads back as `units · 2 ^ exponent`, as digits and a power of ten.
Seventeen digits always suffice. -/
def shortest (units : Nat) (exponent : Int) : Nat × Int :=
  searchDigits units exponent (decimalSize ((units : Rat) * (2 : Rat) ^ exponent)) 1 17

/-! ### How a number is written -/

/-- Powers of ten of the leading digit that are written without an exponent. -/
def positionalPowers : Int × Int := (-4, 15)

/-- The exponent of a number: a sign and at least two digits. -/
def exponentText (power : Int) : String :=
  let digits := Nat.toDigits 10 power.natAbs
  let digits := if digits.length < 2 then '0' :: digits else digits
  String.ofList ('e' :: (if power < 0 then '-' else '+') :: digits)

/-- Write digits with the power of ten of the last one. A number without a fraction ends in `.0`. -/
def decimalText (digits : Nat) (power : Int) : String :=
  let text := Nat.toDigits 10 digits
  let leading : Int := text.length - 1 + power
  if positionalPowers.1 ≤ leading ∧ leading ≤ positionalPowers.2 then
    if 0 ≤ power then String.ofList (text ++ List.replicate power.toNat '0') ++ ".0"
    else if 0 ≤ leading then
      String.ofList (text.take (leading.toNat + 1) ++ '.' :: text.drop (leading.toNat + 1))
    else
      String.ofList ('0' :: '.' :: List.replicate (-leading - 1).toNat '0' ++ text)
  else
    match text with
    | [single] => String.ofList [single] ++ exponentText leading
    | first :: rest => String.ofList (first :: '.' :: rest) ++ exponentText leading
    | [] => ""

/-- Remove the zeros at the end of the digits, raising the power to match. -/
def withoutTrailingZeros (digits : Nat) (power : Int) : (fuel : Nat) → Nat × Int
  | 0 => (digits, power)
  | fuel + 1 =>
    if digits ≠ 0 ∧ digits % 10 = 0 then withoutTrailingZeros (digits / 10) (power + 1) fuel
    else (digits, power)

/-- The text of a number: the fewest digits that read back. -/
def text : Binary64 → String
  | .nan => "nan"
  | .infinite negative => if negative then "-inf" else "inf"
  | .finite negative units exponent =>
    let sign := if negative then "-" else ""
    if units = 0 then sign ++ "0.0"
    else
      let (digits, power) := shortest units exponent
      let (digits, power) := withoutTrailingZeros digits power 17
      sign ++ decimalText digits power

end Binary64

end UserDirectory
