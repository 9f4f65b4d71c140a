/-
The two written forms of a point in time. The stored form has colons in the offset and shows every
part that is not zero; the served form has none and leaves the fraction of a second out, but keeps
the fraction of the offset. Both are built from lists of characters, field by field.
-/

import UserDirectory.Text.Digit
import UserDirectory.Text.Quoted
import UserDirectory.Timestamp.Basic

namespace UserDirectory.Timestamp

open Text

/-! ### Parts of an offset -/

/-- The whole seconds of an offset, without its sign. -/
def offsetSeconds (offset : Int) : Nat :=
  offset.natAbs / perSecond

/-- The microseconds of an offset beyond its whole seconds. -/
def offsetFraction (offset : Int) : Nat :=
  offset.natAbs % perSecond

/-- The sign of an offset. -/
def offsetSign (offset : Int) : Char :=
  if offset < 0 then '-' else '+'

/-- The fraction of a second, if it is not zero. -/
def fractionText (microsecond : Nat) : List Char :=
  if microsecond = 0 then [] else '.' :: padded 6 microsecond

/-- An offset with the given mark between hours, minutes and seconds. Seconds appear if they or the
fraction are not zero. -/
def offsetText (mark : List Char) (offset : Int) : List Char :=
  let seconds := offsetSeconds offset
  let fraction := offsetFraction offset
  offsetSign offset :: padded 2 (seconds / 3600) ++ mark ++ padded 2 (seconds / 60 % 60) ++
    (if seconds % 60 = 0 ∧ fraction = 0 then []
     else mark ++ padded 2 (seconds % 60) ++ fractionText fraction)

/-! ### The written forms -/

/-- The hours, minutes and seconds of the day. -/
def clockText (moment : Timestamp) : List Char :=
  padded 2 moment.hour ++ ':' :: padded 2 moment.minute ++ ':' :: padded 2 moment.second

/-- The month and the day, each behind its dash. -/
def monthDayText (moment : Timestamp) : List Char :=
  '-' :: padded 2 moment.month ++ '-' :: padded 2 moment.day

/-- The characters of the stored form. -/
def storedChars (moment : Timestamp) : List Char :=
  padded 4 moment.year ++ monthDayText moment ++ 'T' :: clockText moment ++
    fractionText moment.microsecond ++ (moment.offset.map (offsetText [':'])).getD []

/-- The stored form: every part that is not zero, colons in the offset. -/
def stored (moment : Timestamp) : String :=
  String.ofList moment.storedChars

/-- The characters of the served form. The year has as many digits as it needs. -/
def servedChars (moment : Timestamp) : List Char :=
  Nat.toDigits 10 moment.year ++ monthDayText moment ++ 'T' :: clockText moment ++
    (moment.offset.map (offsetText [])).getD []

/-- The served form: whole seconds, no colons in the offset. -/
def served (moment : Timestamp) : String :=
  String.ofList moment.servedChars

/-! ### What is said of a text or of fields that name no point in time -/

/-- A span of time as days, seconds and microseconds, of which only the days may be negative, and
only those that are not zero are shown. -/
def spanText (microseconds : Int) : String :=
  let days := Int.fdiv microseconds perDay
  let rest := Int.fmod microseconds perDay
  let seconds := rest / perSecond
  let fraction := rest % perSecond
  let shown := [("days", days), ("seconds", seconds), ("microseconds", fraction)].filter (·.2 ≠ 0)
  let parts := shown.map fun (name, value) => name ++ "=" ++ toString value
  "datetime.timedelta(" ++ (if parts.isEmpty then "0" else ", ".intercalate parts) ++ ")"

/-- The wording of a problem. -/
def Problem.message : Problem → String
  | .unreadable text => "Invalid isoformat string: " ++ quoted text
  | .farOffset offset =>
    "offset must be a timedelta strictly between -timedelta(hours=24) and timedelta(hours=24), not "
      ++ spanText offset ++ "."
  | Problem.year number => "year " ++ toString number ++ " is out of range"
  | .month => "month must be in 1..12"
  | .day => "day is out of range for month"
  | .hour => "hour must be in 0..23"
  | .minute => "minute must be in 0..59"
  | .second => "second must be in 0..59"
  | .microsecond => "microsecond must be in 0..999999"

end UserDirectory.Timestamp
