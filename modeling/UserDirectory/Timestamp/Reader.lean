/-
Reading a point in time from a text. The reader accepts calendar and week dates, with or without
dashes, any one character between date and time, times of one to three fields with or without
colons, a fraction behind a point or a comma, and an offset written as a time behind a sign. It
looks at the bytes of the text, a missing byte counting as zero. Where the date ends is decided
first, from the shape of the first bytes alone; the fields are read afterwards.
-/

import UserDirectory.Text.Utf8
import UserDirectory.Timestamp.Basic

namespace UserDirectory.Timestamp

/-! ### Bytes -/

/-- The byte of an ASCII character. -/
def byte (c : Char) : UInt8 :=
  c.toNat.toUInt8

/-- The value of a digit byte. -/
def digit? (b : UInt8) : Option Nat :=
  if 48 ≤ b ∧ b ≤ 57 then some (b.toNat - 48) else none

/-- Read exactly `count` digits, most significant first, onto a value. -/
def digits? (value : Nat) : (count : Nat) → List UInt8 → Option (Nat × List UInt8)
  | 0, rest => some (value, rest)
  | _ + 1, [] => none
  | count + 1, b :: rest =>
    match digit? b with
    | some digit => digits? (10 * value + digit) count rest
    | none => none

/-- Read exactly `count` digits as a number. -/
def number? (count : Nat) (text : List UInt8) : Option (Nat × List UInt8) :=
  digits? 0 count text

/-! ### Where the date ends -/

/-- The byte at a position, zero behind the end. -/
def byteAt (text : List UInt8) (position : Nat) : UInt8 :=
  text.getD position 0

/-- The position behind the run of digits that starts at `position`. -/
def digitsEnd (text : List UInt8) (position : Nat) : Nat :=
  position + ((text.drop position).takeWhile fun b => (digit? b).isSome).length

/-- Where the date ends. A dash in the fifth place means a calendar date of ten bytes or a week
date; a `W` there means a week date without dashes, whose digits tell a date with a day from one
without; anything else means a calendar date of eight bytes. -/
def dateEnd? (text : List UInt8) : Option Nat :=
  if text.length = 7 then some 7
  else if byteAt text 4 = byte '-' then
    if byteAt text 5 = byte 'W' then
      if 8 < text.length ∧ byteAt text 8 = byte '-' then
        if text.length = 9 then none
        else if 10 < text.length ∧ (digit? (byteAt text 10)).isSome then some 8
        else some 10
      else some 8
    else some 10
  else if byteAt text 4 = byte 'W' then
    let last := digitsEnd text 7
    if last < 9 then some last else if last % 2 = 0 then some 7 else some 8
  else some 8

/-! ### The date -/

/-- Drop a dash if dashes are in use. -/
def dash? (inUse : Bool) : List UInt8 → Option (List UInt8)
  | b :: rest => if inUse then (if b = byte '-' then some rest else none) else some (b :: rest)
  | [] => if inUse then none else some []

/-- Read a date from the start of a text. A week date that ends behind the week means its Monday. -/
def date? (text : List UInt8) (dateEnd : Nat) : Option (Nat × Nat × Nat) := do
  let (year, rest) ← number? 4 text
  let dashes := decide (rest.head? = some (byte '-'))
  let rest := if dashes then rest.drop 1 else rest
  if rest.head? = some (byte 'W') then
    let (week, rest) ← number? 2 (rest.drop 1)
    let day ←
      if text.length - rest.length < dateEnd then do
        let rest ← dash? dashes rest
        let (day, _) ← number? 1 rest
        pure day
      else pure 1
    Calendar.ofWeek? year week day
  else
    let (month, rest) ← number? 2 rest
    let rest ← dash? dashes rest
    let (day, _) ← number? 2 rest
    pure (year, month, day)

/-! ### A time of day, and the distance of a clock -/

/-- Fields of a time that has been read, and whether bytes were left over behind them. -/
structure Clock where
  /-- The hours. -/
  hour : Nat := 0
  /-- The minutes. -/
  minute : Nat := 0
  /-- The seconds. -/
  second : Nat := 0
  /-- The microseconds. -/
  microsecond : Nat := 0
  /-- Whether something stood behind the last field. -/
  leftover : Bool := false
deriving Repr, DecidableEq

/-- Set the field of a position: the hours, the minutes, then the seconds. -/
def Clock.setField (clock : Clock) : (position value : Nat) → Clock
  | 0, value => { clock with hour := value }
  | 1, value => { clock with minute := value }
  | _, value => { clock with second := value }

/-- Read up to six digits of a fraction; more of them are dropped. The part of the text that belongs
to this time ends `beyond` bytes before the end of the text. -/
def fraction? (beyond : Nat) (clock : Clock) (text : List UInt8) : Option Clock := do
  let count := min 6 (text.length - beyond)
  let (value, rest) ← number? count text
  let rest := rest.dropWhile fun b => (digit? b).isSome
  pure { clock with
    microsecond := value * Nat.pow 10 (6 - count)
    leftover := decide (rest.headD 0 ≠ 0) }

/-- Read the fields of a time from the given position on. One byte behind each field is taken to see
how it goes on; the first of these bytes decides whether colons are in use. -/
def fields? (beyond : Nat) : (remaining : Nat) → (colons : Bool) → Clock → List UInt8 →
    Option Clock
  | 0, _, clock, text => fraction? beyond clock text
  | remaining + 1, colons, clock, text => do
    let (value, rest) ← number? 2 text
    let clock := clock.setField (2 - remaining) value
    let next := rest.headD 0
    let colons := if remaining = 2 then decide (next = byte ':') else colons
    let behind := rest.drop 1
    if rest.length ≤ beyond + 1 then
      pure { clock with leftover := decide (next ≠ 0) }
    else if colons ∧ next = byte ':' then fields? beyond remaining colons clock behind
    else if next = byte '.' ∨ next = byte ',' then fraction? beyond clock behind
    else if colons then none
    else fields? beyond remaining colons clock rest

/-- Read a time that ends `beyond` bytes before the end of the text. -/
def clock? (beyond : Nat) (text : List UInt8) : Option Clock :=
  fields? beyond 3 true {} text

/-- Whether a byte is the sign of an offset. -/
def isSign (b : UInt8) : Bool :=
  b = byte '+' || b = byte '-'

/-- The microseconds that an offset is ahead of universal time. One without whole seconds is
none. -/
def Clock.offset (clock : Clock) (negative : Bool) : Int :=
  let seconds := clock.hour * 3600 + clock.minute * 60 + clock.second
  let distance : Int := if seconds = 0 then 0 else seconds * perSecond + clock.microsecond
  if negative then -distance else distance

/-- Read a time of day and, behind the first sign, the offset. Without an offset nothing may be left
over behind the time; behind an offset nothing may be left over either. -/
def timeAndOffset? (text : List UInt8) : Option (Clock × Option Int) := do
  let beyond := (text.dropWhile fun b => !isSign b).length
  let clock ← clock? beyond text
  match text.dropWhile fun b => !isSign b with
  | [] => if clock.leftover then none else pure (clock, none)
  | sign :: rest =>
    let distance ← clock? 0 rest
    if distance.leftover then none
    else pure (clock, some (distance.offset (sign = byte '-')))

/-! ### The whole text -/

/-- Drop the one character that stands between date and time, however many bytes it has. -/
def dropSeparator (text : List UInt8) : List UInt8 :=
  match text with
  | [] => []
  | b :: _ =>
    if b < 128 then text.drop 1
    else if b &&& 0xf0 = 0xe0 then text.drop 3
    else if b &&& 0xf0 = 0xf0 then text.drop 4
    else text.drop 2

/-- Read the fields of a text. -/
def fieldsOf? (text : List UInt8) : Option ((Nat × Nat × Nat) × Clock × Option Int) := do
  let dateEnd ← dateEnd? text
  let date ← date? text dateEnd
  if dateEnd < text.length then
    let (clock, offset) ← timeAndOffset? (dropSeparator (text.drop dateEnd))
    pure (date, clock, offset)
  else pure (date, {}, none)

/-- Write every `Z` as the offset of universal time. -/
def expandZulu (text : List Char) : List Char :=
  text.flatMap fun c => if c = 'Z' then ['+', '0', '0', ':', '0', '0'] else [c]

/-- The fewest characters a date can have. -/
def minLength : Nat := 7

/-- Read a point in time as it is written, with or without an offset. -/
def parseFields (text : List Char) : Except Problem Timestamp :=
  let unreadable := Problem.unreadable (String.ofList text)
  if text.length < minLength then .error unreadable
  else match fieldsOf? (Text.toUtf8 text) with
    | none => .error unreadable
    | some ((year, month, day), clock, offset) =>
      ofFields year month day clock.hour clock.minute clock.second clock.microsecond offset

/-- Read a stored point in time. A `Z` stands for universal time, and so does a missing offset. -/
def parse (text : String) : Except Problem Timestamp := do
  let moment ← parseFields (expandZulu text.toList)
  pure { moment with offset := some (moment.offset.getD 0) }

end UserDirectory.Timestamp
