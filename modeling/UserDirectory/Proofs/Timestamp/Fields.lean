/-
This file reads the parts of a written point in time back. A number in a fixed
count of digits is read as that number, and what follows it is left to be read. So
a date is read back from its digits and dashes, and a time, a fraction or the
distance of a clock from its digits, whether marks stand between them or not; what
is left out of the writing because it is zero is read as zero. Only of a distance
below a second nothing is kept.
-/

import Mathlib.Tactic.Ring
import UserDirectory.Timestamp.Reader
import UserDirectory.Timestamp.Writer

namespace UserDirectory.Timestamp

open Text

/-! ### Digits -/

/-- The bytes of characters that take one byte each. -/
def bytes (text : List Char) : List UInt8 :=
  text.map byte

theorem bytes_append (first second : List Char) :
    bytes (first ++ second) = bytes first ++ bytes second :=
  List.map_append

theorem digit?_digitChar (digit : Nat) :
    digit? (byte (digitChar digit)) = some (digit % 10) := by
  have each : ∀ small : Fin 10, digit? (byte (Char.ofNat (48 + small))) = some small.val := by
    decide
  exact each ⟨digit % 10, Nat.mod_lt _ (by decide)⟩

/-- A digit is no other byte. -/
theorem digitChar_ne {b : UInt8} (other : digit? b = none) (digit : Nat) :
    byte (digitChar digit) ≠ b := by
  rintro rfl
  rw [digit?_digitChar] at other
  cases other

/-- Digits are read in two goes as in one. -/
theorem digits?_add (value first second : Nat) (text : List UInt8) :
    digits? value (first + second) text =
      (digits? value first text).bind fun (read, rest) => digits? read second rest := by
  induction first generalizing value text with
  | zero => rw [Nat.zero_add, digits?, Option.bind_some]
  | succ first inductionHypothesis =>
    rw [Nat.succ_add]
    cases text with
    | nil => rfl
    | cons b rest =>
      rw [digits?, digits?]
      cases digit? b with
      | none => rfl
      | some digit => exact inductionHypothesis _ rest

theorem digits?_padded (value count number : Nat) (rest : List UInt8) :
    digits? value count (bytes (padded count number) ++ rest) =
      some (value * 10 ^ count + number % 10 ^ count, rest) := by
  induction count generalizing number rest with
  | zero => simp [padded, bytes, digits?, Nat.mod_one]
  | succ count inductionHypothesis =>
    rw [padded, bytes_append, List.append_assoc, digits?_add, inductionHypothesis,
      Option.bind_some]
    have last : digits? (value * 10 ^ count + number / 10 % 10 ^ count) 1
        (byte (digitChar number) :: rest) =
        some (10 * (value * 10 ^ count + number / 10 % 10 ^ count) + number % 10, rest) := by
      simp only [digits?, digit?_digitChar]
    refine last.trans ?_
    rw [Option.some.injEq, Prod.mk.injEq, Nat.pow_succ', Nat.mod_mul]
    exact ⟨by ring, rfl⟩

/-- A number in enough digits is read back, and what follows is left. -/
theorem number?_padded {count number : Nat} (fits : number < 10 ^ count) (rest : List UInt8) :
    number? count (bytes (padded count number) ++ rest) = some (number, rest) := by
  rw [number?, digits?_padded, Nat.zero_mul, Nat.zero_add, Nat.mod_eq_of_lt fits]

theorem length_padded (count number : Nat) : (padded count number).length = count := by
  induction count generalizing number with
  | zero => rfl
  | succ count inductionHypothesis =>
    rw [padded, List.length_append, inductionHypothesis, List.length_singleton]

/-! ### Dates -/

/-- A date of four, two and two digits behind dashes is read back. -/
theorem date?_dashed {year month day : Nat} (yearFits : year < 10 ^ 4) (monthFits : month < 10 ^ 2)
    (dayFits : day < 10 ^ 2) (rest : List UInt8) (dateEnd : Nat) :
    date? (bytes (padded 4 year) ++ byte '-' :: (bytes (padded 2 month) ++
      byte '-' :: (bytes (padded 2 day) ++ rest))) dateEnd = some (year, month, day) := by
  have noWeek : ¬ (bytes (padded 2 month) ++
      byte '-' :: (bytes (padded 2 day) ++ rest)).head? = some (byte 'W') := by
    intro week
    exact digitChar_ne (by decide) (month / 10) (Option.some.inj week)
  simp only [date?, number?_padded yearFits, number?_padded monthFits, number?_padded dayFits,
    bind, Option.bind_some, List.head?_cons, decide_true, if_true, List.drop_succ_cons,
    List.drop_zero, if_neg noWeek, dash?, pure]

/-- Such a date ends behind its day. -/
theorem dateEnd?_dashed (year month day : Nat) (rest : List UInt8) :
    dateEnd? (bytes (padded 4 year) ++ byte '-' :: (bytes (padded 2 month) ++
      byte '-' :: (bytes (padded 2 day) ++ rest))) = some 10 := by
  have long : (bytes (padded 4 year) ++ byte '-' :: (bytes (padded 2 month) ++
      byte '-' :: (bytes (padded 2 day) ++ rest))).length ≠ 7 := by
    simp only [bytes, List.length_append, List.length_cons, List.length_map, length_padded]
    omega
  have noWeek : ¬ byte (digitChar (month / 10)) = byte 'W' := digitChar_ne (by decide) _
  rw [dateEnd?, if_neg long]
  exact (if_pos rfl).trans (if_neg noWeek)

/-! ### Times -/

section Clocks

variable {clock : Clock} {beyond remaining value : Nat}

/-- Behind a field it is looked at one byte to see how the time goes on. -/
theorem fields?_padded (fits : value < 10 ^ 2) (colons : Bool) (rest : List UInt8) :
    fields? beyond (remaining + 1) colons clock (bytes (padded 2 value) ++ rest) =
      let read := clock.setField (2 - remaining) value
      let inUse := if remaining = 2 then decide (rest.headD 0 = byte ':') else colons
      if rest.length ≤ beyond + 1 then some { read with leftover := decide (rest.headD 0 ≠ 0) }
      else if inUse ∧ rest.headD 0 = byte ':' then fields? beyond remaining inUse read (rest.drop 1)
      else if rest.headD 0 = byte '.' ∨ rest.headD 0 = byte ',' then
        fraction? beyond read (rest.drop 1)
      else if inUse then none
      else fields? beyond remaining inUse read rest := by
  simp only [fields?, number?_padded fits, bind, Option.bind_some, pure]

/-- What may stand between the fields of a clock. -/
def IsMark (mark : List Char) : Prop :=
  mark = [] ∨ mark = [':']

/-- A field is read and then the next one, as long as the marks between them are of one kind. -/
theorem fields?_field {mark : List Char} (isMark : IsMark mark) (fits : value < 10 ^ 2)
    {colons : Bool} (alike : remaining = 2 ∨ colons = !mark.isEmpty) (next : Nat)
    {rest : List UInt8} (room : beyond ≤ rest.length) :
    fields? beyond (remaining + 1) colons clock
        (bytes (padded 2 value) ++ (bytes mark ++ (bytes (padded 2 next) ++ rest))) =
      fields? beyond remaining (!mark.isEmpty) (clock.setField (2 - remaining) value)
        (bytes (padded 2 next) ++ rest) := by
  have digits : (bytes (padded 2 next) ++ rest).length = 2 + rest.length := by
    simp only [bytes, List.length_append, List.length_map, length_padded]
  have inUse (found : Bool) (same : found = !mark.isEmpty) :
      (if remaining = 2 then found else colons) = !mark.isEmpty := by
    rcases alike with first | later
    · rw [if_pos first, same]
    · rw [same, later, ite_self]
  rw [fields?_padded fits]
  rcases isMark with rfl | rfl
  · have head : (bytes [] ++ (bytes (padded 2 next) ++ rest)).headD 0 =
        byte (digitChar (next / 10)) := rfl
    have noColon : ¬ byte (digitChar (next / 10)) = byte ':' := digitChar_ne (by decide) _
    have noPoint : ¬ (byte (digitChar (next / 10)) = byte '.' ∨
        byte (digitChar (next / 10)) = byte ',') :=
      not_or.mpr ⟨digitChar_ne (by decide) _, digitChar_ne (by decide) _⟩
    have none_used := inUse (decide (byte (digitChar (next / 10)) = byte ':'))
      (decide_eq_false noColon)
    have long : ¬ (bytes [] ++ (bytes (padded 2 next) ++ rest)).length ≤ beyond + 1 := by
      show ¬ (bytes (padded 2 next) ++ rest).length ≤ beyond + 1
      omega
    simp only [head, none_used]
    rw [if_neg long, if_neg fun both => noColon both.2, if_neg noPoint]
    rfl
  · have head : (bytes [':'] ++ (bytes (padded 2 next) ++ rest)).headD 0 = byte ':' := rfl
    have some_used := inUse true rfl
    have long : ¬ (bytes [':'] ++ (bytes (padded 2 next) ++ rest)).length ≤ beyond + 1 := by
      show ¬ (bytes (padded 2 next) ++ rest).length + 1 ≤ beyond + 1
      omega
    simp only [head, decide_true, some_used]
    rw [if_neg long, if_pos ⟨rfl, trivial⟩]
    rfl

/-- The last field is read with its fraction, if there is one. What follows stops the digits. -/
theorem fields?_last (fits : value < 10 ^ 2) {microsecond : Nat} (fine : microsecond < 10 ^ 6)
    (whole : clock.microsecond = 0) (colons : Bool) {rest : List UInt8}
    (stops : ∀ b ∈ rest.head?, digit? b = none) :
    fields? rest.length (remaining + 1) colons clock
        (bytes (padded 2 value) ++ (bytes (fractionText microsecond) ++ rest)) =
      some { clock.setField (2 - remaining) value with
        microsecond := microsecond, leftover := decide (rest.headD 0 ≠ 0) } := by
  have kept : (clock.setField (2 - remaining) value).microsecond = 0 := by
    rw [← whole]
    rcases 2 - remaining with _ | _ | _ <;> rfl
  rw [fields?_padded fits]
  by_cases zero : microsecond = 0
  · have none_written : bytes (fractionText microsecond) ++ rest = rest := by
      rw [zero]
      rfl
    simp only [none_written]
    rw [if_pos (Nat.le_succ _), zero, ← kept]
  · have written : bytes (fractionText microsecond) ++ rest =
        byte '.' :: (bytes (padded 6 microsecond) ++ rest) := by
      rw [fractionText, if_neg zero]
      rfl
    have digits : (bytes (padded 6 microsecond) ++ rest).length = 6 + rest.length := by
      simp only [bytes, List.length_append, List.length_map, length_padded]
    have long : ¬ (byte '.' :: (bytes (padded 6 microsecond) ++ rest)).length ≤
        rest.length + 1 := by
      rw [List.length_cons, digits]
      omega
    have stopped : rest.dropWhile (fun b => (digit? b).isSome) = rest := by
      cases rest with
      | nil => rfl
      | cons b others =>
        rw [List.dropWhile_cons_of_neg]
        rw [stops b rfl]
        decide
    have all : min 6 ((bytes (padded 6 microsecond) ++ rest).length - rest.length) = 6 := by
      omega
    have head : (byte '.' :: (bytes (padded 6 microsecond) ++ rest)).headD 0 = byte '.' := rfl
    have noColon : ¬ byte '.' = byte ':' := by decide
    simp only [written, head]
    rw [if_neg long, if_neg fun both => noColon both.2, if_pos (Or.inl trivial)]
    simp only [List.drop_succ_cons, List.drop_zero, fraction?, all, number?_padded fine, bind,
      Option.bind_some, stopped, pure]
    rw [show microsecond * Nat.pow 10 (6 - 6) = microsecond from Nat.mul_one _]

/-- Hours, minutes and seconds with a fraction are read back, whatever follows that is no digit. -/
theorem clock?_full {mark : List Char} (isMark : IsMark mark) {hour minute second microsecond : Nat}
    (hourFits : hour < 10 ^ 2) (minuteFits : minute < 10 ^ 2) (secondFits : second < 10 ^ 2)
    (fine : microsecond < 10 ^ 6) {rest : List UInt8}
    (stops : ∀ b ∈ rest.head?, digit? b = none) :
    clock? rest.length (bytes (padded 2 hour) ++ (bytes mark ++ (bytes (padded 2 minute) ++
        (bytes mark ++ (bytes (padded 2 second) ++
          (bytes (fractionText microsecond) ++ rest)))))) =
      some ⟨hour, minute, second, microsecond, decide (rest.headD 0 ≠ 0)⟩ := by
  have room : rest.length ≤ (bytes (fractionText microsecond) ++ rest).length := by
    rw [List.length_append]
    exact Nat.le_add_left _ _
  have more : rest.length ≤ (bytes mark ++ (bytes (padded 2 second) ++
      (bytes (fractionText microsecond) ++ rest))).length := by
    rw [List.length_append, List.length_append]
    exact Nat.le_trans room (Nat.le_trans (Nat.le_add_left _ _) (Nat.le_add_left _ _))
  rw [clock?, fields?_field isMark hourFits (Or.inl rfl) minute more,
    fields?_field isMark minuteFits (Or.inr rfl) second room,
    fields?_last secondFits fine rfl _ stops]
  rfl

/-- Hours and minutes are read back alone. -/
theorem clock?_short {mark : List Char} (isMark : IsMark mark) {hour minute : Nat}
    (hourFits : hour < 10 ^ 2) (minuteFits : minute < 10 ^ 2) :
    clock? 0 (bytes (padded 2 hour) ++ (bytes mark ++ bytes (padded 2 minute))) =
      some ⟨hour, minute, 0, 0, false⟩ := by
  have last : fields? 0 2 (!mark.isEmpty) ⟨hour, 0, 0, 0, false⟩
      (bytes (padded 2 minute) ++ (bytes (fractionText 0) ++ [])) =
        some ⟨hour, minute, 0, 0, false⟩ :=
    fields?_last minuteFits (by decide) rfl _ nofun
  have room : 0 ≤ ([] : List UInt8).length := Nat.le_refl 0
  exact (fields?_field isMark hourFits (Or.inl rfl) minute room).trans last

end Clocks

/-! ### Distances -/

/-- The distance of a clock that is kept: none below a second. -/
def keptOffset (offset : Int) : Int :=
  if offset.natAbs < perSecond then 0 else offset

/-- A written distance is read back field by field, whether there are marks or not. -/
theorem clock?_distance {mark : List Char} (isMark : IsMark mark) {offset : Int}
    (near : nearOffset offset = true) :
    clock? 0 (bytes (offsetText mark offset).tail) =
      some ⟨offsetSeconds offset / 3600, offsetSeconds offset / 60 % 60,
        offsetSeconds offset % 60, offsetFraction offset, false⟩ := by
  have withinDay : offset.natAbs < 86400 * perSecond := of_decide_eq_true near
  have seconds : offsetSeconds offset < 86400 := Nat.div_lt_of_lt_mul (Nat.mul_comm _ _ ▸ withinDay)
  have hourFits : offsetSeconds offset / 3600 < 10 ^ 2 := by omega
  have minuteFits : offsetSeconds offset / 60 % 60 < 10 ^ 2 := by omega
  have secondFits : offsetSeconds offset % 60 < 10 ^ 2 := by omega
  have fine : offsetFraction offset < 10 ^ 6 := Nat.mod_lt _ (by decide)
  by_cases short : offsetSeconds offset % 60 = 0 ∧ offsetFraction offset = 0
  · have written : bytes (offsetText mark offset).tail =
        bytes (padded 2 (offsetSeconds offset / 3600)) ++
          (bytes mark ++ bytes (padded 2 (offsetSeconds offset / 60 % 60))) := by
      simp only [offsetText, if_pos short, List.append_nil, List.cons_append, List.tail_cons,
        bytes_append, List.append_assoc]
    rw [written, clock?_short isMark hourFits minuteFits, short.1, short.2]
  · have written : bytes (offsetText mark offset).tail =
        bytes (padded 2 (offsetSeconds offset / 3600)) ++ (bytes mark ++
          (bytes (padded 2 (offsetSeconds offset / 60 % 60)) ++ (bytes mark ++
            (bytes (padded 2 (offsetSeconds offset % 60)) ++
              (bytes (fractionText (offsetFraction offset)) ++ []))))) := by
      simp only [offsetText, if_neg short, List.cons_append, List.tail_cons, bytes_append,
        List.append_assoc, List.append_nil]
    rw [written]
    exact clock?_full isMark hourFits minuteFits secondFits fine nofun

/-- The fields of a distance are put together to what is kept of it. -/
theorem offset_of_fields (offset : Int) :
    (⟨offsetSeconds offset / 3600, offsetSeconds offset / 60 % 60, offsetSeconds offset % 60,
      offsetFraction offset, false⟩ : Clock).offset (byte (offsetSign offset) = byte '-') =
        keptOffset offset := by
  have seconds : offsetSeconds offset / 3600 * 3600 + offsetSeconds offset / 60 % 60 * 60 +
      offsetSeconds offset % 60 = offsetSeconds offset := by omega
  have parts : (offsetSeconds offset : Int) * perSecond + offsetFraction offset =
      offset.natAbs := by
    exact_mod_cast Nat.div_add_mod' offset.natAbs perSecond
  have none_whole : offsetSeconds offset = 0 ↔ offset.natAbs < perSecond :=
    Nat.div_eq_zero_iff_lt (by decide)
  have negative : (byte (offsetSign offset) = byte '-') ↔ offset < 0 := by
    unfold offsetSign
    split
    · rename_i below
      exact iff_of_true rfl below
    · rename_i above
      exact iff_of_false (by decide) above
  simp only [Clock.offset, seconds, none_whole, negative, keptOffset]
  by_cases small : offset.natAbs < perSecond
  · simp only [if_pos small, Int.neg_zero, ite_self]
  · simp only [if_neg small, parts, decide_eq_true_eq]
    split
    · omega
    · omega

end UserDirectory.Timestamp
