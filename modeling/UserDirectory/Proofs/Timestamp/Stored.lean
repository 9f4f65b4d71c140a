/-
This file proves that points in time survive being stored. The stored text of one
is read as the same date, time and distance, whichever of its parts are left out
because they are zero; a text without a distance is read as universal time, and so
it is with a mark of universal time behind it. Only distances below a second are
lost. None is ever read that is below a second, so what has once been read is read
again from its stored text.
-/

import Mathlib.Data.List.Basic
import UserDirectory.Proofs.Concurrent.Calls
import UserDirectory.Proofs.Timestamp.Fields

namespace UserDirectory.Timestamp

open Text

/-! ### The characters of written points in time -/

/-- The characters that clocks are written with. -/
def clockChars : List Char :=
  ['0', '1', '2', '3', '4', '5', '6', '7', '8', '9', ':', '.']

/-- The characters that points in time are written with. -/
def momentChars : List Char :=
  'T' :: '-' :: '+' :: clockChars

theorem clockChars_subset : clockChars ⊆ momentChars :=
  fun _ member => List.mem_cons_of_mem _ (List.mem_cons_of_mem _ (List.mem_cons_of_mem _ member))

theorem padded_subset (count number : Nat) : padded count number ⊆ clockChars := by
  induction count generalizing number with
  | zero => exact List.nil_subset _
  | succ count inductionHypothesis =>
    have each : ∀ small : Fin 10, Char.ofNat (48 + small) ∈ clockChars := by decide
    have last : digitChar number ∈ clockChars := each ⟨number % 10, Nat.mod_lt _ (by decide)⟩
    rw [padded, List.append_subset]
    exact ⟨inductionHypothesis _, List.cons_subset.mpr ⟨last, List.nil_subset _⟩⟩

theorem fractionText_subset (microsecond : Nat) : fractionText microsecond ⊆ clockChars := by
  unfold fractionText
  split
  · exact List.nil_subset _
  · exact List.cons_subset.mpr ⟨by decide, padded_subset 6 microsecond⟩

theorem clockText_subset (moment : Timestamp) : clockText moment ⊆ clockChars := by
  unfold clockText
  simp only [List.append_subset, List.cons_subset]
  exact ⟨⟨padded_subset _ _, by decide, padded_subset _ _⟩, by decide, padded_subset _ _⟩

theorem offsetText_subset {mark : List Char} (isMark : IsMark mark) (offset : Int) :
    offsetText mark offset ⊆ momentChars := by
  have digits (count number : Nat) : padded count number ⊆ momentChars :=
    List.Subset.trans (padded_subset count number) clockChars_subset
  have marks : mark ⊆ momentChars := by
    rcases isMark with rfl | rfl <;> decide
  have sign : offsetSign offset ∈ momentChars := by
    unfold offsetSign
    split <;> decide
  have fraction := List.Subset.trans (fractionText_subset (offsetFraction offset)) clockChars_subset
  have seconds : (if offsetSeconds offset % 60 = 0 ∧ offsetFraction offset = 0 then []
      else mark ++ padded 2 (offsetSeconds offset % 60) ++ fractionText (offsetFraction offset)) ⊆
        momentChars := by
    split
    · exact List.nil_subset _
    · simp only [List.append_subset]
      exact ⟨⟨marks, digits _ _⟩, fraction⟩
  simp only [offsetText, List.append_subset, List.cons_subset]
  exact ⟨⟨⟨⟨sign, digits _ _⟩, marks⟩, digits _ _⟩, seconds⟩

/-- The characters of a point in time with four digits for the year and a mark in its distance. -/
def writtenChars (mark : List Char) (moment : Timestamp) : List Char :=
  padded 4 moment.year ++ monthDayText moment ++ 'T' :: clockText moment ++
    fractionText moment.microsecond ++ (moment.offset.map (offsetText mark)).getD []

theorem writtenChars_subset {mark : List Char} (isMark : IsMark mark) (moment : Timestamp) :
    moment.writtenChars mark ⊆ momentChars := by
  have digits (count number : Nat) : padded count number ⊆ momentChars :=
    List.Subset.trans (padded_subset count number) clockChars_subset
  have clock := List.Subset.trans (clockText_subset moment) clockChars_subset
  have fraction := List.Subset.trans (fractionText_subset moment.microsecond) clockChars_subset
  have offset : (moment.offset.map (offsetText mark)).getD [] ⊆ momentChars := by
    cases moment.offset with
    | none => exact List.nil_subset _
    | some offset => exact offsetText_subset isMark offset
  unfold writtenChars monthDayText
  simp only [List.append_subset, List.cons_subset]
  exact ⟨⟨⟨⟨digits _ _, ⟨by decide, digits _ _⟩, by decide, digits _ _⟩, by decide, clock⟩,
    fraction⟩, offset⟩

/-- Each of these characters takes one byte. -/
theorem toUtf8_eq_bytes {text : List Char} (written : text ⊆ momentChars) :
    toUtf8 text = bytes text := by
  have each : ∀ c ∈ momentChars, String.utf8EncodeChar c = [byte c] :=
    List.forall_iff_forall_mem.mp (by decide)
  rw [toUtf8, List.flatMap_congr fun c member => each c (written member)]
  exact List.flatMap_pure_eq_map byte text

/-- None of them is replaced. -/
theorem expandZulu_eq_self {text : List Char} (written : text ⊆ momentChars) :
    expandZulu text = text := by
  have each : ∀ c ∈ momentChars, (if c = 'Z' then ['+', '0', '0', ':', '0', '0'] else [c]) = [c] :=
    List.forall_iff_forall_mem.mp (by decide)
  rw [expandZulu, List.flatMap_congr fun c member => each c (written member)]
  exact List.flatMap_singleton' text

/-! ### Reading them back -/

/-- A distance begins with its sign. -/
theorem byte_offsetSign (offset : Int) : isSign (byte (offsetSign offset)) = true ∧
    digit? (byte (offsetSign offset)) = none ∧ byte (offsetSign offset) ≠ 0 := by
  unfold offsetSign
  split <;> decide

/-- A time of day is read back together with the distance behind it, as far as that is kept. -/
theorem timeAndOffset?_written {time : List Char} (unsigned : time ⊆ clockChars) (clock : Clock)
    (reads : ∀ rest : List UInt8, (∀ b ∈ rest.head?, digit? b = none) →
      clock? rest.length (bytes time ++ rest) =
        some { clock with leftover := decide (rest.headD 0 ≠ 0) })
    {mark : List Char} (isMark : IsMark mark) {offset : Option Int}
    (near : ∀ distance ∈ offset, nearOffset distance = true) :
    timeAndOffset? (bytes time ++ bytes ((offset.map (offsetText mark)).getD [])) =
      some ({ clock with leftover := offset.isSome }, offset.map keptOffset) := by
  have signless : ∀ b ∈ bytes time, (!isSign b) = true := by
    have each : ∀ c ∈ clockChars, (!isSign (byte c)) = true :=
      List.forall_iff_forall_mem.mp (by decide)
    intro b member
    obtain ⟨c, inTime, rfl⟩ := List.mem_map.mp member
    exact each c (unsigned inTime)
  have stopped (rest : List UInt8) (sign : ∀ b ∈ rest.head?, isSign b = true) :
      (bytes time ++ rest).dropWhile (fun b => !isSign b) = rest := by
    rw [List.dropWhile_append_of_pos signless]
    cases rest with
    | nil => rfl
    | cons b others => rw [List.dropWhile_cons_of_neg (by simp [sign b rfl])]
  cases offset with
  | none =>
    have read := reads [] nofun
    have none_left : decide (([] : List UInt8).headD 0 ≠ 0) = false := rfl
    rw [none_left] at read
    simp only [Option.map_none, Option.getD_none, show bytes [] = [] from rfl, timeAndOffset?,
      stopped [] nofun, read, bind, Option.bind_some, pure]
    rfl
  | some distance =>
    obtain ⟨signed, noDigit, nonzero⟩ := byte_offsetSign distance
    have written : bytes (offsetText mark distance) =
        byte (offsetSign distance) :: bytes (offsetText mark distance).tail := rfl
    have read := reads (bytes (offsetText mark distance)) (by rintro b ⟨⟩; exact noDigit)
    have some_left : decide ((bytes (offsetText mark distance)).headD 0 ≠ 0) = true :=
      decide_eq_true nonzero
    rw [some_left] at read
    have dropped := stopped (bytes (offsetText mark distance)) (by rintro b ⟨⟩; exact signed)
    simp only [Option.map_some, Option.getD_some, timeAndOffset?, dropped, read, bind,
      Option.bind_some]
    rw [written]
    simp only [clock?_distance isMark (near distance rfl), Option.bind_some, offset_of_fields]
    rfl

/-- A date with dashes is read back, and behind the character after it a time begins. -/
theorem fieldsOf?_dashed {year month day : Nat} (yearFits : year < 10 ^ 4)
    (monthFits : month < 10 ^ 2) (dayFits : day < 10 ^ 2) (rest : List UInt8) :
    fieldsOf? (bytes (padded 4 year) ++ byte '-' :: (bytes (padded 2 month) ++
        byte '-' :: (bytes (padded 2 day) ++ byte 'T' :: rest))) =
      (timeAndOffset? rest).map fun (clock, offset) => ((year, month, day), clock, offset) := by
  have behind : (bytes (padded 4 year) ++ byte '-' :: (bytes (padded 2 month) ++
      byte '-' :: (bytes (padded 2 day) ++ byte 'T' :: rest))).drop 10 = byte 'T' :: rest := rfl
  have separated : dropSeparator (byte 'T' :: rest) = rest := rfl
  have long : 10 < (bytes (padded 4 year) ++ byte '-' :: (bytes (padded 2 month) ++
      byte '-' :: (bytes (padded 2 day) ++ byte 'T' :: rest))).length := by
    simp only [bytes, List.length_append, List.length_cons, List.length_map, length_padded]
    omega
  simp only [fieldsOf?, dateEnd?_dashed, date?_dashed yearFits monthFits dayFits, bind,
    Option.bind_some, if_pos long, behind, separated]
  cases timeAndOffset? rest with
  | none => rfl
  | some read => rfl

/-! ### Fields that name a point in time -/

theorem Valid.yearFits {moment : Timestamp} (valid : moment.Valid) : moment.year < 10 ^ 4 :=
  Nat.lt_succ_of_le valid.year.2

theorem Valid.monthFits {moment : Timestamp} (valid : moment.Valid) : moment.month < 10 ^ 2 :=
  Nat.lt_of_le_of_lt valid.month.2 (by decide)

theorem daysInMonth_le (year month : Nat) : Calendar.daysInMonth year month ≤ 31 := by
  unfold Calendar.daysInMonth
  split
  · split <;> decide
  · split <;> decide

theorem Valid.dayFits {moment : Timestamp} (valid : moment.Valid) : moment.day < 10 ^ 2 :=
  Nat.lt_of_le_of_lt valid.day.2 (Nat.lt_of_le_of_lt (daysInMonth_le _ _) (by decide))

theorem unless_eq_ok_iff {condition : Prop} [Decidable condition] {problem : Problem}
    {rest : Except Problem Timestamp} {moment : Timestamp} :
    (if condition then .error problem else rest) = .ok moment ↔
      ¬ condition ∧ rest = .ok moment := by
  by_cases holds : condition
  · simp [holds]
  · simp [holds]

/-- Fields name a point in time just if that is valid and has them. -/
theorem ofFields_eq_ok_iff {year month day hour minute second microsecond : Int}
    {offset : Option Int} {moment : Timestamp} :
    ofFields year month day hour minute second microsecond offset = .ok moment ↔
      moment.Valid ∧ year = moment.year ∧ month = moment.month ∧ day = moment.day ∧
        hour = moment.hour ∧ minute = moment.minute ∧ second = moment.second ∧
          microsecond = moment.microsecond ∧ offset = moment.offset := by
  unfold ofFields
  simp only [bind, Except.bind, pure, Except.pure, throw, throwThe, MonadExceptOf.throw]
  cases far : offset.filter (!nearOffset ·) with
  | some distance =>
    refine iff_of_false nofun ?_
    rintro ⟨valid, -, -, -, -, -, -, -, rfl⟩
    obtain ⟨same, notNear⟩ := Option.filter_eq_some_iff.mp far
    rw [valid.offset distance same] at notNear
    cases notNear
  | none =>
    have near : ∀ distance ∈ offset, nearOffset distance = true := by
      intro distance same
      simpa using Option.filter_eq_none_iff.mp far distance same
    simp only [unless_eq_ok_iff, Except.ok.injEq]
    constructor
    · rintro ⟨inCalendar, inYear, inMonth, inDay, inHour, inMinute, inSecond, rfl⟩
      simp only [Calendar.yearBounds] at inCalendar
      refine ⟨⟨?_, ?_, ?_, ?_, ?_, ?_, ?_, near⟩, ?_, ?_, ?_, ?_, ?_, ?_, ?_, rfl⟩
      all_goals simp only [Calendar.yearBounds]
      all_goals omega
    · rintro ⟨valid, rfl, rfl, rfl, rfl, rfl, rfl, rfl, rfl⟩
      obtain ⟨inCalendar, inYear, inMonth, inDay, inHour, inMinute, inSecond, -⟩ := valid
      simp only [Int.toNat_natCast]
      refine ⟨?_, ?_, ?_, ?_, ?_, ?_, ?_, trivial⟩
      all_goals omega

/-! ### Distances that are kept -/

theorem keptOffset_eq_self_iff {offset : Int} :
    keptOffset offset = offset ↔ offset = 0 ∨ perSecond ≤ offset.natAbs := by
  unfold keptOffset
  split
  · omega
  · omega

theorem nearOffset_keptOffset {offset : Int} (near : nearOffset offset = true) :
    nearOffset (keptOffset offset) = true := by
  unfold keptOffset
  split
  · rfl
  · exact near

/-- Everything is kept of a distance that is made of fields. -/
theorem keptOffset_offset (clock : Clock) (negative : Bool) :
    keptOffset (clock.offset negative) = clock.offset negative := by
  rw [keptOffset_eq_self_iff]
  by_cases none_whole : clock.hour * 3600 + clock.minute * 60 + clock.second = 0
  · left
    simp only [Clock.offset, if_pos none_whole]
    cases negative <;> rfl
  · right
    simp only [Clock.offset, if_neg none_whole, perSecond]
    cases negative
    · simp only [Bool.false_eq_true, if_false]
      omega
    · simp only [if_true]
      omega

theorem keptOffset_of_timeAndOffset? {text : List UInt8} {clock : Clock} {offset : Int}
    (read : timeAndOffset? text = some (clock, some offset)) : keptOffset offset = offset := by
  unfold timeAndOffset? at read
  obtain ⟨time, -, read⟩ := Option.bind_eq_some_iff.mp read
  split at read
  · split at read <;> cases read
  · obtain ⟨distance, -, read⟩ := Option.bind_eq_some_iff.mp read
    split at read
    · cases read
    · cases read
      exact keptOffset_offset distance _

theorem keptOffset_of_fieldsOf? {text : List UInt8} {date : Nat × Nat × Nat} {clock : Clock}
    {offset : Int} (read : fieldsOf? text = some (date, clock, some offset)) :
    keptOffset offset = offset := by
  unfold fieldsOf? at read
  obtain ⟨dateEnd, -, read⟩ := Option.bind_eq_some_iff.mp read
  obtain ⟨fields, -, read⟩ := Option.bind_eq_some_iff.mp read
  split at read
  · obtain ⟨⟨time, distance⟩, timed, equal⟩ := Option.bind_eq_some_iff.mp read
    cases equal
    exact keptOffset_of_timeAndOffset? timed
  · cases read

/-! ### Whole texts -/

theorem bytes_cons (c : Char) (rest : List Char) : bytes (c :: rest) = byte c :: bytes rest :=
  rfl

/-- The text of a point in time is read back, with its distance as far as that is kept. -/
theorem parseFields_writtenChars {mark : List Char} (isMark : IsMark mark) {moment : Timestamp}
    (valid : moment.Valid) :
    parseFields (moment.writtenChars mark) =
      .ok { moment with offset := moment.offset.map keptOffset } := by
  have written : bytes (moment.writtenChars mark) = bytes (padded 4 moment.year) ++
      byte '-' :: (bytes (padded 2 moment.month) ++ byte '-' :: (bytes (padded 2 moment.day) ++
        byte 'T' :: (bytes (clockText moment ++ fractionText moment.microsecond) ++
          bytes ((moment.offset.map (offsetText mark)).getD [])))) := by
    simp only [writtenChars, monthDayText, bytes_append, bytes_cons, List.append_assoc,
      List.cons_append]
  have hourFits : moment.hour < 10 ^ 2 := Nat.lt_trans valid.hour (by decide)
  have minuteFits : moment.minute < 10 ^ 2 := Nat.lt_trans valid.minute (by decide)
  have secondFits : moment.second < 10 ^ 2 := Nat.lt_trans valid.second (by decide)
  have reads (rest : List UInt8) (stops : ∀ b ∈ rest.head?, digit? b = none) :
      clock? rest.length (bytes (clockText moment ++ fractionText moment.microsecond) ++ rest) =
        some ⟨moment.hour, moment.minute, moment.second, moment.microsecond,
          decide (rest.headD 0 ≠ 0)⟩ := by
    simp only [clockText, bytes_append, bytes_cons, List.append_assoc, List.cons_append]
    exact clock?_full (Or.inr rfl) hourFits minuteFits secondFits valid.microsecond stops
  have unsigned : clockText moment ++ fractionText moment.microsecond ⊆ clockChars :=
    List.append_subset.mpr ⟨clockText_subset moment, fractionText_subset moment.microsecond⟩
  have time := timeAndOffset?_written unsigned
    ⟨moment.hour, moment.minute, moment.second, moment.microsecond, false⟩ reads isMark
    valid.offset
  have long : ¬ (moment.writtenChars mark).length < minLength := by
    simp only [writtenChars, monthDayText, List.length_append, List.length_cons, length_padded,
      minLength]
    omega
  rw [parseFields, if_neg long, toUtf8_eq_bytes (writtenChars_subset isMark moment), written,
    fieldsOf?_dashed valid.yearFits valid.monthFits valid.dayFits, time]
  refine ofFields_eq_ok_iff.mpr ⟨⟨valid.year, valid.month, valid.day, valid.hour, valid.minute,
    valid.second, valid.microsecond, ?_⟩, rfl, rfl, rfl, rfl, rfl, rfl, rfl, rfl⟩
  intro distance kept
  obtain ⟨offset, same, rfl⟩ := Option.map_eq_some_iff.mp kept
  exact nearOffset_keptOffset (valid.offset offset same)

theorem parse_eq (text : String) :
    parse text = (parseFields (expandZulu text.toList)).map fun moment =>
      { moment with offset := some (moment.offset.getD 0) } := by
  rw [parse]
  cases parseFields (expandZulu text.toList) with
  | error problem => rfl
  | ok moment => rfl

/-- A text that is written like this is read at universal time if it has no distance. -/
theorem parse_of_writtenChars {mark : List Char} (isMark : IsMark mark) {moment : Timestamp}
    (valid : moment.Valid) {text : String}
    (written : expandZulu text.toList = moment.writtenChars mark) :
    parse text = .ok { moment with offset := some (keptOffset (moment.offset.getD 0)) } := by
  rw [parse_eq, written, parseFields_writtenChars isMark valid]
  cases moment.offset with
  | none => rfl
  | some offset => rfl

/-- A text that is written like a stored one is read like it. -/
theorem parse_of_storedChars {moment : Timestamp} (valid : moment.Valid) {text : String}
    (written : expandZulu text.toList = moment.storedChars) :
    parse text = .ok { moment with offset := some (keptOffset (moment.offset.getD 0)) } :=
  parse_of_writtenChars (Or.inr rfl) valid written

theorem expandZulu_stored (moment : Timestamp) :
    expandZulu moment.stored.toList = moment.storedChars := by
  rw [stored, String.toList_ofList]
  exact expandZulu_eq_self (writtenChars_subset (Or.inr rfl) moment)

/-- What is read from a text is valid, and its distance, if there is one, is kept. -/
theorem valid_of_parseFields {text : List Char} {moment : Timestamp}
    (read : parseFields text = .ok moment) :
    moment.Valid ∧ ∀ offset ∈ moment.offset, keptOffset offset = offset := by
  unfold parseFields at read
  simp only at read
  split at read
  · cases read
  · split at read
    · cases read
    · rename_i fields
      obtain ⟨valid, -, -, -, -, -, -, -, rfl⟩ := ofFields_eq_ok_iff.mp read
      refine ⟨valid, fun offset same => ?_⟩
      rw [same] at fields
      exact keptOffset_of_fieldsOf? fields

theorem valid_of_parse {text : String} {moment : Timestamp} (read : parse text = .ok moment) :
    moment.Valid ∧ ∃ offset, moment.offset = some offset ∧ keptOffset offset = offset := by
  rw [parse_eq] at read
  obtain ⟨named, parsed, rfl⟩ := map_eq_ok_iff.mp read
  obtain ⟨valid, kept⟩ := valid_of_parseFields parsed
  obtain ⟨year, month, day, hour, minute, second, microsecond, near⟩ := valid
  refine ⟨⟨year, month, day, hour, minute, second, microsecond, ?_⟩, _, rfl, ?_⟩
  · rintro _ ⟨⟩
    cases same : named.offset with
    | none => rfl
    | some offset => exact near offset same
  · cases same : named.offset with
    | none => rfl
    | some offset => exact kept offset same

/-- A stored text without a distance is read at universal time, with any mark of it or without. -/
theorem parse_stored_append {moment : Timestamp} (valid : moment.Valid)
    (absent : moment.offset = none) {mark : String}
    (universal : expandZulu mark.toList = ['+', '0', '0', ':', '0', '0']) :
    parse (moment.stored ++ mark) = .ok { moment with offset := some 0 } := by
  have marked : { moment with offset := some 0 }.Valid :=
    ⟨valid.year, valid.month, valid.day, valid.hour, valid.minute, valid.second,
      valid.microsecond, by rintro _ ⟨⟩; rfl⟩
  have written : storedChars { moment with offset := some 0 } =
      moment.storedChars ++ ['+', '0', '0', ':', '0', '0'] := by
    simp only [storedChars, absent, Option.map_none, Option.getD_none, List.append_nil]
    rfl
  have read := expandZulu_stored moment
  refine parse_of_storedChars marked ?_
  rw [expandZulu] at read universal ⊢
  rw [String.toList_append, List.flatMap_append, read, universal, written]

/-- Points in time survive being stored, if their distance is none or at least a second; a shorter
distance is read as none. Without a distance they are read at universal time, and so they are with
a mark of it. What has been read is read again from its stored text. -/
theorem parse_stored :
    (∀ (moment : Timestamp) offset, moment.Valid → moment.offset = some offset →
      (offset = 0 ∨ perSecond ≤ offset.natAbs → parse moment.stored = .ok moment) ∧
      (offset.natAbs < perSecond →
        parse moment.stored = .ok { moment with offset := some 0 })) ∧
    (∀ moment : Timestamp, moment.Valid → moment.offset = none →
      parse moment.stored = .ok { moment with offset := some 0 } ∧
      parse (moment.stored ++ "Z") = .ok { moment with offset := some 0 } ∧
      parse (moment.stored ++ "+00:00") = .ok { moment with offset := some 0 }) ∧
    ∀ text moment, parse text = .ok moment → parse moment.stored = .ok moment := by
  have again {moment : Timestamp} (valid : moment.Valid) {offset : Int}
      (same : moment.offset = some offset) (kept : keptOffset offset = offset) :
      parse moment.stored = .ok moment := by
    rw [parse_of_storedChars valid moment.expandZulu_stored, same, Option.getD_some, kept, ← same]
  refine ⟨fun moment offset valid same => ⟨fun whole => ?_, fun short => ?_⟩,
    fun moment valid absent => ⟨?_, ?_, ?_⟩, fun text moment read => ?_⟩
  · exact again valid same (keptOffset_eq_self_iff.mpr whole)
  · rw [parse_of_storedChars valid moment.expandZulu_stored, same, Option.getD_some, keptOffset,
      if_pos short]
  · rw [parse_of_storedChars valid moment.expandZulu_stored, absent]
    rfl
  · exact parse_stored_append valid absent rfl
  · exact parse_stored_append valid absent rfl
  · obtain ⟨valid, offset, same, kept⟩ := valid_of_parse read
    exact again valid same kept

/-- The last second but one of a leap day, on a clock behind universal time by an odd distance. -/
def leapDay : Timestamp :=
  ⟨2024, 2, 29, 23, 59, 58, 120000, some (-19801000005)⟩

theorem valid_leapDay : leapDay.Valid :=
  ⟨by decide, by decide, by decide, by decide, by decide, by decide, by decide,
    by rintro _ ⟨⟩; decide⟩

/-- That moment is read back. So is the time of day without the distance or with a short one, and a
moment that was written in another form. -/
theorem leapDay_survives :
    parse "2024-02-29T23:59:58.120000-05:30:01.000005" = .ok leapDay ∧
    parse "2024-02-29T23:59:58.120000-00:00:00.000001" = .ok { leapDay with offset := some 0 } ∧
    parse "2024-02-29T23:59:58.120000Z" = .ok { leapDay with offset := some 0 } ∧
    parse "2024W094 235958,12-0530" = .ok { leapDay with offset := some (-19800000000) } ∧
    parse "2024-02-29T23:59:58.120000-05:30" =
      .ok { leapDay with offset := some (-19800000000) } := by
  have aware : leapDay.stored = "2024-02-29T23:59:58.120000-05:30:01.000005" := by decide +kernel
  have slight : { leapDay with offset := some (-1) }.stored =
      "2024-02-29T23:59:58.120000-00:00:00.000001" := by
    decide +kernel
  have naive : { leapDay with offset := none }.stored = "2024-02-29T23:59:58.120000" := by
    decide +kernel
  have read : parse "2024W094 235958,12-0530" =
      .ok { leapDay with offset := some (-19800000000) } := by
    decide +kernel
  have again : { leapDay with offset := some (-19800000000) }.stored =
      "2024-02-29T23:59:58.120000-05:30" := by
    decide +kernel
  have valid (offset : Option Int) (near : ∀ distance ∈ offset, nearOffset distance = true) :
      { leapDay with offset := offset }.Valid :=
    { valid_leapDay with offset := near }
  refine ⟨?_, ?_, ?_, read, ?_⟩
  · exact aware ▸ (parse_stored.1 leapDay _ valid_leapDay rfl).1 (Or.inr (by decide))
  · exact slight ▸ (parse_stored.1 { leapDay with offset := some (-1) } _
      (valid _ (by rintro _ ⟨⟩; decide)) rfl).2 (by decide)
  · have marked := (parse_stored.2.1 { leapDay with offset := none } (valid _ nofun) rfl).2.1
    rwa [naive, show "2024-02-29T23:59:58.120000" ++ "Z" = "2024-02-29T23:59:58.120000Z" from rfl]
      at marked
  · exact again ▸ parse_stored.2.2 _ _ read

/-- A distance of a microsecond is not read back. -/
theorem parse_stored_of_microsecond :
    ∃ moment : Timestamp, moment.Valid ∧ moment.offset = some 1 ∧ nearOffset 1 = true ∧
      moment.stored = "2023-04-01T10:00:00+00:00:00.000001" ∧ parse moment.stored ≠ .ok moment := by
  refine ⟨⟨2023, 4, 1, 10, 0, 0, 0, some 1⟩, ⟨by decide, by decide, by decide, by decide, by decide,
    by decide, by decide, by rintro _ ⟨⟩; decide⟩, rfl, by decide, by decide +kernel,
    by decide +kernel⟩

end UserDirectory.Timestamp
