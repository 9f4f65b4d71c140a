/-
This file proves that a served time is read as the time it was made from, to the
second. From year 1000 on the year has its four digits, so the served text is the
text of the moment without its fraction, with no marks in the distance; and that is
read back field by field. As with stored times only a distance below a second is
lost. What is read has no such distance, so serving what was read, and reading and
serving that again, comes to the same text.
-/

import UserDirectory.Proofs.Timestamp.Stored

namespace UserDirectory.Timestamp

open Text

/-! ### Years of four digits -/

theorem digitChar_eq {digit : Nat} (small : digit < 10) :
    Nat.digitChar digit = digitChar digit := by
  have each : ∀ small : Fin 10, Nat.digitChar small = digitChar small := by decide
  exact each ⟨digit, small⟩

theorem digitChar_mod (number : Nat) : digitChar (number % 10) = digitChar number := by
  rw [digitChar, digitChar, Nat.mod_mod]

/-- A number that needs a count of digits is written in that many. -/
theorem toDigits_eq_padded {count number : Nat} (least : 10 ^ count ≤ number)
    (fits : number < 10 ^ (count + 1)) : Nat.toDigits 10 number = padded (count + 1) number := by
  induction count generalizing number with
  | zero =>
    have small : number < 10 := by simpa using fits
    rw [Nat.toDigits_of_lt_base small, digitChar_eq small]
    rfl
  | succ count inductionHypothesis =>
    rw [Nat.pow_succ] at least fits
    have positive : 0 < 10 ^ count := Nat.pow_pos (by decide)
    have shorterLeast : 10 ^ count ≤ number / 10 := by omega
    have shorterFits : number / 10 < 10 ^ (count + 1) := by omega
    rw [Nat.toDigits_of_base_le (by decide) (by omega),
      inductionHypothesis shorterLeast shorterFits, digitChar_eq (Nat.mod_lt _ (by decide)),
      digitChar_mod]
    rfl

/-! ### Reading served times -/

/-- The first year that is served with four digits. -/
def firstFullYear : Nat := 1000

variable {moment : Timestamp}

/-- A served time is written like one without a fraction, and without marks in its distance. -/
theorem servedChars_eq (valid : moment.Valid) (full : firstFullYear ≤ moment.year) :
    moment.servedChars = { moment with microsecond := 0 }.writtenChars [] := by
  have year : Nat.toDigits 10 moment.year = padded 4 moment.year :=
    toDigits_eq_padded full valid.yearFits
  have none_written : fractionText 0 = [] := rfl
  simp only [servedChars, writtenChars, year, none_written, List.append_nil]
  rfl

theorem valid_withoutFraction (valid : moment.Valid) : { moment with microsecond := 0 }.Valid :=
  { valid with microsecond := Nat.pos_of_ne_zero (by decide) }

/-- A served time is read as it was, without its fraction and with its distance as far as that is
kept. -/
theorem parse_served_eq (valid : moment.Valid) (full : firstFullYear ≤ moment.year) :
    parse moment.served =
      .ok { moment with microsecond := 0, offset := some (keptOffset (moment.offset.getD 0)) } := by
  refine parse_of_writtenChars (Or.inl rfl) (valid_withoutFraction valid) ?_
  rw [served, String.toList_ofList, servedChars_eq valid full]
  exact expandZulu_eq_self (writtenChars_subset (Or.inl rfl) _)

/-- Served times name their moments to the second, if the distance is none or at least a second; a
shorter distance is read as none. Whatever is read is served as a text that is read and served as
itself. -/
theorem parse_served :
    (∀ (moment : Timestamp) offset, moment.Valid → firstFullYear ≤ moment.year →
      moment.offset = some offset →
      (offset = 0 ∨ perSecond ≤ offset.natAbs →
        parse moment.served = .ok { moment with microsecond := 0 }) ∧
      (offset.natAbs < perSecond →
        parse moment.served = .ok { moment with microsecond := 0, offset := some 0 })) ∧
    ∀ text moment, parse text = .ok moment → firstFullYear ≤ moment.year →
      parse moment.served = .ok { moment with microsecond := 0 } ∧
      (parse moment.served).map served = .ok moment.served := by
  have again {moment : Timestamp} (valid : moment.Valid) (full : firstFullYear ≤ moment.year)
      {offset : Int} (same : moment.offset = some offset) (kept : keptOffset offset = offset) :
      parse moment.served = .ok { moment with microsecond := 0 } := by
    rw [parse_served_eq valid full, same, Option.getD_some, kept, ← same]
  refine ⟨fun moment offset valid full same => ⟨fun whole => ?_, fun short => ?_⟩,
    fun text moment read full => ?_⟩
  · exact again valid full same (keptOffset_eq_self_iff.mpr whole)
  · rw [parse_served_eq valid full, same, Option.getD_some, keptOffset, if_pos short]
  · obtain ⟨valid, offset, same, kept⟩ := valid_of_parse read
    have readAgain := again valid full same kept
    refine ⟨readAgain, ?_⟩
    rw [readAgain]
    rfl

/-- A moment of the last second but one of a leap day is served to the second, and so is one that
was written in another form. -/
theorem leapDay_served :
    parse "2024-02-29T23:59:58-053001.000005" = .ok { leapDay with microsecond := 0 } ∧
    parse "2024-02-29T23:59:58-000000.000001" =
      .ok { leapDay with microsecond := 0, offset := some 0 } ∧
    (parse "2024-02-29T23:59:58-0530").map served = .ok "2024-02-29T23:59:58-0530" := by
  have whole : leapDay.served = "2024-02-29T23:59:58-053001.000005" := by decide +kernel
  have slight : { leapDay with offset := some (-1) }.served =
      "2024-02-29T23:59:58-000000.000001" := by
    decide +kernel
  have read : parse "2024W094 235958,12-0530" =
      .ok { leapDay with offset := some (-19800000000) } := by
    decide +kernel
  have again : { leapDay with offset := some (-19800000000) }.served =
      "2024-02-29T23:59:58-0530" := by
    decide +kernel
  have validSlight : { leapDay with offset := some (-1) }.Valid :=
    { valid_leapDay with offset := by rintro _ ⟨⟩; decide }
  refine ⟨?_, ?_, ?_⟩
  · exact whole ▸ (parse_served.1 leapDay _ valid_leapDay (by decide) rfl).1 (Or.inr (by decide))
  · exact slight ▸ (parse_served.1 { leapDay with offset := some (-1) } _ validSlight (by decide)
      rfl).2 (by decide)
  · have served := (parse_served.2 _ _ read (by decide)).2
    rwa [again] at served

/-- A distance of a microsecond is served, but not read back. -/
theorem parse_served_of_microsecond :
    ∃ moment : Timestamp, moment.Valid ∧ firstFullYear ≤ moment.year ∧ moment.offset = some 1 ∧
      nearOffset 1 = true ∧ moment.served = "2023-04-01T10:00:00+000000.000001" ∧
      parse moment.served ≠ .ok { moment with microsecond := 0 } := by
  refine ⟨⟨2023, 4, 1, 10, 0, 0, 0, some 1⟩, ⟨by decide, by decide, by decide, by decide, by decide,
    by decide, by decide, by rintro _ ⟨⟩; decide⟩, by decide, rfl, by decide, by decide +kernel,
    by decide +kernel⟩

end UserDirectory.Timestamp
