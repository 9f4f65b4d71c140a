/-
This file proves which parameters a search accepts and what is said of the others.
The limits come in a fixed order, and of several that are broken the first one is
reported, whatever else is wrong. What is accepted starts within the results that
can be returned and ends there too, so that the page can be told from where it
starts. Only the wording of a broken limit can fail: the number that it shows may
have too many digits to be written.
-/

import UserDirectory.Criteria
import UserDirectory.Proofs.Number.Writing

namespace UserDirectory.Criteria

/-! ### The limits -/

/-- A text to search for, a page and its size keep the limits of a search. -/
structure KeepsLimits (query : Option String) (page size : Int) : Prop where
  room : 1 ≤ size
  few : size ≤ 500
  first : 1 ≤ page
  within : page * size ≤ 10000
  searchable : ∀ text, query = some text → text.length ≠ 1

/-- The first limit that is broken: the violation, the parameter it is about, the limit, and the
number that is shown to whoever broke it. -/
inductive BreaksFirst (query : Option String) (page size : Int) :
    Violation → (parameter : String) → (limit shown : Int) → Prop where
  | pageTooLarge (large : 500 < size) :
    BreaksFirst query page size .pageTooLarge "ps" 500 500
  | pageTooSmall (few : size ≤ 500) (small : size < 1) :
    BreaksFirst query page size (.pageTooSmall size) "ps" 1 size
  | noSuchPage (few : size ≤ 500) (room : 1 ≤ size) (before : page < 1) :
    BreaksFirst query page size (.noSuchPage page) "p" 1 page
  | tooFar (few : size ≤ 500) (room : 1 ≤ size) (first : 1 ≤ page) (far : 10000 < page * size) :
    BreaksFirst query page size (.tooFar (page * size)) "p" 10000 (page * size)
  | queryTooShort (few : size ≤ 500) (room : 1 ≤ size) (first : 1 ≤ page)
    (within : page * size ≤ 10000) {text : String} (asked : query = some text)
    (short : text.length = 1) :
    BreaksFirst query page size (.queryTooShort 1) "q" 2 1

variable {query : Option String} {page size : Int}

/-- Parameters that do not keep the limits break one of them first. -/
theorem exists_breaksFirst (breaks : ¬ KeepsLimits query page size) :
    ∃ violation parameter limit shown,
      BreaksFirst query page size violation parameter limit shown := by
  by_cases few : size ≤ 500
  · by_cases room : 1 ≤ size
    · by_cases first : 1 ≤ page
      · by_cases within : page * size ≤ 10000
        · have short : ∃ text, query = some text ∧ text.length = 1 :=
            Classical.byContradiction fun none_short => breaks ⟨room, few, first, within,
              fun text asked one => none_short ⟨text, asked, one⟩⟩
          obtain ⟨text, asked, one⟩ := short
          exact ⟨_, _, _, _, .queryTooShort few room first within asked one⟩
        · exact ⟨_, _, _, _, .tooFar few room first (Int.not_le.mp within)⟩
      · exact ⟨_, _, _, _, .noSuchPage few room (Int.not_le.mp first)⟩
    · exact ⟨_, _, _, _, .pageTooSmall few (Int.not_le.mp room)⟩
  · exact ⟨_, _, _, _, .pageTooLarge (Int.not_le.mp few)⟩

theorem BreaksFirst.parameter_eq {violation : Violation} {parameter : String} {limit shown : Int}
    (breaks : BreaksFirst query page size violation parameter limit shown) :
    violation.parameter.name = parameter ∧ violation.limit = limit := by
  cases breaks <;> exact ⟨rfl, rfl⟩

/-- A violation can be worded if the number that it shows can be written. -/
theorem BreaksFirst.isWritable_eq {violation : Violation} {parameter : String} {limit shown : Int}
    (breaks : BreaksFirst query page size violation parameter limit shown) :
    violation.isWritable = Number.isWritable shown := by
  cases breaks with
  | pageTooLarge _ =>
    exact (Number.isWritable_of_lt (show 3 ≤ Number.maxIntegerDigits by decide) (by decide)).symm
  | queryTooShort _ _ _ _ _ _ =>
    exact (Number.isWritable_of_lt (show 1 ≤ Number.maxIntegerDigits by decide) (by decide)).symm
  | pageTooSmall _ _ => rfl
  | noSuchPage _ _ _ => rfl
  | tooFar _ _ _ _ => rfl

/-! ### Checking parameters -/

theorem violation?_eq (query : Option String) (page size : Int) :
    violation? query page size =
      if 500 < size then some .pageTooLarge
      else if size < 1 then some (.pageTooSmall size)
      else if page < 1 then some (.noSuchPage page)
      else if 10000 < page * size then some (.tooFar (page * size))
      else match query with
        | some text => if text.length < 2 then some (.queryTooShort text.length) else none
        | none => none :=
  rfl

/-- An empty text is no text to search for, and of the others just those are too short that have a
single character. -/
theorem violation?_query (few : size ≤ 500) (room : 1 ≤ size) (first : 1 ≤ page)
    (within : page * size ≤ 10000) (query : Option String) :
    violation? (query.filter (· ≠ "")) page size =
      if ∃ text, query = some text ∧ text.length = 1 then some (.queryTooShort 1) else none := by
  rw [violation?_eq, if_neg (Int.not_lt.mpr few), if_neg (Int.not_lt.mpr room),
    if_neg (Int.not_lt.mpr first), if_neg (Int.not_lt.mpr within)]
  cases query with
  | none => rw [if_neg nofun]; rfl
  | some text =>
    by_cases empty : text = ""
    · rw [empty, if_neg (by simp)]
      rfl
    · have kept : (some text).filter (· ≠ "") = some text := by simp [empty]
      have nonempty : text.length ≠ 0 := fun zero => empty (String.length_eq_zero_iff.mp zero)
      rw [kept]
      by_cases single : text.length = 1
      · rw [if_pos ⟨text, rfl, single⟩]
        simp only [single]
        rfl
      · rw [if_neg (by simpa using single)]
        exact if_neg (by omega)

theorem violation?_of_keepsLimits (keeps : KeepsLimits query page size) :
    violation? (query.filter (· ≠ "")) page size = none := by
  rw [violation?_query keeps.few keeps.room keeps.first keeps.within, if_neg]
  rintro ⟨text, asked, single⟩
  exact keeps.searchable text asked single

theorem violation?_of_breaksFirst {violation : Violation} {parameter : String} {limit shown : Int}
    (breaks : BreaksFirst query page size violation parameter limit shown) :
    violation? (query.filter (· ≠ "")) page size = some violation := by
  cases breaks with
  | pageTooLarge large => exact if_pos large
  | pageTooSmall few small =>
    rw [violation?_eq, if_neg (Int.not_lt.mpr few), if_pos small]
  | noSuchPage few room before =>
    rw [violation?_eq, if_neg (Int.not_lt.mpr few), if_neg (Int.not_lt.mpr room),
      if_pos before]
  | tooFar few room first far =>
    rw [violation?_eq, if_neg (Int.not_lt.mpr few), if_neg (Int.not_lt.mpr room),
      if_neg (Int.not_lt.mpr first), if_pos far]
  | queryTooShort few room first within asked short =>
    rw [violation?_query few room first within, if_pos ⟨_, asked, short⟩]

variable {deactivated : Option Bool} {pageAsked sizeAsked : Option Int}

/-- What keeps the limits is accepted as it is, an empty text apart, which means none. -/
theorem ofParameters_of_keepsLimits
    (keeps : KeepsLimits query (pageAsked.getD 1) (sizeAsked.getD 50)) :
    ofParameters query deactivated pageAsked sizeAsked = .ok
      ⟨query.filter (· ≠ ""), deactivated.getD false, pageAsked.getD 1, sizeAsked.getD 50⟩ := by
  have conforms := violation?_of_keepsLimits keeps
  unfold ofParameters defaultPage defaultPageSize
  simp only [conforms]

/-- What breaks a limit is refused for the first limit that it breaks. -/
theorem ofParameters_of_breaksFirst {violation : Violation} {parameter : String}
    {limit shown : Int} (breaks : BreaksFirst query (pageAsked.getD 1) (sizeAsked.getD 50)
      violation parameter limit shown) :
    ofParameters query deactivated pageAsked sizeAsked = .error
      (if Number.isWritable shown then .violation violation else .fault .unwritable) := by
  have violates := violation?_of_breaksFirst breaks
  unfold ofParameters defaultPage defaultPageSize
  simp only [violates]
  rw [Violation.refusal, breaks.isWritable_eq]

theorem ofParameters_eq_ok_iff {criteria : Criteria} :
    ofParameters query deactivated pageAsked sizeAsked = .ok criteria ↔
      KeepsLimits query (pageAsked.getD 1) (sizeAsked.getD 50) ∧ criteria =
        ⟨query.filter (· ≠ ""), deactivated.getD false, pageAsked.getD 1, sizeAsked.getD 50⟩ := by
  constructor
  · intro accepted
    by_cases keeps : KeepsLimits query (pageAsked.getD 1) (sizeAsked.getD 50)
    · rw [ofParameters_of_keepsLimits keeps, Except.ok.injEq] at accepted
      exact ⟨keeps, accepted.symm⟩
    · obtain ⟨_, _, _, _, breaks⟩ := exists_breaksFirst keeps
      rw [ofParameters_of_breaksFirst breaks] at accepted
      cases accepted
  · rintro ⟨keeps, rfl⟩
    exact ofParameters_of_keepsLimits keeps

/-! ### The window of results -/

/-- A page that keeps the limits lies within the results that can be returned, and where it starts
tells which page it is. -/
theorem offset_of_keepsLimits {criteria : Criteria}
    (keeps : KeepsLimits query criteria.page criteria.pageSize) :
    0 ≤ criteria.offset ∧ criteria.offset + criteria.pageSize ≤ 10000 ∧
      criteria.pageSize ∣ criteria.offset ∧
      criteria.page = criteria.offset / criteria.pageSize + 1 := by
  have first := keeps.first
  have room := keeps.room
  have ends : criteria.offset + criteria.pageSize = criteria.page * criteria.pageSize := by
    rw [offset, Int.sub_mul, Int.one_mul, Int.sub_add_cancel]
  refine ⟨Int.mul_nonneg (by omega) (by omega), ends ▸ keeps.within, Int.dvd_mul_left _ _, ?_⟩
  rw [offset, Int.mul_ediv_cancel _ (by omega), Int.sub_add_cancel]

/-- Parameters are accepted just if they keep the limits, and then as they are. Otherwise the first
limit that they break is reported with its parameter, as long as the number to be shown can be
written. -/
theorem ofParameters_reports_first (query : Option String) (deactivated : Option Bool)
    (pageAsked sizeAsked : Option Int) :
    ((∃ criteria, ofParameters query deactivated pageAsked sizeAsked = .ok criteria) ↔
      KeepsLimits query (pageAsked.getD 1) (sizeAsked.getD 50)) ∧
    (∀ criteria, ofParameters query deactivated pageAsked sizeAsked = .ok criteria →
      criteria = ⟨query.filter (· ≠ ""), deactivated.getD false, pageAsked.getD 1,
        sizeAsked.getD 50⟩ ∧
      0 ≤ criteria.offset ∧ criteria.offset + criteria.pageSize ≤ 10000 ∧
      criteria.pageSize ∣ criteria.offset ∧
      criteria.page = criteria.offset / criteria.pageSize + 1) ∧
    (¬ KeepsLimits query (pageAsked.getD 1) (sizeAsked.getD 50) →
      ∃ violation parameter limit shown, BreaksFirst query (pageAsked.getD 1)
        (sizeAsked.getD 50) violation parameter limit shown) ∧
    ∀ violation parameter limit shown, BreaksFirst query (pageAsked.getD 1) (sizeAsked.getD 50)
        violation parameter limit shown →
      violation.parameter.name = parameter ∧ violation.limit = limit ∧
        ofParameters query deactivated pageAsked sizeAsked = .error
          (if Number.isWritable shown then .violation violation else .fault .unwritable) := by
  refine ⟨⟨?_, fun keeps => ⟨_, ofParameters_of_keepsLimits keeps⟩⟩, ?_, exists_breaksFirst, ?_⟩
  · rintro ⟨criteria, accepted⟩
    exact (ofParameters_eq_ok_iff.mp accepted).1
  · intro criteria accepted
    obtain ⟨keeps, rfl⟩ := ofParameters_eq_ok_iff.mp accepted
    exact ⟨rfl, offset_of_keepsLimits keeps⟩
  · intro violation parameter limit shown breaks
    exact ⟨breaks.parameter_eq.1, breaks.parameter_eq.2, ofParameters_of_breaksFirst breaks⟩

/-- A page that is written with a one and the most zeros there may be is too far with pages of the
usual size, but the number of its last result cannot be written. -/
theorem ofParameters_of_greatest {zeros : Nat} (greatest : Number.maxIntegerDigits = zeros + 1) :
    BreaksFirst none (Nat.pow 10 zeros : Nat) 50 (.tooFar ((Nat.pow 10 zeros : Nat) * 50)) "p"
        10000 ((Nat.pow 10 zeros : Nat) * 50) ∧
      ofParameters none none (some (Nat.pow 10 zeros : Nat)) none =
        .error (.fault .unwritable) := by
  have enough : 10 ^ 3 ≤ Nat.pow 10 zeros :=
    Nat.pow_le_pow_right (by decide) (by unfold Number.maxIntegerDigits at greatest; omega)
  have bound : Nat.pow 10 Number.maxIntegerDigits = Nat.pow 10 zeros * 10 := by
    rw [greatest]
    rfl
  -- Of the page nothing else is needed.
  generalize Nat.pow 10 zeros = page at enough bound ⊢
  have breaks : BreaksFirst none (page : Int) 50 (.tooFar (page * 50)) "p" 10000 (page * 50) :=
    .tooFar (by decide) (by decide) (by omega) (by omega)
  have unwritable : Number.isWritable ((page : Int) * 50) = false := by
    rw [Number.isWritable, bound]
    exact decide_eq_false (by omega)
  have refused : ofParameters none none (some (page : Int)) none = _ :=
    ofParameters_of_breaksFirst breaks
  rw [unwritable] at refused
  exact ⟨breaks, refused⟩

/-- A page can be too far without that being said of it. -/
theorem tooFar_not_reported :
    ∃ page : Nat, page = Nat.pow 10 4299 ∧
      (∃ violation shown, BreaksFirst none page 50 violation "p" 10000 shown) ∧
      ∀ violation, ofParameters none none (some (page : Int)) none ≠
        .error (.violation violation) := by
  -- The number of zeros stays a variable, so that nobody reckons with the page.
  obtain ⟨zeros, same⟩ : ∃ zeros, zeros = 4299 := ⟨_, rfl⟩
  obtain ⟨breaks, refused⟩ := ofParameters_of_greatest
    (show Number.maxIntegerDigits = zeros + 1 by rw [same]; rfl)
  rw [← same]
  exact ⟨_, rfl, ⟨_, _, breaks⟩, fun violation reported => nomatch refused.symm.trans reported⟩

end UserDirectory.Criteria
