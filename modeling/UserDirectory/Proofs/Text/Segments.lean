/-
This file says what a comma-separated list holds without saying how it is read. A
segment is a part of the text that has no comma in it and ends, on either side, at
a comma or with the text. What is left of it without the blanks around it begins
and ends with something else than a blank. There is one way only to split a text
and to trim a segment like this, so that reading finds all of it and nothing else.
-/

import UserDirectory.Text.Blank

namespace UserDirectory.Text

/-! ### Segments -/

/-- Whether a part of a text reaches from one separator to the next. -/
structure IsSegment (separator : Char) (segment text : List Char) : Prop where
  unbroken : separator ∉ segment
  between : ∃ before behind, text = before ++ segment ++ behind ∧
    (before = [] ∨ ∃ rest, before = rest ++ [separator]) ∧
    (behind = [] ∨ ∃ rest, behind = separator :: rest)

variable {separator : Char}

theorem pieces_of_not_mem {text : List Char} (unbroken : separator ∉ text) :
    pieces separator text = [text] := by
  induction text with
  | nil => rfl
  | cons c rest inductionHypothesis =>
    rw [List.mem_cons, not_or] at unbroken
    rw [pieces, if_neg (Ne.symm unbroken.1), inductionHypothesis unbroken.2]

theorem pieces_append {before : List Char} (unbroken : separator ∉ before) (behind : List Char) :
    pieces separator (before ++ separator :: behind) = before :: pieces separator behind := by
  induction before with
  | nil => rw [List.nil_append, pieces, if_pos rfl]
  | cons c rest inductionHypothesis =>
    rw [List.mem_cons, not_or] at unbroken
    rw [List.cons_append, pieces, if_neg (Ne.symm unbroken.1), inductionHypothesis unbroken.2]

/-- What is cut off behind a separator does not depend on what stands before it. -/
theorem mem_pieces_append (before : List Char) {behind piece : List Char}
    (member : piece ∈ pieces separator behind) :
    piece ∈ (pieces separator (before ++ separator :: behind)).tail := by
  induction before with
  | nil => rwa [List.nil_append, pieces, if_pos rfl]
  | cons c rest inductionHypothesis =>
    rw [List.cons_append, pieces]
    split
    · exact List.mem_of_mem_tail inductionHypothesis
    · split
      · rename_i empty
        rw [empty] at inductionHypothesis
        cases inductionHypothesis
      · rename_i first others split
        rwa [split] at inductionHypothesis

theorem IsSegment.later {segment behind : List Char}
    (isSegment : IsSegment separator segment behind) (before : List Char) :
    IsSegment separator segment (before ++ separator :: behind) := by
  obtain ⟨unbroken, first, rest, rfl, atStart, atEnd⟩ := isSegment
  refine ⟨unbroken, before ++ separator :: first, rest, by simp, Or.inr ?_, atEnd⟩
  rcases atStart with rfl | ⟨first, rfl⟩
  · exact ⟨before, rfl⟩
  · exact ⟨before ++ separator :: first, by simp⟩

theorem isSegment_of_mem_pieces {text segment : List Char}
    (member : segment ∈ pieces separator text) : IsSegment separator segment text := by
  by_cases broken : separator ∈ text
  · obtain ⟨before, behind, rfl, unbroken⟩ := List.eq_append_cons_of_mem broken
    rw [pieces_append unbroken] at member
    rcases List.mem_cons.mp member with rfl | inRest
    · exact ⟨unbroken, [], separator :: behind, rfl, Or.inl rfl, Or.inr ⟨behind, rfl⟩⟩
    · exact (isSegment_of_mem_pieces inRest).later before
  · rw [pieces_of_not_mem broken, List.mem_singleton] at member
    subst member
    exact ⟨broken, [], [], by simp, Or.inl rfl, Or.inl rfl⟩
termination_by text.length
decreasing_by simp_all; omega

theorem mem_pieces_of_isSegment {text segment : List Char}
    (isSegment : IsSegment separator segment text) : segment ∈ pieces separator text := by
  obtain ⟨unbroken, before, behind, rfl, atStart, atEnd⟩ := isSegment
  have first : segment ∈ pieces separator (segment ++ behind) := by
    rcases atEnd with rfl | ⟨rest, rfl⟩
    · rw [List.append_nil, pieces_of_not_mem unbroken]
      exact List.mem_singleton_self segment
    · rw [pieces_append unbroken]
      exact List.mem_cons_self
  rcases atStart with rfl | ⟨rest, rfl⟩
  · exact first
  · rw [List.append_assoc, List.append_assoc]
    exact List.mem_of_mem_tail (mem_pieces_append rest first)

/-- The pieces of a text are its segments. -/
theorem mem_pieces_iff {text segment : List Char} :
    segment ∈ pieces separator text ↔ IsSegment separator segment text :=
  ⟨isSegment_of_mem_pieces, mem_pieces_of_isSegment⟩

/-! ### Trimming -/

/-- Whether something is left of a text without the blanks around it. -/
structure TrimsTo (blank : Char → Bool) (text trimmed : List Char) : Prop where
  around : ∃ before behind, text = before ++ trimmed ++ behind ∧
    (∀ c ∈ before, blank c = true) ∧ ∀ c ∈ behind, blank c = true
  first : ∀ c, trimmed.head? = some c → blank c = false
  last : ∀ c, trimmed.getLast? = some c → blank c = false

variable {blank : Char → Bool}

theorem not_blank_of_dropWhile {text : List Char} {c : Char}
    (first : (text.dropWhile blank).head? = some c) : blank c = false := by
  have notBlank := List.head?_dropWhile_not blank text
  rwa [first] at notBlank

theorem dropWhile_of_head {text : List Char}
    (first : ∀ c, text.head? = some c → blank c = false) : text.dropWhile blank = text := by
  cases text with
  | nil => rfl
  | cons c rest =>
    rw [List.dropWhile_cons, first c rfl]
    rfl

theorem trimsTo_trimBy (blank : Char → Bool) (text : List Char) :
    TrimsTo blank text (trimBy blank text) := by
  let behind := ((text.dropWhile blank).reverse.takeWhile blank).reverse
  have atEnd : text.dropWhile blank = trimBy blank text ++ behind := by
    rw [trimBy, ← List.reverse_append, List.takeWhile_append_dropWhile, List.reverse_reverse]
  refine ⟨⟨text.takeWhile blank, behind, ?_, ?_, ?_⟩, fun c first => ?_, fun c last => ?_⟩
  · rw [List.append_assoc, ← atEnd, List.takeWhile_append_dropWhile]
  · exact List.all_eq_true.mp List.all_takeWhile
  · intro c member
    exact List.all_eq_true.mp List.all_takeWhile c (List.mem_reverse.mp member)
  · have isFirst : (text.dropWhile blank).head? = some c := by
      rw [atEnd, List.head?_append, first]
      rfl
    exact not_blank_of_dropWhile isFirst
  · rw [trimBy, List.getLast?_reverse] at last
    exact not_blank_of_dropWhile last

theorem TrimsTo.trimBy_eq {text trimmed : List Char} (trimsTo : TrimsTo blank text trimmed) :
    trimBy blank text = trimmed := by
  obtain ⟨⟨before, behind, rfl, blankBefore, blankBehind⟩, first, last⟩ := trimsTo
  have blankBehind' : ∀ c ∈ behind.reverse, blank c = true :=
    fun c member => blankBehind c (List.mem_reverse.mp member)
  rw [trimBy, List.append_assoc, List.dropWhile_append_of_pos blankBefore]
  by_cases empty : trimmed = []
  · subst empty
    have nothing : (behind ++ []).dropWhile blank = [] :=
      List.dropWhile_append_of_pos blankBehind
    rw [List.append_nil] at nothing
    rw [List.nil_append, nothing]
    rfl
  · have start : (trimmed ++ behind).dropWhile blank = trimmed ++ behind := by
      refine dropWhile_of_head fun c isFirst => first c ?_
      obtain ⟨head, rest, rfl⟩ := List.exists_cons_of_ne_nil empty
      exact isFirst
    have stop : trimmed.reverse.dropWhile blank = trimmed.reverse :=
      dropWhile_of_head fun c isLast => last c (List.head?_reverse.symm.trans isLast)
    rw [start, List.reverse_append, List.dropWhile_append_of_pos blankBehind', stop,
      List.reverse_reverse]

/-- What is left of a text without the blanks around it. -/
theorem trimBy_eq_iff {text trimmed : List Char} :
    trimBy blank text = trimmed ↔ TrimsTo blank text trimmed :=
  ⟨fun trimmed => trimmed ▸ trimsTo_trimBy blank text, TrimsTo.trimBy_eq⟩

/-- A comma-separated list holds what is left of its segments, unless that is nothing. -/
theorem mem_listed_iff {text entry : String} :
    entry ∈ listed text ↔ entry ≠ "" ∧
      ∃ segment, IsSegment ',' segment text.toList ∧ TrimsTo isBlank segment entry.toList := by
  rw [listed, List.mem_filter, List.mem_map, and_comm]
  refine and_congr (by simp) (exists_congr fun segment => and_congr mem_pieces_iff ?_)
  rw [← trimBy_eq_iff]
  exact ⟨fun same => by rw [← same, String.toList_ofList],
    fun same => by rw [same, String.ofList_toList]⟩

end UserDirectory.Text
