/-
This file proves what sorting does to documents. Whatever the documents are, a
sorted list holds the same ones. Texts can always be compared, so a list of texts
is always sorted, and its sorted form is the one list of the same texts in the
order of their code points. Two lists of the same texts are therefore sorted to
the same list.
-/

import Mathlib.Data.List.Basic
import UserDirectory.Json

namespace UserDirectory.Json

/-! ### Sorting loses nothing and repeats nothing -/

theorem perm_of_insertSorted {document : Json} {items sorted : List Json}
    (inserted : insertSorted document items = .ok sorted) : sorted.Perm (document :: items) := by
  induction items generalizing sorted with
  | nil =>
    rw [insertSorted, Except.ok.injEq] at inserted
    rw [← inserted]
  | cons first rest inductionHypothesis =>
    rw [insertSorted] at inserted
    cases compared : before first document with
    | error fault => simp [compared, bind, Except.bind] at inserted
    | ok smaller =>
      cases smaller with
      | false =>
        simp only [compared, bind, Except.bind, Bool.false_eq_true, if_false, pure, Except.pure,
          Except.ok.injEq] at inserted
        rw [← inserted]
      | true =>
        cases later : insertSorted document rest with
        | error fault => simp [compared, later, bind, Except.bind] at inserted
        | ok more =>
          simp only [compared, later, bind, Except.bind, if_true, pure, Except.pure,
            Except.ok.injEq] at inserted
          rw [← inserted]
          exact ((inductionHypothesis later).cons first).trans (List.Perm.swap document first rest)

theorem perm_of_sort {items sorted : List Json} (ordered : sort items = .ok sorted) :
    sorted.Perm items := by
  induction items generalizing sorted with
  | nil =>
    rw [sort, Except.ok.injEq] at ordered
    rw [← ordered]
  | cons first rest inductionHypothesis =>
    rw [sort] at ordered
    cases later : sort rest with
    | error fault => simp [later, bind, Except.bind] at ordered
    | ok more =>
      simp only [later, bind, Except.bind] at ordered
      exact (perm_of_insertSorted ordered).trans ((inductionHypothesis later).cons first)

/-! ### Texts are sorted by code points -/

theorem before_text (first second : String) :
    before (.str first) (.str second) = .ok (decide (first < second)) := by
  rw [before]

theorem insertSorted_text (text : String) {texts : List String}
    (ordered : texts.Pairwise (· ≤ ·)) :
    ∃ result : List String, insertSorted (.str text) (texts.map .str) = .ok (result.map .str) ∧
      result.Perm (text :: texts) ∧ result.Pairwise (· ≤ ·) := by
  induction texts with
  | nil => exact ⟨[text], rfl, List.Perm.refl _, List.pairwise_singleton _ _⟩
  | cons first rest inductionHypothesis =>
    obtain ⟨firstLeast, restOrdered⟩ := List.pairwise_cons.mp ordered
    rw [List.map_cons, insertSorted, before_text]
    by_cases smaller : first < text
    · obtain ⟨result, inserted, perm, resultOrdered⟩ := inductionHypothesis restOrdered
      refine ⟨first :: result, ?_, ?_,
        List.pairwise_cons.mpr ⟨fun other member => ?_, resultOrdered⟩⟩
      · simp [smaller, inserted, bind, Except.bind, pure, Except.pure]
      · exact (perm.cons first).trans (List.Perm.swap text first rest)
      · rcases List.mem_cons.mp (perm.mem_iff.mp member) with rfl | inRest
        · exact String.not_lt.mp (String.lt_asymm smaller)
        · exact firstLeast other inRest
    · have least : text ≤ first := String.not_lt.mp smaller
      refine ⟨text :: first :: rest, ?_, List.Perm.refl _,
        List.pairwise_cons.mpr ⟨fun other member => ?_, ordered⟩⟩
      · simp [smaller, bind, Except.bind, pure, Except.pure]
      · rcases List.mem_cons.mp member with rfl | inRest
        · exact least
        · exact String.le_trans least (firstLeast other inRest)

theorem pairwise_mergeSort_text (texts : List String) : texts.mergeSort.Pairwise (· ≤ ·) := by
  have ordered : texts.mergeSort.Pairwise fun first second => decide (first ≤ second) = true :=
    List.pairwise_mergeSort (fun first second third one two => by
      simp only [decide_eq_true_eq] at one two ⊢
      exact String.le_trans one two)
    (fun first second => by simpa using String.le_total first second) texts
  exact ordered.imp fun holds => by simpa using holds

/-- The texts of a list have only one order by code points. -/
theorem eq_mergeSort {ordered texts : List String} (pairwise : ordered.Pairwise (· ≤ ·))
    (perm : ordered.Perm texts) : ordered = texts.mergeSort :=
  List.Perm.eq_of_pairwise (fun _ _ _ _ one two => String.le_antisymm one two) pairwise
    (pairwise_mergeSort_text texts) (perm.trans (List.mergeSort_perm texts _).symm)

theorem mergeSort_eq_of_perm {first second : List String} (perm : first.Perm second) :
    first.mergeSort = second.mergeSort :=
  eq_mergeSort (pairwise_mergeSort_text first) ((List.mergeSort_perm first _).trans perm)

/-- A list of texts is sorted to the list of the same texts in the order of their code points. -/
theorem sort_texts (texts : List String) :
    sort (texts.map .str) = .ok (texts.mergeSort.map .str) := by
  have sorted : ∃ result : List String, sort (texts.map .str) = .ok (result.map .str) ∧
      result.Perm texts ∧ result.Pairwise (· ≤ ·) := by
    induction texts with
    | nil => exact ⟨[], rfl, List.Perm.refl _, List.Pairwise.nil⟩
    | cons text rest inductionHypothesis =>
      obtain ⟨later, ordered, perm, pairwise⟩ := inductionHypothesis
      obtain ⟨result, inserted, resultPerm, resultPairwise⟩ := insertSorted_text text pairwise
      refine ⟨result, ?_, resultPerm.trans (perm.cons text), resultPairwise⟩
      rw [List.map_cons, sort, ordered]
      exact inserted
  obtain ⟨result, ordered, perm, pairwise⟩ := sorted
  rw [ordered, eq_mergeSort pairwise perm]

theorem filterMap_text (texts : List String) : (texts.map Json.str).filterMap text? = texts := by
  rw [List.filterMap_map]
  exact List.filterMap_some

/-- What holds the same documents as a list of texts is a list of the same texts. -/
theorem exists_texts_of_perm {items : List Json} {texts : List String}
    (perm : (texts.map Json.str).Perm items) :
    ∃ names : List String, items = names.map .str ∧ texts.Perm names := by
  have same := perm.filterMap text?
  rw [filterMap_text] at same
  refine ⟨items.filterMap text?, ?_, same⟩
  rw [List.map_filterMap]
  refine Eq.symm ((List.filterMap_congr fun item member => ?_).trans List.filterMap_some)
  obtain ⟨text, _, rfl⟩ := List.mem_map.mp (perm.mem_iff.mpr member)
  rfl

/-- Lists of the same documents that are sorted to texts are sorted to the same texts. -/
theorem eq_of_sort_of_perm {first second : List Json} {ordered others : List String}
    (perm : first.Perm second) (sorted : sort first = .ok (ordered.map .str))
    (sortedOther : sort second = .ok (others.map .str)) : ordered = others := by
  obtain ⟨names, rfl, -⟩ := exists_texts_of_perm (perm_of_sort sorted)
  obtain ⟨otherNames, rfl, -⟩ := exists_texts_of_perm (perm_of_sort sortedOther)
  have same := perm.filterMap text?
  rw [filterMap_text, filterMap_text] at same
  rw [sort_texts, mergeSort_eq_of_perm same, ← sort_texts, sortedOther, Except.ok.injEq] at sorted
  have texts := congrArg (List.filterMap text?) sorted
  rw [filterMap_text, filterMap_text] at texts
  exact texts.symm

end UserDirectory.Json
