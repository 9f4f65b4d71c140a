/-
This file says what asking a document for its parts comes to. A member that is
required is found if and only if it is there. A check of several fields has a value
if and only if there is one for each field, and what it finds wrong is what is wrong
with each of them, in their order. A check that fails always names a problem, so
there is a value as soon as nothing is found wrong.
-/

import UserDirectory.Checked

namespace UserDirectory

/-! ### Members that are required -/

/-- A member that is required is one that there is. -/
theorem Json.required_eq_ok_iff {document value : Json} {name : String} :
    document.required name = .ok value ↔ document.member? name = some value := by
  cases document with
  | obj members =>
    rw [Json.required, Json.member?]
    cases Json.lookup? members name with
    | none => exact ⟨fun required => (by cases required), fun found => (by cases found)⟩
    | some other => rw [Except.ok.injEq, Option.some.injEq]
  | _ => exact ⟨fun required => (by cases required), fun found => (by cases found)⟩

/-- An object is only ever said to lack a member that it lacks. -/
theorem Json.required_eq_error_iff {members : List (String × Json)} {name : String}
    {fault : Fault} : (Json.obj members).required name = .error fault ↔
      (Json.obj members).member? name = none ∧ fault = .missing name := by
  rw [Json.required, Json.member?]
  cases Json.lookup? members name <;> simp [eq_comm]

namespace Checked

variable {α β : Type}

/-! ### Checks with a value -/

theorem under_eq_valid_iff {step : PathStep} {check : Checked α} {value : α} :
    check.under step = .valid value ↔ check = .valid value := by
  cases check <;> simp [under]

theorem seq_eq_valid_iff {function : Checked (α → β)} {argument : Checked α} {value : β} :
    (function <*> argument) = .valid value ↔
      ∃ f a, function = .valid f ∧ argument = .valid a ∧ f a = value := by
  show apply function argument = _ ↔ _
  cases function <;> cases argument <;> simp [apply]

theorem map_eq_valid_iff {function : α → β} {argument : Checked α} {value : β} :
    (function <$> argument) = .valid value ↔ ∃ a, argument = .valid a ∧ function a = value := by
  show map function argument = _ ↔ _
  cases argument <;> simp [map]

theorem outcome_eq_ok_iff {check : Checked α} {value : α} :
    check.outcome = .ok value ↔ check = .valid value := by
  cases check <;> simp [outcome]

theorem text_eq_valid_iff {document : Json} {value : String} :
    text document = .valid value ↔ document = .str value := by
  cases document <;> simp [text, defect]

theorem eachFrom_text_eq_valid_iff {position : Nat} {documents : List Json}
    {values : List String} :
    eachFrom text position documents = .valid values ↔ documents = values.map .str := by
  induction documents generalizing position values with
  | nil => cases values <;> simp [eachFrom]
  | cons document rest inductionHypothesis =>
    rw [eachFrom, seq_eq_valid_iff]
    constructor
    · rintro ⟨function, others, first, later, rfl⟩
      obtain ⟨value, checked, rfl⟩ := map_eq_valid_iff.mp first
      rw [text_eq_valid_iff.mp (under_eq_valid_iff.mp checked), inductionHypothesis.mp later]
      rfl
    · intro equal
      cases values with
      | nil => cases equal
      | cons value others =>
        rw [List.map_cons, List.cons.injEq] at equal
        refine ⟨(value :: ·), others, ?_, inductionHypothesis.mpr equal.2, rfl⟩
        exact map_eq_valid_iff.mpr
          ⟨value, under_eq_valid_iff.mpr (text_eq_valid_iff.mpr equal.1), rfl⟩

/-- Documents are a list of texts if each of them is one. -/
theorem texts_eq_valid_iff {documents : List Json} {values : List String} :
    texts documents = .valid values ↔ documents = values.map .str :=
  eachFrom_text_eq_valid_iff

/-! ### Checks without one -/

/-- What a check found wrong. -/
def problems : Checked α → List FieldProblem
  | .valid _ => []
  | .invalid fields => fields

theorem problems_pure (value : α) : (pure value : Checked α).problems = [] :=
  rfl

theorem problems_map (function : α → β) (argument : Checked α) :
    (function <$> argument).problems = argument.problems := by
  cases argument <;> rfl

/-- Both of two fields are checked, whatever is wrong with the first one. -/
theorem problems_seq (function : Checked (α → β)) (argument : Checked α) :
    (function <*> argument).problems = function.problems ++ argument.problems := by
  cases function <;> cases argument <;> simp [problems, Seq.seq, apply]

theorem problems_under (step : PathStep) (check : Checked α) :
    (check.under step).problems =
      check.problems.map fun field => { field with path := step :: field.path } := by
  cases check <;> rfl

/-- A check that fails names a problem. -/
def IsFrank (check : Checked α) : Prop :=
  check ≠ .invalid []

theorem isFrank_pure (value : α) : (pure value : Checked α).IsFrank :=
  nofun

theorem isFrank_defect (found : Defect) : (defect found : Checked α).IsFrank :=
  nofun

theorem IsFrank.map {argument : Checked α} (frank : argument.IsFrank) (function : α → β) :
    (function <$> argument).IsFrank := by
  cases argument with
  | valid value => exact nofun
  | invalid fields =>
    rintro ⟨⟩
    exact frank rfl

theorem IsFrank.under {check : Checked α} (frank : check.IsFrank) (step : PathStep) :
    (check.under step).IsFrank := by
  cases check with
  | valid value => exact nofun
  | invalid fields =>
    intro silent
    have none_found : fields = [] := List.map_eq_nil_iff.mp (Checked.invalid.inj silent)
    exact frank (congrArg _ none_found)

theorem IsFrank.seq {function : Checked (α → β)} {argument : Checked α}
    (first : function.IsFrank) (second : argument.IsFrank) : (function <*> argument).IsFrank := by
  cases function with
  | valid f =>
    cases argument with
    | valid value => exact nofun
    | invalid fields =>
      rintro ⟨⟩
      exact second rfl
  | invalid fields =>
    cases argument with
    | valid value =>
      rintro ⟨⟩
      exact first rfl
    | invalid others =>
      intro silent
      have none_found : fields = [] :=
        (List.append_eq_nil_iff.mp (Checked.invalid.inj silent)).1
      exact first (congrArg _ none_found)

/-- A check fails with everything that it found wrong, if that is anything at all. -/
theorem IsFrank.outcome_eq_error_iff {check : Checked α} (frank : check.IsFrank) {fault : Fault} :
    check.outcome = .error fault ↔
      check.problems ≠ [] ∧ fault = .malformed check.problems := by
  cases check with
  | valid value => simp [outcome, problems]
  | invalid fields =>
    have some_found : fields ≠ [] := fun empty => frank (congrArg _ empty)
    simp [outcome, problems, some_found, eq_comm]

/-! ### Single fields -/

/-- What the check of a single field finds wrong: nothing, or one defect of the field itself. -/
inductive Finds : Checked α → Option Defect → Prop where
  | nothing (value : α) : Finds (.valid value) none
  | one (found : Defect) : Finds (defect found) (some found)

variable {check : Checked α} {found : Option Defect}

theorem Finds.isFrank (finds : check.Finds found) : check.IsFrank := by
  cases finds with
  | nothing value => exact isFrank_pure value
  | one found => exact isFrank_defect found

/-- What is wrong with one field is said of that field. -/
theorem Finds.problems_under (finds : check.Finds found) (step : PathStep) :
    (check.under step).problems = (found.map fun defect => ⟨[step], defect⟩).toList := by
  cases finds <;> rfl

/-! ### Lists of texts -/

/-- Of a list of texts, each element that is none is found wrong at its position. -/
theorem problems_eachFrom_text (position : Nat) (documents : List Json) :
    (eachFrom text position documents).problems =
      (documents.zipIdx position).filterMap fun (document, position) =>
        if document.text?.isSome then none else some ⟨[.index position], .notText⟩ := by
  induction documents generalizing position with
  | nil => rfl
  | cons document rest inductionHypothesis =>
    rw [eachFrom, problems_seq, problems_map, problems_under, inductionHypothesis,
      List.zipIdx_cons]
    cases document <;> rfl

theorem isFrank_text (document : Json) : (text document).IsFrank := by
  cases document with
  | str value => exact isFrank_pure value
  | _ => exact isFrank_defect _

theorem isFrank_eachFrom_text (position : Nat) (documents : List Json) :
    (eachFrom text position documents).IsFrank := by
  induction documents generalizing position with
  | nil => exact nofun
  | cons document rest inductionHypothesis =>
    exact (((isFrank_text document).under _).map _).seq (inductionHypothesis _)

end Checked

end UserDirectory
