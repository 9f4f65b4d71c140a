/-
This file says what look-ups made of blocking calls promise. Calls that are made
one after another, or several at a time as far as there are permits, keep any
property of the state that each of them keeps, and the values of a look-up stand
for its items in order. The permits are handed on as long as no call fails, so
with at least one of them every item gets its call. What a look-up leaves when it
is cut off is one of the states on its way, so the property survives that too.
-/

import Mathlib.Data.List.Forall2
import Mathlib.Data.List.TakeWhile
import UserDirectory.Concurrent.Run
import UserDirectory.Proofs.Concurrent.Calls

namespace UserDirectory

variable {σ ε α β ι : Type}

namespace Run

/-! ### How look-ups end -/

/-- How a look-up ends: every state on its way has a property, and its outcome is a value with a
property or, if failures are allowed, a failure. -/
def Ends (failing : Prop) (invariant : σ → Prop) (result : α → Prop) (run : Run σ ε α) : Prop :=
  (∀ entry ∈ run.history, invariant entry.2) ∧ Meets failing result run.outcome

variable {failing : Prop} {invariant : σ → Prop}

theorem Ends.imp {result other : α → Prop} {run : Run σ ε α}
    (ends : run.Ends failing invariant result) (implied : ∀ value, result value → other value) :
    run.Ends failing invariant other :=
  ⟨ends.1, ends.2.imp implied⟩

theorem ends_known {result : α → Prop} {outcome : Except ε α}
    (meets : Meets failing result outcome) :
    (known outcome : Run σ ε α).Ends failing invariant result :=
  ⟨fun _ member => absurd member List.not_mem_nil, meets⟩

theorem Ends.thenCheck {middle : α → Prop} {result : β → Prop} {run : Run σ ε α}
    {next : α → Except ε β} (ends : run.Ends failing invariant middle)
    (later : ∀ value, middle value → Meets failing result (next value)) :
    (run.thenCheck next).Ends failing invariant result :=
  ⟨ends.1, ends.2.bind later⟩

theorem ends_single {result : α → Prop} {call : Call σ ε α} {state : σ}
    (ends : call.Ends failing invariant result) (start : invariant state) :
    (single call state).Ends failing invariant result := by
  obtain ⟨kept, meets⟩ := ends state start
  refine ⟨fun entry member => ?_, meets⟩
  rw [List.mem_singleton.mp member]
  exact kept

/-- Wherever a look-up is cut off, the state it leaves is the one it found or one on its way. -/
theorem stateWhile_of_history {run : Run σ ε α} (kept : ∀ entry ∈ run.history, invariant entry.2)
    {initial : σ} (start : invariant initial) (begins : Cue → Bool) :
    invariant (run.stateWhile initial begins) := by
  unfold Run.stateWhile
  split
  · rename_i cue state last
    exact kept (cue, state) (List.takeWhile_subset _ (List.mem_of_getLast? last))
  · exact start

theorem Ends.stateWhile {result : α → Prop} {run : Run σ ε α}
    (ends : run.Ends failing invariant result) {initial : σ} (start : invariant initial)
    (begins : Cue → Bool) : invariant (run.stateWhile initial begins) :=
  stateWhile_of_history ends.1 start begins

/-- The state after all calls is the one that the last call leaves. -/
theorem finalState_eq (run : Run σ ε α) (initial : σ) :
    run.finalState initial = (run.history.getLast?.map (·.2)).getD initial := by
  have whole : (run.history.takeWhile fun _ => true) = run.history :=
    List.takeWhile_eq_self_iff.mpr fun _ _ => rfl
  rw [finalState, Run.stateWhile, whole]
  cases run.history.getLast? with
  | none => rfl
  | some entry => rfl

/-! ### One call after another -/

/-- After the first of some calls the others go on from the state that it leaves. -/
theorem finalState_cons (entry : Cue × σ) (history : List (Cue × σ)) (ended : Nat)
    (ends : List Nat) (closing : Cue)
    (outcome : Except ε α) (initial : σ) :
    (⟨entry :: history, ended :: ends, closing, outcome⟩ : Run σ ε α).finalState initial =
      (⟨history, ends, closing, outcome⟩ : Run σ ε α).finalState entry.2 := by
  rw [finalState_eq, finalState_eq, List.getLast?_cons]
  cases history.getLast? <;> rfl

theorem ends_inTurn {result : ι → α → Prop} {call : ι → Call σ ε α} {items : List ι}
    (each : ∀ item ∈ items, (call item).Ends failing invariant (result item)) (cue : Cue)
    {state : σ} (start : invariant state) :
    (inTurn call items cue state).Ends failing invariant (List.Forall₂ result items) := by
  induction items generalizing cue state with
  | nil => exact ⟨fun _ member => absurd member List.not_mem_nil, List.Forall₂.nil⟩
  | cons item rest inductionHypothesis =>
    obtain ⟨kept, meets⟩ := each item List.mem_cons_self state start
    simp only [inTurn]
    cases outcome : ((call item).run state).outcome with
    | error failure =>
      rw [outcome] at meets
      refine ⟨fun entry member => ?_, meets⟩
      rw [List.mem_singleton.mp member]
      exact kept
    | ok value =>
      rw [outcome] at meets
      have later := inductionHypothesis
        (fun other member => each other (List.mem_cons_of_mem _ member))
        (Cue.finish (cue.instant + ((call item).run state).took) cue) kept
      refine ⟨fun entry member => ?_, later.2.map fun values => List.Forall₂.cons meets⟩
      rcases List.mem_cons.mp member with rfl | inLater
      · exact kept
      · exact later.1 entry inLater

/-! ### Several calls at a time -/

theorem firstFailure_eq_none_iff (tasks : List (Task ε α)) :
    Gather.firstFailure tasks = none ↔ ∀ task ∈ tasks, task.failure? = none := by
  induction tasks with
  | nil => simp [Gather.firstFailure]
  | cons task rest inductionHypothesis =>
    rw [List.forall_mem_cons, ← inductionHypothesis, Gather.firstFailure]
    cases task.failure? with
    | none => simp
    | some cause =>
      cases Gather.firstFailure rest with
      | none => simp
      | some later =>
        simp only [Option.map_some]
        split <;> simp

theorem mem_release {permit other : Permit} {free : List Permit} :
    other ∈ release permit free ↔ other = permit ∨ other ∈ free := by
  induction free with
  | nil => simp [release]
  | cons first rest inductionHypothesis =>
    rw [release]
    split
    · simp
    · rw [List.mem_cons, inductionHypothesis, List.mem_cons]
      exact or_left_comm

/-- Every state that scheduled calls leave has the property that each call keeps. -/
theorem schedule_states {result : ι → α → Prop} {call : ι → Call σ ε α} {items : List ι}
    (each : ∀ item ∈ items, (call item).Ends failing invariant (result item))
    (free : List Permit) {state : σ} (start : invariant state) :
    ∀ occupation ∈ schedule call items free state, invariant occupation.state := by
  induction items generalizing free state with
  | nil => simp [schedule]
  | cons item rest inductionHypothesis =>
    cases free with
    | nil => simp [schedule]
    | cons permit others =>
      have kept := (each item List.mem_cons_self state start).1
      rw [schedule, List.forall_mem_cons]
      refine ⟨kept, fun occupation member => ?_⟩
      split at member
      · cases member
      · exact inductionHypothesis (fun other inRest => each other (List.mem_cons_of_mem _ inRest)) _
          kept occupation member

/-- As long as the calls succeed, permits are handed on, and every item gets its call. -/
theorem forall₂_schedule {result : ι → α → Prop} {call : ι → Call σ ε α} {items : List ι}
    (each : ∀ item ∈ items, (call item).Ends failing invariant (result item))
    {free : List Permit} (some_free : free ≠ [])
    (handed_on : ∀ permit ∈ free, permit.isLast = false)
    {state : σ} (start : invariant state)
    (succeed : ∀ occupation ∈ schedule call items free state,
      ∃ value, occupation.outcome = .ok value) :
    List.Forall₂
      (fun item occupation => ∃ value, occupation.outcome = .ok value ∧ result item value)
      items (schedule call items free state) := by
  -- Some permit is always free: the one that a call takes comes back when the call succeeds.
  induction items generalizing free state with
  | nil => exact List.Forall₂.nil
  | cons item rest inductionHypothesis =>
    obtain ⟨permit, others, rfl⟩ := List.exists_cons_of_ne_nil some_free
    obtain ⟨kept, meets⟩ := each item List.mem_cons_self state start
    have notLast : permit.isLast = false := handed_on permit List.mem_cons_self
    rw [schedule, if_neg (by simp [notLast])] at succeed ⊢
    rw [List.forall_mem_cons] at succeed
    obtain ⟨⟨value, outcome⟩, later⟩ := succeed
    simp only at outcome
    rw [outcome] at meets
    refine List.Forall₂.cons ⟨value, outcome, meets⟩ ?_
    refine inductionHypothesis (fun other inRest => each other (List.mem_cons_of_mem _ inRest))
      (List.ne_nil_of_mem (mem_release.mpr (Or.inl rfl))) (fun other member => ?_) kept later
    rcases mem_release.mp member with rfl | inOthers
    · simp [Occupation.permit, outcome]
    · exact handed_on other (List.mem_cons_of_mem _ inOthers)

/-- A scheduled call that failed shows that failures are allowed. -/
theorem failing_of_schedule {result : ι → α → Prop} {call : ι → Call σ ε α} {items : List ι}
    (each : ∀ item ∈ items, (call item).Ends failing invariant (result item))
    (free : List Permit) {state : σ} (start : invariant state)
    {occupation : Occupation σ ε α} (member : occupation ∈ schedule call items free state)
    {failure : ε} (failed : occupation.outcome = .error failure) : failing := by
  induction items generalizing free state with
  | nil => simp [schedule] at member
  | cons item rest inductionHypothesis =>
    cases free with
    | nil => simp [schedule] at member
    | cons permit others =>
      obtain ⟨kept, meets⟩ := each item List.mem_cons_self state start
      rw [schedule] at member
      rcases List.mem_cons.mp member with rfl | inLater
      · simp only at failed
        rwa [failed] at meets
      · split at inLater
        · cases inLater
        · exact inductionHypothesis
            (fun other inRest => each other (List.mem_cons_of_mem _ inRest)) _ kept inLater

theorem values_of_forall₂ {result : ι → α → Prop} {items : List ι}
    {occupations : List (Occupation σ ε α)}
    (succeed : List.Forall₂
      (fun item occupation => ∃ value, occupation.outcome = .ok value ∧ result item value)
      items occupations) :
    List.Forall₂ result items (Gather.values (occupations.map (·.task))) := by
  induction succeed with
  | nil => exact List.Forall₂.nil
  | cons head _ inductionHypothesis =>
    obtain ⟨value, outcome, holds⟩ := head
    simp only [Gather.values, List.map_cons, List.filterMap_cons, Occupation.task, Task.plain,
      outcome, Except.toOption] at inductionHypothesis ⊢
    exact List.Forall₂.cons holds inductionHypothesis

/-- Calls made with permits: either all of them succeed, and then their values stand for the items
in order, or the look-up fails. -/
theorem ends_bounded {result : ι → α → Prop} {call : ι → Call σ ε α} {items : List ι}
    (each : ∀ item ∈ items, (call item).Ends failing invariant (result item)) {permits : Nat}
    (positive : 0 < permits) {state : σ} (start : invariant state) :
    (bounded permits call items state).Ends failing invariant (List.Forall₂ result items) := by
  have states := schedule_states each (List.replicate permits ⟨.pooled, false⟩) start
  refine ⟨?_, ?_⟩
  · intro entry member
    obtain ⟨occupation, scheduled, rfl⟩ := List.mem_map.mp member
    exact states occupation scheduled
  · simp only [bounded, occupations, Gather.awaitAll]
    cases first : Gather.firstFailure
        ((schedule call items (List.replicate permits ⟨.pooled, false⟩) state).map (·.task)) with
    | none =>
      have none_fails := (firstFailure_eq_none_iff _).mp first
      refine values_of_forall₂ (forall₂_schedule each ?_ ?_ start ?_)
      · exact List.ne_nil_of_length_pos (by rwa [List.length_replicate])
      · intro permit member
        rw [List.eq_of_mem_replicate member]
      · intro occupation member
        have unfailed := none_fails _ (List.mem_map_of_mem (f := (·.task)) member)
        cases outcome : occupation.outcome with
        | ok value => exact ⟨value, rfl⟩
        | error failure =>
          simp [Occupation.task, Task.plain, Task.failure?, outcome] at unfailed
    | some failure =>
      by_contra forbidden
      have succeed : Gather.firstFailure ((schedule call items
          (List.replicate permits ⟨.pooled, false⟩) state).map (·.task)) = none := by
        rw [firstFailure_eq_none_iff]
        intro task member
        obtain ⟨occupation, scheduled, rfl⟩ := List.mem_map.mp member
        cases outcome : occupation.outcome with
        | ok value => simp [Occupation.task, Task.plain, Task.failure?, outcome]
        | error failure =>
          exact (forbidden (failing_of_schedule each _ start scheduled outcome)).elim
      rw [first] at succeed
      cases succeed

end Run

end UserDirectory
