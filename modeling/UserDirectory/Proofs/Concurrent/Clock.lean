/-
This file relates what lets calls begin to the clock. Cues settle the order of
events at one instant, so they say more than their instants do, but they never
contradict the clock: of two cues with different instants the earlier one comes
first. Nothing that a look-up does begins after the look-up has ended, or goes on
then, unless it has failed while other calls of it were under way.
-/

import Mathlib.Data.List.TakeWhile
import UserDirectory.Concurrent.Stage
import UserDirectory.Proofs.Concurrent.Runs

namespace UserDirectory

/-! ### Cues and the clock -/

namespace Cue

theorem precedes_of_lt {first second : Cue} (earlier : first.instant < second.instant) :
    first.precedes second = true := by
  cases first with
  | start rank =>
    cases second with
    | start other => exact absurd earlier (Nat.lt_irrefl 0)
    | finish instant cue => rfl
  | finish instant cue =>
    cases second with
    | start other => exact absurd earlier (Nat.not_lt_zero instant)
    | finish other cue' =>
      rw [precedes, Bool.or_eq_true]
      exact Or.inl (decide_eq_true earlier)

theorem le_of_precedes {first second : Cue} (before : first.precedes second = true) :
    first.instant ≤ second.instant := by
  cases first with
  | start rank => exact Nat.zero_le _
  | finish instant cue =>
    cases second with
    | start other => cases before
    | finish other cue' =>
      rw [precedes, Bool.or_eq_true, Bool.and_eq_true] at before
      rcases before with earlier | ⟨same, _⟩
      · exact Nat.le_of_lt (of_decide_eq_true earlier)
      · exact Nat.le_of_eq (beq_iff_eq.mp same)

theorem not_precedes_of_lt {first second : Cue} (later : second.instant < first.instant) :
    first.precedes second = false := by
  rw [Bool.eq_false_iff]
  exact fun before => absurd (le_of_precedes before) (Nat.not_le.mpr later)

theorem le_later_left (first second : Cue) : first.instant ≤ (first.later second).instant := by
  rw [later]
  by_cases before : second.precedes first = true
  · exact Nat.le_of_eq (by rw [if_pos before])
  · rw [if_neg before]
    exact Nat.le_of_not_lt fun earlier => before (precedes_of_lt earlier)

theorem le_later_right (first second : Cue) : second.instant ≤ (first.later second).instant := by
  rw [later]
  by_cases before : second.precedes first = true
  · rw [if_pos before]
    exact le_of_precedes before
  · exact Nat.le_of_eq (by rw [if_neg before])

theorem le_foldl_later (cues : List Cue) (first : Cue) :
    first.instant ≤ (cues.foldl later first).instant ∧
      ∀ cue ∈ cues, cue.instant ≤ (cues.foldl later first).instant := by
  induction cues generalizing first with
  | nil => exact ⟨Nat.le_refl _, fun _ member => absurd member List.not_mem_nil⟩
  | cons cue rest inductionHypothesis =>
    obtain ⟨start, others⟩ := inductionHypothesis (first.later cue)
    rw [List.foldl_cons, List.forall_mem_cons]
    exact ⟨Nat.le_trans (le_later_left first cue) start,
      Nat.le_trans (le_later_right first cue) start, others⟩

end Cue

/-! ### Look-ups and the clock -/

namespace Run

variable {σ ε α β ι : Type}

/-- A look-up is settled when it ends: none of its calls begins later or goes on. -/
structure Settled (run : Run σ ε α) : Prop where
  begun : ∀ entry ∈ run.history, entry.1.instant ≤ run.time
  ended : ∀ instant ∈ run.ends, instant ≤ run.time

theorem settled_known (outcome : Except ε α) : (known outcome : Run σ ε α).Settled :=
  ⟨fun _ member => absurd member List.not_mem_nil, fun _ member => absurd member List.not_mem_nil⟩

theorem settled_single (call : Call σ ε α) (state : σ) : (single call state).Settled := by
  refine ⟨fun entry member => ?_, fun instant member => ?_⟩
  · rw [List.mem_singleton.mp member]
    exact Nat.zero_le _
  · rw [List.mem_singleton.mp member]
    exact Nat.le_refl _

theorem Settled.thenCheck {run : Run σ ε α} (settled : run.Settled) (next : α → Except ε β) :
    (run.thenCheck next).Settled :=
  ⟨settled.begun, settled.ended⟩

/-- Whichever calls of a settled look-up have begun, they have ended when it ends. -/
theorem Settled.le_of_mem_endsWhile {run : Run σ ε α} (settled : run.Settled)
    {begins : Cue → Bool} {instant : Nat} (member : instant ∈ run.endsWhile begins) :
    instant ≤ run.time := by
  obtain ⟨⟨entry, ended⟩, begun, rfl⟩ := List.mem_map.mp member
  exact settled.ended ended (List.of_mem_zip (List.takeWhile_subset _ begun)).2

/-- Calls made in turn begin one after another, the first of them on the given cue. -/
theorem settled_inTurn (call : ι → Call σ ε α) (items : List ι) (cue : Cue) (state : σ) :
    (inTurn call items cue state).Settled ∧ cue.instant ≤ (inTurn call items cue state).time := by
  induction items generalizing cue state with
  | nil =>
    exact ⟨⟨fun _ member => absurd member List.not_mem_nil,
      fun _ member => absurd member List.not_mem_nil⟩, Nat.le_refl _⟩
  | cons item rest inductionHypothesis =>
    simp only [inTurn]
    cases outcome : ((call item).run state).outcome with
    | error failure =>
      refine ⟨⟨fun entry member => ?_, fun instant member => ?_⟩, Nat.le_add_right _ _⟩
      · rw [List.mem_singleton.mp member]
        exact Nat.le_add_right _ _
      · rw [List.mem_singleton.mp member]
        exact Nat.le_refl _
    | ok value =>
      obtain ⟨settled, started⟩ := inductionHypothesis
        (Cue.finish (cue.instant + ((call item).run state).took) cue) ((call item).run state).state
      have begun := Nat.le_trans (Nat.le_add_right cue.instant ((call item).run state).took) started
      refine ⟨⟨fun entry member => ?_, fun instant member => ?_⟩, begun⟩
      · rcases List.mem_cons.mp member with rfl | inRest
        · exact begun
        · exact settled.begun entry inRest
      · rcases List.mem_cons.mp member with rfl | inRest
        · exact started
        · exact settled.ended instant inRest

theorem start_le_finish (call : ι → Call σ ε α) (items : List ι) (free : List Permit) (state : σ) :
    ∀ occupation ∈ schedule call items free state, occupation.start ≤ occupation.finish := by
  induction items generalizing free state with
  | nil => exact fun _ member => absurd member List.not_mem_nil
  | cons item rest inductionHypothesis =>
    cases free with
    | nil => exact fun _ member => absurd member List.not_mem_nil
    | cons permit others =>
      rw [schedule, List.forall_mem_cons]
      refine ⟨Nat.le_add_right _ _, fun occupation member => ?_⟩
      split at member
      · cases member
      · exact inductionHypothesis _ _ occupation member

/-- Calls made with permits all end before the look-up does, if it succeeds. -/
theorem settled_bounded {permits : Nat} {call : ι → Call σ ε α} {items : List ι} {state : σ}
    {values : List α} (succeeds : (bounded permits call items state).outcome = .ok values) :
    (bounded permits call items state).Settled := by
  have none_fails : Gather.firstFailure ((occupations permits call items state).map (·.task)) =
      none := by
    cases first : Gather.firstFailure ((occupations permits call items state).map (·.task)) with
    | none => rfl
    | some failure =>
      simp only [bounded, Gather.awaitAll, first] at succeeds
      cases succeeds
  have ended : ∀ occupation ∈ occupations permits call items state,
      occupation.finish ≤ (bounded permits call items state).time := by
    intro occupation scheduled
    simp only [time, bounded, closingOf, none_fails]
    exact (Cue.le_foldl_later _ _).2 occupation.ending (List.mem_map_of_mem scheduled)
  refine ⟨fun entry member => ?_, fun instant member => ?_⟩
  · obtain ⟨occupation, scheduled, rfl⟩ := List.mem_map.mp member
    exact Nat.le_trans (start_le_finish call items _ state occupation scheduled)
      (ended occupation scheduled)
  · obtain ⟨occupation, scheduled, rfl⟩ := List.mem_map.mp member
    exact ended occupation scheduled

/-- A look-up that is never cut off leaves the state after all its calls. -/
theorem stateWhile_eq_finalState {run : Run σ ε α} {begins : Cue → Bool}
    (all : ∀ entry ∈ run.history, begins entry.1 = true) (initial : σ) :
    run.stateWhile initial begins = run.finalState initial := by
  have whole : run.history.takeWhile (fun entry => begins entry.1) = run.history :=
    List.takeWhile_eq_self_iff.mpr all
  have always : run.history.takeWhile (fun _ => true) = run.history :=
    List.takeWhile_eq_self_iff.mpr fun _ _ => rfl
  rw [finalState, stateWhile, stateWhile, whole, always]

/-- A look-up is cut at an instant: some of its calls have had their effect, all of them begun by
then, and no other call has. -/
def CutAt (run : Run σ ε α) (initial : σ) (instant : Rat) (state : σ) : Prop :=
  ∃ begins : Cue → Bool, state = run.stateWhile initial begins ∧
    ∀ cue, begins cue = true → (cue.instant : Rat) ≤ instant

end Run

end UserDirectory
