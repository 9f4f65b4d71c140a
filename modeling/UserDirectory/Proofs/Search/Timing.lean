/-
This file proves what the stages and the deadline of a search amount to. Every
look-up is told by what it would do alone: when it would end and with what, or
that it would be given up at the deadline. A stage takes as long as the longer of
its two look-ups, and the first of their failures ends it, names its service and is
what the search fails with at that instant. Later stages are then not reached, and
what had not begun by then does not begin.
-/

import Mathlib.Algebra.Order.Ring.Unbundled.Rat
import UserDirectory.Proofs.Concurrent.Clock
import UserDirectory.Proofs.Search.Directory

namespace UserDirectory

/-! ### One look-up alone -/

/-- A look-up run alone: it ends by itself, or is given up at the deadline if it would end later. -/
def Service.alone {σ α : Type} (service : Service) (limit : Rat) (dependency : Dependency)
    (run : Run σ Fault α) : Timed Rat DependencyFailure α :=
  if limit < run.time then ⟨limit, .error ⟨dependency, .noAnswer service.deadline.text⟩⟩
  else ⟨run.time, run.outcome.mapError (.ofFault dependency service.deadline.text)⟩

/-- Of two look-ups that begin together, one fails with a failure at an instant, and the other does
not fail before. -/
def FailsFirst {α β : Type} (first : Timed Rat DependencyFailure α)
    (second : Timed Rat DependencyFailure β) (instant : Rat) (failure : DependencyFailure) : Prop :=
  (first.outcome = .error failure ∧ first.time = instant ∧
      ∀ other, second.outcome = .error other → instant < second.time) ∨
    (second.outcome = .error failure ∧ second.time = instant ∧
      ∀ other, first.outcome = .error other → instant < first.time)

/-- Two look-ups that begin together do not fail at the same instant. -/
def FailApart {α β : Type} (first : Timed Rat DependencyFailure α)
    (second : Timed Rat DependencyFailure β) : Prop :=
  ∀ failure other, first.outcome = .error failure → second.outcome = .error other →
    first.time ≠ second.time

/-- What halts an awaited look-up agrees with the clock. -/
def Awaited.Clocked {ε α : Type} (limit : Rat) (awaited : Awaited ε α) : Prop :=
  match awaited.halt with
  | .ended cue => awaited.time = cue.instant ∧ awaited.time < limit
  | .deadline => awaited.time = limit

theorem Awaited.precedes_of_lt {ε α β : Type} {limit : Rat} {first : Awaited ε α}
    {second : Awaited ε β} (firstClocked : first.Clocked limit)
    (secondClocked : second.Clocked limit) (earlier : first.time < second.time) :
    first.halt.precedes second.halt = true ∧ second.halt.precedes first.halt = false := by
  unfold Clocked at firstClocked secondClocked
  split at firstClocked
  · rename_i cue ended
    rw [ended]
    split at secondClocked
    · rename_i other otherEnded
      rw [otherEnded]
      have instants : cue.instant < other.instant := by
        rw [firstClocked.1, secondClocked.1] at earlier
        exact Rat.natCast_lt_natCast.mp earlier
      exact ⟨Cue.precedes_of_lt instants, Cue.not_precedes_of_lt instants⟩
    · rename_i given_up
      rw [given_up]
      exact ⟨rfl, rfl⟩
  · split at secondClocked
    · rw [firstClocked] at earlier
      exact absurd (lt_trans earlier secondClocked.2) (lt_irrefl _)
    · rw [firstClocked, secondClocked] at earlier
      exact absurd earlier (lt_irrefl _)

/-- A stage sees a look-up as it would be alone. -/
structure Awaited.Sees {α : Type} (limit : Rat) (awaited : Awaited SearchFailure α)
    (alone : Timed Rat DependencyFailure α) : Prop where
  time : awaited.time = alone.time
  outcome : awaited.outcome = alone.outcome.mapError .dependency
  clocked : awaited.Clocked limit

namespace Service

variable {σ α β : Type} {service : Service} {limit : Rat}

theorem sees_await (limited : service.deadline.limit = .after limit) (positive : 0 < limit)
    (dependency : Dependency) {run : Run σ Fault α} (apart : (run.time : Rat) ≠ limit) :
    (service.await dependency run).Sees limit (service.alone limit dependency run) := by
  have passed : service.deadline.hasPassed run.time = decide (limit ≤ run.time) := by
    rw [Deadline.hasPassed, limited]
  unfold await alone
  rw [passed]
  by_cases late : limit < run.time
  · rw [if_pos (decide_eq_true (le_of_lt late)), if_pos late]
    have given_up : service.deadline.instant = limit := by
      rw [Deadline.instant, limited]
      exact if_neg (not_le.mpr positive)
    exact ⟨given_up, rfl, given_up⟩
  · have early : (run.time : Rat) < limit := lt_of_le_of_ne (not_lt.mp late) apart
    rw [if_neg (by simpa using early), if_neg late]
    refine ⟨rfl, ?_, rfl, early⟩
    cases run.outcome <;> rfl

end Service

/-! ### Two look-ups of a stage -/

section Both

variable {α β : Type} {limit : Rat} {first : Awaited SearchFailure α}
  {second : Awaited SearchFailure β} {alone : Timed Rat DependencyFailure α}
  {other : Timed Rat DependencyFailure β}

theorem Awaited.Sees.of_ok (sees : first.Sees limit alone) {value : α}
    (succeeds : first.outcome = .ok value) : alone.outcome = .ok value := by
  rw [sees.outcome] at succeeds
  exact mapError_eq_ok_iff.mp succeeds

theorem Awaited.Sees.of_error (sees : first.Sees limit alone) {failure : SearchFailure}
    (fails : first.outcome = .error failure) :
    ∃ cause, failure = .dependency cause ∧ alone.outcome = .error cause := by
  rw [sees.outcome] at fails
  cases outcome : alone.outcome with
  | ok value =>
    rw [outcome] at fails
    cases fails
  | error cause =>
    rw [outcome] at fails
    cases fails
    exact ⟨cause, rfl, rfl⟩

/-- A stage that succeeds takes as long as the longer of its look-ups. -/
theorem both_of_ok (sees : first.Sees limit alone) (otherSees : second.Sees limit other)
    {values : α × β} (succeeds : (first.both second).outcome = .ok values) :
    alone.outcome = .ok values.1 ∧ other.outcome = .ok values.2 ∧
      (first.both second).time = max alone.time other.time := by
  rw [max_def, ← sees.time, ← otherSees.time]
  unfold Awaited.both at succeeds ⊢
  cases firstOutcome : first.outcome with
  | error failure =>
    rw [firstOutcome] at succeeds
    cases secondOutcome : second.outcome with
    | ok b =>
      rw [secondOutcome] at succeeds
      cases succeeds
    | error other =>
      simp only [secondOutcome] at succeeds
      split at succeeds <;> cases succeeds
  | ok a =>
    rw [firstOutcome] at succeeds
    cases secondOutcome : second.outcome with
    | error failure =>
      rw [secondOutcome] at succeeds
      cases succeeds
    | ok b =>
      simp only [secondOutcome] at succeeds ⊢
      have pair : values = (a, b) := by
        split at succeeds
        · exact (Except.ok.inj succeeds).symm
        · exact (Except.ok.inj succeeds).symm
      rw [pair]
      refine ⟨sees.of_ok firstOutcome, otherSees.of_ok secondOutcome, ?_⟩
      split
      · rfl
      · rfl

/-- The first failure of a stage ends it. -/
theorem both_of_error (sees : first.Sees limit alone) (otherSees : second.Sees limit other)
    (apart : FailApart alone other) {failure : SearchFailure}
    (fails : (first.both second).outcome = .error failure) :
    ∃ cause, failure = .dependency cause ∧
      FailsFirst alone other (first.both second).time cause := by
  unfold Awaited.both at fails ⊢
  cases firstOutcome : first.outcome with
  | ok a =>
    cases secondOutcome : second.outcome with
    | ok b =>
      simp only [firstOutcome, secondOutcome] at fails
      split at fails <;> cases fails
    | error failure' =>
      simp only [firstOutcome, secondOutcome] at fails ⊢
      cases fails
      obtain ⟨cause, rfl, otherFails⟩ := otherSees.of_error secondOutcome
      refine ⟨cause, rfl, Or.inr ⟨otherFails, otherSees.time.symm, fun failure aloneFails => ?_⟩⟩
      rw [sees.of_ok firstOutcome] at aloneFails
      cases aloneFails
  | error firstFailure =>
    obtain ⟨cause, rfl, aloneFails⟩ := sees.of_error firstOutcome
    cases secondOutcome : second.outcome with
    | ok b =>
      simp only [firstOutcome, secondOutcome] at fails ⊢
      cases fails
      refine ⟨cause, rfl, Or.inl ⟨aloneFails, sees.time.symm, fun failure otherFails => ?_⟩⟩
      rw [otherSees.of_ok secondOutcome] at otherFails
      cases otherFails
    | error secondFailure =>
      obtain ⟨otherCause, rfl, otherFails⟩ := otherSees.of_error secondOutcome
      simp only [firstOutcome, secondOutcome] at fails ⊢
      -- The stage goes by the order of the halts; the instants differ, so the clock settles it.
      rcases lt_or_gt_of_ne (apart cause otherCause aloneFails otherFails) with earlier | later
      · rw [← sees.time, ← otherSees.time] at earlier
        have order := (Awaited.precedes_of_lt sees.clocked otherSees.clocked earlier).2
        rw [if_neg (by simp [order])] at fails ⊢
        cases fails
        exact ⟨cause, rfl, Or.inl ⟨aloneFails, sees.time.symm, fun _ _ => otherSees.time ▸ earlier⟩⟩
      · rw [← sees.time, ← otherSees.time] at later
        have order := (Awaited.precedes_of_lt otherSees.clocked sees.clocked later).1
        rw [if_pos order] at fails ⊢
        cases fails
        exact ⟨otherCause, rfl,
          Or.inr ⟨otherFails, otherSees.time.symm, fun _ _ => sees.time ▸ later⟩⟩

theorem Awaited.clocked_both (sees : first.Sees limit alone) (otherSees : second.Sees limit other) :
    (first.both second).Clocked limit := by
  unfold Awaited.both
  split
  · split
    · exact otherSees.clocked
    · exact sees.clocked
  · exact sees.clocked
  · exact otherSees.clocked
  · split
    · exact otherSees.clocked
    · exact sees.clocked

end Both

/-! ### What a stage leaves -/

namespace Service

variable {σ τ α β : Type} {service : Service} {limit : Rat}

/-- A look-up that succeeds alone ends by itself, before the deadline. -/
theorem alone_eq_ok {dependency : Dependency} {run : Run σ Fault α} {value : α}
    (apart : (run.time : Rat) ≠ limit)
    (succeeds : (service.alone limit dependency run).outcome = .ok value) :
    run.outcome = .ok value ∧ (run.time : Rat) < limit := by
  unfold alone at succeeds
  by_cases late : limit < run.time
  · rw [if_pos late] at succeeds
    cases succeeds
  · rw [if_neg late] at succeeds
    exact ⟨mapError_eq_ok_iff.mp succeeds, lt_of_le_of_ne (not_lt.mp late) apart⟩

/-- A stage that fails leaves each look-up cut at the instant of the failure. -/
theorem cutAt_stateAfter (limited : service.deadline.limit = .after limit)
    {stage : Awaited SearchFailure β} (clocked : stage.Clocked limit) {failure : SearchFailure}
    (failed : stage.outcome = .error failure) (run : Run σ Fault α) (initial : σ) :
    run.CutAt initial stage.time (service.stateAfter stage run initial) := by
  refine ⟨_, rfl, fun cue begins => ?_⟩
  rw [Bool.and_eq_true, Deadline.lets, limited, Awaited.lets, failed] at begins
  obtain ⟨inTime, continued⟩ := begins
  unfold Awaited.Clocked at clocked
  unfold Halt.lets at continued
  split at clocked
  · rename_i stop ended
    rw [ended, Bool.or_eq_true, Bool.not_eq_true'] at continued
    rw [clocked.1]
    refine Rat.natCast_le_natCast.mpr ?_
    rcases continued with atStart | notAfter
    · cases cue with
      | start rank => exact Nat.zero_le _
      | finish instant other => cases atStart
    · refine Nat.le_of_not_lt fun later => ?_
      rw [Cue.precedes_of_lt later] at notAfter
      cases notAfter
  · rw [clocked]
    exact le_of_lt (of_decide_eq_true inTime)

/-- A stage that succeeds lets every call of a settled look-up begin. -/
theorem stateAfter_of_ok (limited : service.deadline.limit = .after limit)
    {stage : Awaited SearchFailure β} {value : β} (succeeds : stage.outcome = .ok value)
    {run : Run σ Fault α} (settled : run.Settled) (early : (run.time : Rat) < limit) (initial : σ) :
    service.stateAfter stage run initial = run.finalState initial := by
  refine Run.stateWhile_eq_finalState (fun entry member => ?_) initial
  rw [Deadline.lets, limited, Awaited.lets, succeeds, Bool.and_true]
  exact decide_eq_true
    (lt_of_le_of_lt (Rat.natCast_le_natCast.mpr (settled.begun entry member)) early)

end Service

/-! ### Look-ups that succeed are settled -/

theorem settled_usersByLogins {σ : Type} (store : BatchStore σ) (table : Option String)
    (logins : List String) (state : σ) : (usersByLogins store table logins state).Settled := by
  unfold usersByLogins
  cases table with
  | none => exact Run.settled_known _
  | some table => exact (Run.settled_inTurn _ _ _ _).1.thenCheck _

theorem settled_groupsByLogins {σ : Type} {store : PagedStore σ} {enabled : Bool}
    {logins : List String} {state : σ} {groups : List (String × List Json)}
    (succeeds : (groupsByLogins store enabled logins state).outcome = .ok groups) :
    (groupsByLogins store enabled logins state).Settled := by
  unfold groupsByLogins at succeeds ⊢
  split
  · rename_i on
    rw [if_pos on] at succeeds
    obtain ⟨names, gathered, _⟩ := bind_eq_ok_iff.mp succeeds
    exact (Run.settled_bounded gathered).thenCheck _
  · exact Run.settled_known _

theorem settled_tokenCounts {σ : Type} {store : PagedStore σ} {enabled : Bool}
    {users : List (String × String)} {state : σ} {counts : List (String × Json)}
    (succeeds : (tokenCounts store enabled users state).outcome = .ok counts) :
    (tokenCounts store enabled users state).Settled := by
  unfold tokenCounts at succeeds ⊢
  split
  · rename_i on
    rw [if_pos on] at succeeds
    obtain ⟨counted, gathered, _⟩ := bind_eq_ok_iff.mp succeeds
    exact (Run.settled_bounded gathered).thenCheck _
  · exact Run.settled_known _

theorem settled_ask {σ : Type} (delegate : Delegate) (store : BatchStore σ) (userIds : List String)
    (state : Delegation σ) : (delegate.ask store userIds state).Settled := by
  unfold Delegate.ask
  split
  · exact Run.settled_known _
  · exact (Run.settled_inTurn _ _ _ _).1.thenCheck _
  · exact Run.settled_known _
  · exact Run.settled_known _

theorem settled_managedByUserId {σ : Type} (delegates : List Delegate) (store : BatchStore σ)
    (userIds : List String) (state : Delegation σ) :
    (managedByUserId delegates store userIds state).Settled := by
  unfold managedByUserId
  split
  · exact Run.settled_known _
  · rename_i position delegate _
    have asked := settled_ask delegate store userIds
      { state with asked := state.asked ++ [(position, userIds)] }
    refine ⟨fun entry member => ?_, fun instant member => ?_⟩
    · rcases List.mem_cons.mp member with rfl | inAsked
      · exact Nat.zero_le _
      · exact asked.begun entry inAsked
    · rcases List.mem_cons.mp member with rfl | inAsked
      · exact Nat.zero_le _
      · exact asked.ended instant inAsked

end UserDirectory
