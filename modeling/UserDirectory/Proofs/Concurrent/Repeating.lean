/-
This file says when calls and look-ups repeat themselves. States may differ in what
a store has noted of earlier calls; as long as they are alike otherwise, a call that
repeats itself takes the same time, ends in the same way and leaves states that are
alike again. Calls made one after another repeat themselves if each of them does,
and so do the calls of a look-up, whether in turn or with permits: when they begin
and end, and with what, is then settled without the states.
-/

import UserDirectory.Proofs.Concurrent.Runs

namespace UserDirectory

variable {σ τ ε α β ι : Type}

/-! ### Calls -/

namespace Call

/-- A call repeats itself: from all states that are alike it takes the same time and ends in the
same way, and the states it leaves are alike. -/
def Repeats (alike : σ → Prop) (call : Call σ ε α) : Prop :=
  ∃ took outcome, ∀ state, alike state → alike (call.run state).state ∧
    (call.run state).took = took ∧ (call.run state).outcome = outcome

variable {alike : σ → Prop}

theorem repeats_known (outcome : Except ε α) : (known outcome : Call σ ε α).Repeats alike :=
  ⟨0, outcome, fun _ start => ⟨start, rfl, rfl⟩⟩

theorem repeats_update {change : σ → σ} (keeps : ∀ state, alike state → alike (change state)) :
    (update change : Call σ ε Unit).Repeats alike :=
  ⟨0, .ok (), fun state start => ⟨keeps state start, rfl, rfl⟩⟩

/-- A call that tells something in which alike states agree. -/
theorem repeats_told {tell : σ → Except ε α} {outcome : Except ε α}
    (agree : ∀ state, alike state → tell state = outcome) :
    Repeats alike fun state => (⟨state, 0, tell state⟩ : Served σ ε α) :=
  ⟨0, outcome, fun state start => ⟨start, rfl, agree state start⟩⟩

theorem Repeats.bind {first : Call σ ε α} {next : α → Call σ ε β} (repeats : first.Repeats alike)
    (later : ∀ value, (next value).Repeats alike) : (first >>= next).Repeats alike := by
  obtain ⟨took, outcome, first⟩ := repeats
  cases outcome with
  | error failure =>
    refine ⟨took, .error failure, fun state start => ?_⟩
    obtain ⟨kept, sameTime, failed⟩ := first state start
    rw [run_bind_of_error failed]
    exact ⟨kept, sameTime, rfl⟩
  | ok value =>
    obtain ⟨more, outcome, second⟩ := later value
    refine ⟨took + more, outcome, fun state start => ?_⟩
    obtain ⟨kept, sameTime, succeeded⟩ := first state start
    obtain ⟨keptAgain, moreTime, same⟩ := second _ kept
    rw [run_bind_of_ok succeeded, sameTime, moreTime]
    exact ⟨keptAgain, rfl, same⟩

theorem Repeats.within {part : τ → σ} {replace : τ → σ → τ} {call : Call σ ε α}
    {whole : τ → Prop} (repeats : call.Repeats alike)
    (enter : ∀ state, whole state → alike (part state))
    (leave : ∀ state inner, whole state → alike inner → whole (replace state inner)) :
    (call.within part replace).Repeats whole := by
  obtain ⟨took, outcome, inner⟩ := repeats
  refine ⟨took, outcome, fun state start => ?_⟩
  obtain ⟨kept, ends⟩ := inner (part state) (enter state start)
  exact ⟨leave state _ start kept, ends⟩

/-- A call on a part of a state, where states are alike that are the same at rest: it keeps the
whole as it keeps the part. -/
theorem Repeats.within_rested {rest : σ → σ} {restWhole : τ → τ} {part : τ → σ}
    {replace : τ → σ → τ} {call : Call σ ε α} {original : τ}
    (repeats : call.Repeats fun state => rest state = part original)
    (enter : ∀ state, rest (part state) = part (restWhole state))
    (leave : ∀ state inner, rest inner = rest (part state) →
      restWhole (replace state inner) = restWhole state) :
    (call.within part replace).Repeats fun state => restWhole state = original := by
  refine repeats.within (fun state start => ?_) fun state inner start same => ?_
  · rw [enter, start]
  · rw [leave state inner (by rw [same, enter, start]), start]

/-- A call repeats itself if on alike states it is another one that does. -/
theorem Repeats.of_agree {call other : Call σ ε α} (repeats : other.Repeats alike)
    (agree : ∀ state, alike state → call.run state = other.run state) : call.Repeats alike := by
  obtain ⟨took, outcome, other⟩ := repeats
  refine ⟨took, outcome, fun state start => ?_⟩
  rw [agree state start]
  exact other state start

end Call

/-! ### Look-ups -/

namespace Run

/-- A look-up repeats itself: from all states that are alike it ends on the same cue and in the same
way, and every state on its way is alike. -/
def Repeats (alike : σ → Prop) (lookUp : σ → Run σ ε α) : Prop :=
  ∃ closing outcome, ∀ state, alike state → (∀ entry ∈ (lookUp state).history, alike entry.2) ∧
    (lookUp state).closing = closing ∧ (lookUp state).outcome = outcome

variable {alike : σ → Prop}

theorem repeats_known (outcome : Except ε α) :
    Repeats alike fun _ => (known outcome : Run σ ε α) :=
  ⟨.direct, outcome, fun _ _ => ⟨fun _ member => absurd member List.not_mem_nil, rfl, rfl⟩⟩

theorem Repeats.thenCheck {lookUp : σ → Run σ ε α} (repeats : Repeats alike lookUp)
    (next : α → Except ε β) : Repeats alike fun state => (lookUp state).thenCheck next := by
  obtain ⟨closing, outcome, lookUp⟩ := repeats
  refine ⟨closing, outcome.bind next, fun state start => ?_⟩
  obtain ⟨kept, sameClosing, same⟩ := lookUp state start
  exact ⟨kept, sameClosing, congrArg (Except.bind · next) same⟩

theorem repeats_single {call : Call σ ε α} (repeats : call.Repeats alike) :
    Repeats alike (single call) := by
  obtain ⟨took, outcome, call⟩ := repeats
  refine ⟨.finish took .direct, outcome, fun state start => ?_⟩
  obtain ⟨kept, sameTime, same⟩ := call state start
  refine ⟨fun entry member => ?_, congrArg (Cue.finish · .direct) sameTime, same⟩
  rw [List.mem_singleton.mp member]
  exact kept

/-! ### One call after another -/

theorem repeats_inTurn {call : ι → Call σ ε α} {items : List ι}
    (each : ∀ item ∈ items, (call item).Repeats alike) (cue : Cue) :
    Repeats alike (inTurn call items cue) := by
  induction items generalizing cue with
  | nil =>
    exact ⟨cue, .ok [], fun _ _ => ⟨fun _ member => absurd member List.not_mem_nil, rfl, rfl⟩⟩
  | cons item rest inductionHypothesis =>
    rw [List.forall_mem_cons] at each
    obtain ⟨took, outcome, first⟩ := each.1
    have later := inductionHypothesis each.2 (.finish (cue.instant + took) cue)
    obtain ⟨closing, others, later⟩ := later
    cases outcome with
    | error failure =>
      refine ⟨.finish (cue.instant + took) cue, .error failure, fun state start => ?_⟩
      obtain ⟨kept, sameTime, failed⟩ := first state start
      simp only [inTurn, failed, sameTime]
      refine ⟨fun entry member => ?_, trivial, trivial⟩
      rw [List.mem_singleton.mp member]
      exact kept
    | ok value =>
      refine ⟨closing, others.map (value :: ·), fun state start => ?_⟩
      obtain ⟨kept, sameTime, succeeded⟩ := first state start
      obtain ⟨keptLater, sameClosing, same⟩ := later _ kept
      simp only [inTurn, succeeded, sameTime, sameClosing, same]
      refine ⟨fun entry member => ?_, trivial, trivial⟩
      rcases List.mem_cons.mp member with rfl | inLater
      · exact kept
      · exact keptLater entry inLater

/-! ### Several calls at a time -/

/-- A call that was made when a permit was free, without the state that it left. -/
def Occupation.bare (occupation : Occupation σ ε α) : Occupation Unit ε α :=
  ⟨occupation.cue, occupation.finish, (), occupation.outcome⟩

theorem map_task_bare (occupations : List (Occupation σ ε α)) :
    (occupations.map (·.bare)).map (·.task) = occupations.map (·.task) := by
  rw [List.map_map]
  rfl

/-- When the outcome of calls is known does not depend on the states that they leave. -/
theorem closingOf_bare (occupations : List (Occupation σ ε α)) :
    closingOf (occupations.map (·.bare)) = closingOf occupations := by
  rw [closingOf, closingOf, map_task_bare, List.map_map]
  rfl

theorem repeats_schedule {call : ι → Call σ ε α} {items : List ι}
    (each : ∀ item ∈ items, (call item).Repeats alike) (free : List Permit) :
    ∃ bare, ∀ state, alike state → (schedule call items free state).map (·.bare) = bare ∧
      ∀ occupation ∈ schedule call items free state, alike occupation.state := by
  induction items generalizing free with
  | nil => exact ⟨[], fun _ _ => ⟨rfl, fun _ member => absurd member List.not_mem_nil⟩⟩
  | cons item rest inductionHypothesis =>
    cases free with
    | nil => exact ⟨[], fun _ _ => ⟨rfl, fun _ member => absurd member List.not_mem_nil⟩⟩
    | cons permit others =>
      rw [List.forall_mem_cons] at each
      obtain ⟨took, outcome, first⟩ := each.1
      -- Which permit is handed on is settled by when the call ends and with what.
      let occupation : Occupation Unit ε α :=
        ⟨permit.cue, permit.cue.instant + took, (), outcome⟩
      obtain ⟨bare, later⟩ := inductionHypothesis each.2 (release occupation.permit others)
      refine ⟨occupation :: if permit.isLast then [] else bare, fun state start => ?_⟩
      obtain ⟨kept, sameTime, same⟩ := first state start
      obtain ⟨sameLater, keptLater⟩ := later _ kept
      have permitted : Occupation.permit (⟨permit.cue, permit.cue.instant + took,
          ((call item).run state).state, outcome⟩ : Occupation σ ε α) = occupation.permit := rfl
      simp only [schedule, sameTime, same, permitted, List.map_cons]
      by_cases last : permit.isLast = true
      · simp only [if_pos last, List.map_nil, List.forall_mem_singleton]
        exact ⟨rfl, kept⟩
      · simp only [if_neg last, sameLater, List.forall_mem_cons]
        exact ⟨rfl, kept, keptLater⟩

/-- Calls made with permits repeat themselves. -/
theorem repeats_bounded {call : ι → Call σ ε α} {items : List ι}
    (each : ∀ item ∈ items, (call item).Repeats alike) (permits : Nat) :
    Repeats alike (bounded permits call items) := by
  obtain ⟨bare, scheduled⟩ := repeats_schedule each (List.replicate permits ⟨.pooled, false⟩)
  refine ⟨closingOf bare, (Gather.awaitAll (bare.map (·.task))).outcome, fun state start => ?_⟩
  obtain ⟨same, kept⟩ := scheduled state start
  rw [← same, closingOf_bare, map_task_bare]
  refine ⟨fun entry member => ?_, rfl, rfl⟩
  obtain ⟨occupation, inSchedule, rfl⟩ := List.mem_map.mp member
  exact kept occupation inSchedule

end Run

end UserDirectory
