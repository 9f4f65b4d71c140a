/-
This file tells how a look-up that makes calls with permits goes. It follows the
one list schedule of its calls, never has more of them in flight than there are
permits, and is over within the bounds that a list schedule has. Of several
failures the first one of the whole schedule is reported: what a failure cuts off
begins no earlier than some failure happened, and so cannot have failed before it.
-/

import UserDirectory.Proofs.Concurrent.Scheduling

namespace UserDirectory

variable {σ ε α ι : Type}

namespace Run

/-! ### When calls that succeed are over -/

theorem instant_foldl_later (cues : List Cue) (first : Cue) :
    (cues.foldl Cue.later first).instant =
      max first.instant (Gather.latest (cues.map Cue.instant)) := by
  have later (cue other : Cue) : (cue.later other).instant = max cue.instant other.instant := by
    refine Nat.le_antisymm ?_ (Nat.max_le.mpr ⟨Cue.le_later_left _ _, Cue.le_later_right _ _⟩)
    rw [Cue.later]
    split
    · exact Nat.le_max_left _ _
    · exact Nat.le_max_right _ _
  induction cues generalizing first with
  | nil => exact (Nat.max_eq_left (Nat.zero_le _)).symm
  | cons cue rest inductionHypothesis =>
    rw [List.foldl_cons, inductionHypothesis, later, List.map_cons, Nat.max_assoc]
    rfl

theorem failure?_task {occupation : Occupation σ ε α} {cause : ε} :
    occupation.task.failure? = some cause ↔ occupation.outcome = .error cause :=
  Gather.failure?_eq_some_iff

section Ending

variable {permits : Nat} {call : ι → Call σ ε α} {items : List ι} {state : σ}

theorem time_of_unfailed
    (none_fails :
      Gather.firstFailure ((occupations permits call items state).map (·.task)) = none) :
    (bounded permits call items state).time =
      Gather.latest ((occupations permits call items state).map (·.finish)) := by
  rw [time, bounded]
  simp only [closingOf, none_fails]
  rw [instant_foldl_later, List.map_map]
  exact Nat.max_eq_right (Nat.zero_le _)

theorem finish_of_mem {occupation : Occupation σ ε α} {free : List Permit}
    (member : occupation ∈ schedule call items free state) :
    occupation.span.finish = occupation.finish :=
  Nat.add_sub_cancel' (start_le_finish call items free state occupation member)

theorem outcome_of_unfailed
    (none_fails :
      Gather.firstFailure ((occupations permits call items state).map (·.task)) = none) :
    ∃ values, (bounded permits call items state).outcome = .ok values ∧
      (occupations permits call items state).map (·.outcome) = values.map .ok := by
  refine ⟨Gather.values ((occupations permits call items state).map (·.task)), ?_, ?_⟩
  · simp only [bounded, Gather.awaitAll, none_fails]
  · rw [← Gather.map_outcome ((firstFailure_eq_none_iff _).mp none_fails), List.map_map]
    rfl

/-- A failure ends the look-up when it happens, and is what the look-up reports. -/
theorem bounded_of_failure {failure : Failure ε}
    (first : Gather.firstFailure ((occupations permits call items state).map (·.task)) =
      some failure) :
    (bounded permits call items state).outcome = .error failure.cause ∧
      (bounded permits call items state).time = failure.time := by
  obtain ⟨task, there, -, duration⟩ := Gather.cause_of_firstFailure first
  rw [List.getElem?_map] at there
  obtain ⟨occupation, found, rfl⟩ := Option.map_eq_some_iff.mp there
  refine ⟨?_, ?_⟩
  · simp only [bounded, Gather.awaitAll, first]
  · simp only [time, bounded, closingOf, first, List.getElem?_map, found, Option.map_some,
      Option.getD_some]
    exact duration

end Ending

/-! ### Following the schedule -/

/-- Spans that are a list schedule of what calls take. -/
structure Schedules (permits : Nat) (calls : List (Served σ ε α)) (spans : List Span) : Prop where
  isListSchedule : IsListSchedule permits spans
  durations : spans.map Span.duration = calls.map (·.took)

/-- What comes of a look-up whose calls have all succeeded, when they were scheduled so. -/
structure Completes (permits : Nat) (calls : List (Served σ ε α)) (spans : List Span)
    (run : Run σ ε (List α)) : Prop where
  starts : run.history.map (·.1.instant) = spans.map Span.start
  states : run.history.map (·.2) = calls.map (·.state)
  outcome : ∃ values, run.outcome = .ok values ∧ calls.map (·.outcome) = values.map .ok
  time : run.time = Gather.latest (spans.map Span.finish)
  longest_le : Gather.latest (calls.map (·.took)) ≤ run.time
  sum_le : (calls.map (·.took)).sum ≤ permits * run.time
  le_sum : permits * run.time ≤
    (calls.map (·.took)).sum + (permits - 1) * Gather.latest (calls.map (·.took))
  equal : ∀ duration, (∀ served ∈ calls, served.took = duration) →
    run.time = (calls.length ⌈/⌉ permits) * duration

/-- The call at a position fails at an instant of a schedule. -/
def FailsAt (calls : List (Served σ ε α)) (spans : List Span) (position instant : Nat)
    (cause : ε) : Prop :=
  ∃ served span, calls[position]? = some served ∧ spans[position]? = some span ∧
    served.outcome = .error cause ∧ span.finish = instant

/-- What comes of a look-up of which a call has failed: it is over with the first failure of the
schedule, the earliest item's of several at one instant. -/
structure Stops (calls : List (Served σ ε α)) (spans : List Span) (run : Run σ ε (List α)) :
    Prop where
  starts : run.history.map (·.1.instant) <+: spans.map Span.start
  states : run.history.map (·.2) <+: calls.map (·.state)
  ends : ∃ position instant cause, FailsAt calls spans position instant cause ∧
    (∀ other later otherCause, FailsAt calls spans other later otherCause →
      instant < later ∨ (instant = later ∧ position ≤ other)) ∧
    run.outcome = .error cause ∧ run.time = instant

section Following

variable {permits : Nat} {call : ι → Call σ ε α} {items : List ι} {state : σ}

theorem handedOn_of_mem_replicate {cue : Cue} :
    ∀ permit ∈ List.replicate permits (⟨cue, false⟩ : Permit), permit.isLast = false := by
  intro permit member
  rw [List.eq_of_mem_replicate member]

theorem map_served_occupations (positive : 0 < permits)
    (succeed : ∀ served ∈ servedInOrder call items state, ∃ value, served.outcome = .ok value) :
    (occupations permits call items state).map Occupation.served =
      servedInOrder call items state :=
  map_served_schedule (mt (List.replicate_eq_nil_iff _).mp (Nat.ne_of_gt positive))
    handedOn_of_mem_replicate succeed

theorem succeed_attempt (call : ι → Call σ ε α) (items : List ι) (state : σ) :
    ∀ served ∈ servedInOrder (fun item => (call item).attempt) items state,
      ∃ value, served.outcome = .ok value := by
  intro served member
  rw [servedInOrder_attempt] at member
  obtain ⟨origin, -, rfl⟩ := List.mem_map.mp member
  exact ⟨origin.outcome, rfl⟩

theorem map_served_attempt (call : ι → Call σ ε α) (items : List ι) (state : σ)
    (positive : 0 < permits) :
    (occupations permits (fun item => (call item).attempt) items state).map Occupation.served =
      (servedInOrder call items state).map Served.attempt := by
  rw [map_served_occupations positive (succeed_attempt call items state), servedInOrder_attempt]

/-- The schedule that is followed as far as no failure cuts it short. -/
theorem occupations_attempt (permits : Nat) (call : ι → Call σ ε α) (items : List ι) (state : σ) :
    ∃ behind, occupations permits (fun item => (call item).attempt) items state =
        (occupations permits call items state).map Occupation.attempt ++ behind ∧
      ∀ late ∈ behind, ∃ occupation ∈ occupations permits call items state,
        occupation.Fails ∧ occupation.finish ≤ late.start := by
  have inOrder : InOrder (List.replicate permits ⟨.pooled, false⟩) :=
    List.pairwise_replicate.mpr (Or.inr (Nat.le_refl _))
  obtain ⟨behind, split, cutOff⟩ := schedule_attempt call items state inOrder
  rw [List.map_replicate] at split
  refine ⟨behind, split, fun late member => ?_⟩
  rcases cutOff late member with ⟨permit, isFree, isLast, -⟩ | found
  · cases (handedOn_of_mem_replicate permit isFree).symm.trans isLast
  · exact found

theorem tracks_occupations (positive : 0 < permits)
    (succeed : ∀ served ∈ servedInOrder call items state, ∃ value, served.outcome = .ok value) :
    IsListSchedule permits ((occupations permits call items state).map Occupation.span) ∧
      ∃ instants, Tracks permits ((occupations permits call items state).map Occupation.span)
        instants := by
  refine schedule_follows positive handedOn_of_mem_replicate
    (List.pairwise_replicate.mpr (Or.inr (Nat.le_refl _))) succeed [] isListSchedule_nil ?_
  rw [List.map_replicate]
  exact tracks_replicate permits

theorem schedules_occupations (positive : 0 < permits)
    (succeed : ∀ served ∈ servedInOrder call items state, ∃ value, served.outcome = .ok value) :
    Schedules permits (servedInOrder call items state)
      ((occupations permits call items state).map Occupation.span) := by
  refine ⟨(tracks_occupations positive succeed).1, ?_⟩
  rw [← map_served_occupations positive succeed, List.map_map, List.map_map]
  rfl

/-- When the calls are planned, as if no failure cut any of them off. -/
def planned (permits : Nat) (call : ι → Call σ ε α) (items : List ι) (state : σ) : List Span :=
  (occupations permits (fun item => (call item).attempt) items state).map Occupation.span

theorem schedules_planned (call : ι → Call σ ε α) (items : List ι) (state : σ)
    (positive : 0 < permits) :
    Schedules permits (servedInOrder call items state) (planned permits call items state) := by
  have schedules := schedules_occupations positive (succeed_attempt call items state)
  refine ⟨schedules.isListSchedule, schedules.durations.trans ?_⟩
  rw [servedInOrder_attempt, List.map_map]
  rfl

theorem completes_of_succeed (positive : 0 < permits)
    (succeed : ∀ served ∈ servedInOrder call items state, ∃ value, served.outcome = .ok value) :
    Completes permits (servedInOrder call items state)
      ((occupations permits call items state).map Occupation.span)
      (bounded permits call items state) := by
  obtain ⟨-, instants, tracks⟩ := tracks_occupations positive succeed
  have served := map_served_occupations positive succeed
  have none_fails :
      Gather.firstFailure ((occupations permits call items state).map (·.task)) = none := by
    refine (firstFailure_eq_none_iff _).mpr fun task member => ?_
    obtain ⟨occupation, isMade, rfl⟩ := List.mem_map.mp member
    obtain ⟨value, outcome⟩ := succeed occupation.served (served ▸ List.mem_map_of_mem isMade)
    exact Gather.failure?_eq_none_iff.mpr ⟨value, outcome⟩
  have time : (bounded permits call items state).time =
      Gather.latest (((occupations permits call items state).map Occupation.span).map
        Span.finish) := by
    rw [time_of_unfailed none_fails, List.map_map]
    exact congrArg Gather.latest (List.map_congr_left fun _ member => (finish_of_mem member).symm)
  have took := (schedules_occupations positive succeed).durations
  obtain ⟨values, outcome, each⟩ := outcome_of_unfailed none_fails
  refine ⟨?_, ?_, ⟨values, outcome, ?_⟩, time, ?_, ?_, ?_, fun duration same => ?_⟩
  · rw [bounded, List.map_map, List.map_map]
    rfl
  · rw [← served, bounded, List.map_map, List.map_map]
    rfl
  · rw [← each, ← served, List.map_map]
    rfl
  · rw [← took, time]
    refine Gather.latest_le fun duration member => ?_
    obtain ⟨span, isSpan, rfl⟩ := List.mem_map.mp member
    exact Nat.le_trans (Nat.le_add_left _ _) (Gather.le_latest (List.mem_map_of_mem isSpan))
  · rw [← took, time]
    exact tracks.sum_le
  · rw [← took, time]
    exact tracks.le_sum
  · rw [time, ← served, List.length_map, ← List.length_map (f := Occupation.span)]
    refine tracks.last_of_equal positive fun span isSpan => ?_
    have isDuration := took ▸ List.mem_map_of_mem (f := Span.duration) isSpan
    obtain ⟨call, isCall, isTook⟩ := List.mem_map.mp isDuration
    exact isTook ▸ same call isCall

/-- Calls are made as scheduled for as long as they are made. -/
theorem starts_isPrefix :
    (bounded permits call items state).history.map (·.1.instant) <+:
      (planned permits call items state).map Span.start := by
  obtain ⟨behind, split, -⟩ := occupations_attempt permits call items state
  refine ⟨(behind.map Occupation.span).map Span.start, ?_⟩
  rw [planned, split, bounded]
  simp only [List.map_append, List.map_map]
  rfl

theorem states_isPrefix (positive : 0 < permits) :
    (bounded permits call items state).history.map (·.2) <+:
      (servedInOrder call items state).map (·.state) := by
  obtain ⟨behind, split, -⟩ := occupations_attempt permits call items state
  have served := congrArg (List.map Served.state) (map_served_attempt call items state positive)
  rw [split] at served
  simp only [List.map_append, List.map_map] at served
  refine ⟨behind.map (Served.state ∘ Occupation.served), Eq.trans ?_ served⟩
  rw [bounded, List.map_map]
  rfl

/-- The failures of a schedule, told by the calls that report them as values. -/
theorem failsAt_iff (positive : 0 < permits) {position instant : Nat} {cause : ε} :
    FailsAt (servedInOrder call items state)
        (planned permits call items state)
        position instant cause ↔
      ∃ occupation,
        (occupations permits (fun item => (call item).attempt) items state)[position]? =
          some occupation ∧
        occupation.outcome = .ok (.error cause) ∧ occupation.finish = instant := by
  have there := congrArg (·[position]?) (map_served_attempt call items state positive)
  simp only [List.getElem?_map] at there
  rw [FailsAt, planned]
  simp only [List.getElem?_map]
  constructor
  · rintro ⟨origin, span, isOrigin, isSpan, fails, finish⟩
    obtain ⟨occupation, found, rfl⟩ := Option.map_eq_some_iff.mp isSpan
    rw [found, isOrigin, Option.map_some, Option.map_some, Option.some.injEq] at there
    refine ⟨occupation, found, ?_, ?_⟩
    · exact (congrArg Served.outcome there).trans (congrArg Except.ok fails)
    · rw [← finish]
      exact (finish_of_mem (List.mem_of_getElem? found)).symm
  · rintro ⟨occupation, found, fails, finish⟩
    rw [found, Option.map_some] at there
    obtain ⟨origin, isOrigin, same⟩ := Option.map_eq_some_iff.mp there.symm
    refine ⟨origin, occupation.span, isOrigin, by rw [found, Option.map_some], ?_, ?_⟩
    · exact Except.ok.inj ((congrArg Served.outcome same).trans fails)
    · rw [← finish]
      exact finish_of_mem (List.mem_of_getElem? found)

/-- A failure of the schedule is one of a call that is made, or is not before such a failure. -/
theorem task_of_failsAt (positive : 0 < permits) {position instant : Nat} {cause : ε}
    (fails : FailsAt (servedInOrder call items state)
      (planned permits call items state)
      position instant cause) :
    ∃ (other : Nat) (task : Task ε α) (otherCause : ε),
      ((occupations permits call items state).map (·.task))[other]? = some task ∧
      task.failure? = some otherCause ∧ task.duration ≤ instant ∧ other ≤ position := by
  obtain ⟨occupation, there, outcome, rfl⟩ := (failsAt_iff positive).mp fails
  obtain ⟨behind, split, cutOff⟩ := occupations_attempt permits call items state
  have lasts := start_le_finish _ _ _ _ occupation (List.mem_of_getElem? there)
  rw [split] at there
  by_cases within :
      position < ((occupations permits call items state).map Occupation.attempt).length
  · rw [List.getElem?_append_left within, List.getElem?_map] at there
    obtain ⟨origin, found, rfl⟩ := Option.map_eq_some_iff.mp there
    refine ⟨position, origin.task, cause, ?_, ?_, Nat.le_refl _, Nat.le_refl _⟩
    · rw [List.getElem?_map, found, Option.map_some]
    · exact failure?_task.mpr (Except.ok.inj outcome)
  · rw [List.getElem?_append_right (Nat.le_of_not_lt within)] at there
    obtain ⟨origin, isMade, ⟨otherCause, otherFails⟩, early⟩ :=
      cutOff occupation (List.mem_of_getElem? there)
    obtain ⟨other, isThere⟩ := List.mem_iff_getElem?.mp isMade
    refine ⟨other, origin.task, otherCause, ?_, failure?_task.mpr otherFails,
      Nat.le_trans early lasts, ?_⟩
    · rw [List.getElem?_map, isThere, Option.map_some]
    · obtain ⟨bound, -⟩ := List.getElem?_eq_some_iff.mp isThere
      rw [List.length_map] at within
      omega

/-- A failure of a call that is made is one of the schedule. -/
theorem failsAt_of_task (positive : 0 < permits) {position : Nat} {task : Task ε α} {cause : ε}
    (there : ((occupations permits call items state).map (·.task))[position]? = some task)
    (fails : task.failure? = some cause) :
    FailsAt (servedInOrder call items state)
      (planned permits call items state)
      position task.duration cause := by
  rw [List.getElem?_map] at there
  obtain ⟨occupation, found, rfl⟩ := Option.map_eq_some_iff.mp there
  obtain ⟨behind, split, -⟩ := occupations_attempt permits call items state
  refine (failsAt_iff positive).mpr
    ⟨occupation.attempt, ?_, congrArg Except.ok (failure?_task.mp fails), rfl⟩
  rw [split, List.getElem?_append_left, List.getElem?_map, found, Option.map_some]
  rw [List.length_map]
  exact (List.getElem?_eq_some_iff.mp found).1

theorem stops_of_failing (positive : 0 < permits)
    (failing : ∃ served ∈ servedInOrder call items state, ∃ cause, served.outcome = .error cause) :
    Stops (servedInOrder call items state)
      (planned permits call items state)
      (bounded permits call items state) := by
  obtain ⟨served, isCall, cause, fails⟩ := failing
  obtain ⟨position, there⟩ := List.mem_iff_getElem?.mp isCall
  have isSpan := congrArg (·[position]?) (schedules_planned call items state positive).durations
  simp only [List.getElem?_map (f := Served.took), there, Option.map_some] at isSpan
  rw [List.getElem?_map] at isSpan
  obtain ⟨span, spanThere, -⟩ := Option.map_eq_some_iff.mp isSpan
  obtain ⟨other, task, otherCause, isTask, taskFails, -⟩ :=
    task_of_failsAt positive ⟨served, span, there, spanThere, fails, rfl⟩
  cases first : Gather.firstFailure ((occupations permits call items state).map (·.task)) with
  | none =>
    have unfailed := (firstFailure_eq_none_iff _).mp first task (List.mem_of_getElem? isTask)
    cases unfailed.symm.trans taskFails
  | some failure =>
    obtain ⟨outcome, time⟩ := bounded_of_failure first
    obtain ⟨failing, failingThere, failingFails, duration⟩ := Gather.cause_of_firstFailure first
    refine ⟨starts_isPrefix, states_isPrefix positive, failure.position, failure.time,
      failure.cause, duration ▸ failsAt_of_task positive failingThere failingFails,
      fun other later otherCause fails => ?_, outcome, time⟩
    obtain ⟨before, task, cause, isTask, taskFails, early, order⟩ := task_of_failsAt positive fails
    have least := Gather.firstFailure_least first isTask taskFails
    omega

/-- What is under way when calls begin one after the other is in flight then. -/
theorem mostAtOnce_le {earlier later : List (Occupation σ ε α)}
    (lasts : ∀ occupation ∈ earlier ++ later, occupation.start ≤ occupation.finish)
    (follows : IsListSchedule permits ((earlier.reverse ++ later).map Occupation.span)) :
    mostAtOnce earlier later ≤ permits := by
  induction later generalizing earlier with
  | nil => exact Nat.zero_le _
  | cons occupation rest inductionHypothesis =>
    have begins := follows (earlier.reverse.map Occupation.span) occupation.span
      (rest.map Occupation.span) (by rw [List.map_append, List.map_cons])
    have inFlightThen : underWay occupation.start earlier =
        inFlight occupation.start (earlier.reverse.map Occupation.span) := by
      rw [underWay, ← List.countP_eq_length_filter, inFlight, List.countP_map,
        (List.reverse_perm earlier).countP_eq]
      refine List.countP_congr fun before member => ?_
      have begun := begins.1.1 before.span
        (List.mem_map_of_mem (List.mem_reverse.mpr member))
      have finish : before.span.finish = before.finish :=
        Nat.add_sub_cancel' (lasts before (List.mem_append_left _ member))
      simp only [Function.comp_apply, decide_eq_true_eq, finish]
      exact (and_iff_right begun).symm
    rw [mostAtOnce, inFlightThen]
    refine Nat.max_le.mpr ⟨begins.1.2, inductionHypothesis (fun other member => lasts other ?_) ?_⟩
    · simp only [List.mem_append, List.mem_cons] at member ⊢
      tauto
    · rwa [List.reverse_cons, List.append_assoc, List.singleton_append]

theorem mostAtOnce_occupations (positive : 0 < permits) :
    mostAtOnce [] (occupations permits call items state) ≤ permits := by
  have schedules := schedules_planned call items state positive
  obtain ⟨behind, split, -⟩ := occupations_attempt permits call items state
  refine mostAtOnce_le (fun occupation => start_le_finish _ _ _ _ occupation) ?_
  have follows := schedules.isListSchedule
  rw [planned, split, List.map_append, List.map_map] at follows
  exact follows.left

end Following

/-- Calls made with permits follow the list schedule of what they take, made in the order of the
items. No more of them are in flight than there are permits. If all succeed the schedule is followed
to its end, and otherwise up to its first failure. -/
theorem bounded_follows {permits : Nat} (positive : 0 < permits) (call : ι → Call σ ε α)
    (items : List ι) (state : σ) :
    ∃ spans, Schedules permits (servedInOrder call items state) spans ∧
      (∀ others, Schedules permits (servedInOrder call items state) others → others = spans) ∧
      (∀ instant, inFlight instant spans ≤ permits) ∧
      mostAtOnce [] (occupations permits call items state) ≤ permits ∧
      ((∀ served ∈ servedInOrder call items state, ∃ value, served.outcome = .ok value) →
        Completes permits (servedInOrder call items state) spans
          (bounded permits call items state)) ∧
      ((∃ served ∈ servedInOrder call items state, ∃ cause, served.outcome = .error cause) →
        Stops (servedInOrder call items state) spans (bounded permits call items state)) := by
  have schedules := schedules_planned call items state positive
  have unique {others : List Span}
      (other : Schedules permits (servedInOrder call items state) others) :
      others = planned permits call items state :=
    other.isListSchedule.unique schedules.isListSchedule
      (other.durations.trans schedules.durations.symm)
  refine ⟨_, schedules, fun others => unique, schedules.isListSchedule.inFlight_le,
    mostAtOnce_occupations positive, fun succeed => ?_, stops_of_failing positive⟩
  rw [← unique (schedules_occupations positive succeed)]
  exact completes_of_succeed positive succeed

/-- Work that takes as long as it says, fails if it is told to, and is noted. -/
def working (item : Nat × Bool) : Call (List Nat) String Nat :=
  fun noted => ⟨noted ++ [item.1], item.1, if item.2 then .ok item.1 else .error "failed"⟩

theorem working_follows :
    (bounded 2 working [(3, true), (1, true), (2, true), (4, true)] []).time = 7 ∧
    (∃ spans, Schedules 2 (servedInOrder working [(3, true), (1, true), (2, true), (4, true)] [])
        spans ∧
      Completes 2 (servedInOrder working [(3, true), (1, true), (2, true), (4, true)] []) spans
        (bounded 2 working [(3, true), (1, true), (2, true), (4, true)] [])) ∧
    (bounded 2 working [(9, false), (1, true), (2, false), (4, true)] []).time = 3 ∧
    ∃ spans, Schedules 2 (servedInOrder working [(9, false), (1, true), (2, false), (4, true)] [])
        spans ∧
      Stops (servedInOrder working [(9, false), (1, true), (2, false), (4, true)] []) spans
        (bounded 2 working [(9, false), (1, true), (2, false), (4, true)] []) := by
  obtain ⟨spans, schedules, -, -, -, completes, -⟩ :=
    bounded_follows (by decide : 0 < 2) working [(3, true), (1, true), (2, true), (4, true)] []
  obtain ⟨others, otherSchedules, -, -, -, -, stops⟩ :=
    bounded_follows (by decide : 0 < 2) working [(9, false), (1, true), (2, false), (4, true)] []
  refine ⟨by decide, ⟨spans, schedules, completes fun served member => ?_⟩, by decide,
    others, otherSchedules, stops ⟨_, List.mem_cons_self, "failed", rfl⟩⟩
  simp only [servedInOrder, List.mem_cons, List.not_mem_nil, or_false] at member
  rcases member with rfl | rfl | rfl | rfl <;> exact ⟨_, rfl⟩

/-! ### Calls that are known to succeed -/

section Known

variable {ν : Type} {invariant : List ν → σ → Prop} {call : ι → Call σ ε α} {value : ι → α}
  {note : ι → List ν} {items : List ι}

end Known

end Run

end UserDirectory
