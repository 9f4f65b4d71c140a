/-
This file proves that calls made with permits are scheduled by their durations.
What each call does and how long it takes does not depend on when it is made: the
calls are made in the order of the items, each against the state that the one
before left. So there is one schedule to follow, and as long as no call fails it is
followed to its end.

A failure cuts the schedule short. What it would have been is told by calls that
report a failure as if it were a value. Whatever is cut off would have begun no
earlier than some failure happened.
-/

import UserDirectory.Proofs.Concurrent.Clock
import UserDirectory.Proofs.Concurrent.ListSchedule

namespace UserDirectory

variable {σ ε α ι : Type}

/-! ### Calls in the order of their items -/

/-- What comes of calls that are made for items one after the other, whether they fail or not. -/
def servedInOrder (call : ι → Call σ ε α) : List ι → σ → List (Served σ ε α)
  | [], _ => []
  | item :: rest, state =>
    (call item).run state :: servedInOrder call rest ((call item).run state).state

/-- A call that reports a failure as if it were a value. -/
def Call.attempt (call : Call σ ε α) : Call σ ε (Except ε α) :=
  fun state => ⟨(call.run state).state, (call.run state).took, .ok (call.run state).outcome⟩

def Served.attempt (served : Served σ ε α) : Served σ ε (Except ε α) :=
  ⟨served.state, served.took, .ok served.outcome⟩

theorem servedInOrder_attempt (call : ι → Call σ ε α) (items : List ι) (state : σ) :
    servedInOrder (fun item => (call item).attempt) items state =
      (servedInOrder call items state).map Served.attempt := by
  induction items generalizing state with
  | nil => rfl
  | cons item rest inductionHypothesis =>
    rw [servedInOrder, servedInOrder, List.map_cons, ← inductionHypothesis]
    rfl

namespace Run

/-! ### Permits that are handed on -/

theorem perm_release (permit : Permit) (free : List Permit) :
    (release permit free).Perm (permit :: free) := by
  induction free with
  | nil => exact List.Perm.refl _
  | cons first rest inductionHypothesis =>
    rw [release]
    split
    · exact List.Perm.refl _
    · exact (inductionHypothesis.cons first).trans (List.Perm.swap permit first rest)

theorem forall_mem_release {permit : Permit} {free : List Permit} {property : Permit → Prop} :
    (∀ other ∈ release permit free, property other) ↔
      property permit ∧ ∀ other ∈ free, property other := by
  simp only [mem_release, forall_eq_or_imp]

/-- Permits stand in the order in which they are free. -/
def InOrder (free : List Permit) : Prop :=
  free.Pairwise fun first second => first.cue.instant ≤ second.cue.instant

theorem InOrder.release {free : List Permit} (inOrder : InOrder free) (permit : Permit) :
    InOrder (release permit free) := by
  induction free with
  | nil => exact List.pairwise_singleton _ _
  | cons first rest inductionHypothesis =>
    obtain ⟨least, restInOrder⟩ := List.pairwise_cons.mp inOrder
    rw [Run.release]
    split
    · rename_i before
      refine List.pairwise_cons.mpr ⟨fun other member => ?_, inOrder⟩
      rcases List.mem_cons.mp member with rfl | inRest
      · exact Nat.le_of_lt before
      · exact Nat.le_trans (Nat.le_of_lt before) (least other inRest)
    · rename_i notBefore
      refine List.pairwise_cons.mpr ⟨?_, inductionHypothesis restInOrder⟩
      exact forall_mem_release.mpr ⟨Nat.le_of_not_lt notBefore, least⟩

/-- A permit that is handed on, whatever freed it. -/
def Permit.handedOn (permit : Permit) : Permit :=
  ⟨permit.cue, false⟩

theorem map_handedOn_release (permit : Permit) (free : List Permit) :
    (release permit free).map Permit.handedOn =
      release permit.handedOn (free.map Permit.handedOn) := by
  induction free with
  | nil => rfl
  | cons first rest inductionHypothesis =>
    rw [release, List.map_cons, release]
    by_cases before : permit.cue.instant < first.cue.instant
    · rw [if_pos before]
      exact (if_pos before).symm
    · rw [if_neg before, List.map_cons, inductionHypothesis]
      exact (if_neg before).symm

/-! ### Calls under permits -/

/-- A call that is made on a cue. -/
def occupy (call : Call σ ε α) (cue : Cue) (state : σ) : Occupation σ ε α :=
  ⟨cue, cue.instant + (call.run state).took, (call.run state).state, (call.run state).outcome⟩

def Occupation.span (occupation : Occupation σ ε α) : Span :=
  ⟨occupation.start, occupation.finish - occupation.start⟩

def Occupation.served (occupation : Occupation σ ε α) : Served σ ε α :=
  ⟨occupation.state, occupation.finish - occupation.start, occupation.outcome⟩

def Occupation.attempt (occupation : Occupation σ ε α) : Occupation σ ε (Except ε α) :=
  ⟨occupation.cue, occupation.finish, occupation.state, .ok occupation.outcome⟩

section Occupying

variable {call : ι → Call σ ε α} {item : ι} {items : List ι} {permit : Permit}
  {free others : List Permit} {state : σ}

theorem span_occupy (call : Call σ ε α) (cue : Cue) (state : σ) :
    (occupy call cue state).span = ⟨cue.instant, (call.run state).took⟩ :=
  congrArg (Span.mk cue.instant) (Nat.add_sub_cancel_left _ _)

theorem served_occupy (call : Call σ ε α) (cue : Cue) (state : σ) :
    (occupy call cue state).served = call.run state :=
  congrArg (Served.mk _ · _) (Nat.add_sub_cancel_left _ _)

theorem isLast_permit_of_ok {call : Call σ ε α} {value : α}
    (outcome : (call.run state).outcome = .ok value) (cue : Cue) :
    (occupy call cue state).permit.isLast = false := by
  rw [Occupation.permit, occupy]
  simp only [outcome]

theorem schedule_of_handedOn (handedOn : permit.isLast = false) :
    schedule call (item :: items) (permit :: others) state =
      occupy (call item) permit.cue state ::
        schedule call items (release (occupy (call item) permit.cue state).permit others)
          ((call item).run state).state := by
  rw [schedule, if_neg (by rw [handedOn]; exact Bool.false_ne_true)]
  rfl

/-- As long as no call fails, every item gets its call, in their order. -/
theorem map_served_schedule (someFree : free ≠ [])
    (handedOn : ∀ permit ∈ free, permit.isLast = false)
    (succeed : ∀ served ∈ servedInOrder call items state, ∃ value, served.outcome = .ok value) :
    (schedule call items free state).map Occupation.served = servedInOrder call items state := by
  induction items generalizing free state with
  | nil => rfl
  | cons item rest inductionHypothesis =>
    obtain ⟨permit, others, rfl⟩ := List.exists_cons_of_ne_nil someFree
    rw [List.forall_mem_cons] at handedOn
    rw [servedInOrder, List.forall_mem_cons] at succeed
    obtain ⟨⟨value, outcome⟩, later⟩ := succeed
    rw [schedule_of_handedOn handedOn.1, List.map_cons, served_occupy, servedInOrder]
    refine congrArg ((call item).run state :: ·) (inductionHypothesis ?_ ?_ later)
    · exact List.ne_nil_of_mem (mem_release.mpr (Or.inl rfl))
    · exact forall_mem_release.mpr ⟨isLast_permit_of_ok outcome permit.cue, handedOn.2⟩

/-- What is scheduled after some spans goes on with their list schedule. -/
theorem schedule_follows {permits : Nat} (positive : 0 < permits)
    (handedOn : ∀ permit ∈ free, permit.isLast = false) (inOrder : InOrder free)
    (succeed : ∀ served ∈ servedInOrder call items state, ∃ value, served.outcome = .ok value)
    (before : List Span) (followed : IsListSchedule permits before)
    (tracks : Tracks permits before (free.map (·.cue.instant))) :
    IsListSchedule permits (before ++ (schedule call items free state).map Occupation.span) ∧
      ∃ instants,
        Tracks permits (before ++ (schedule call items free state).map Occupation.span)
          instants := by
  -- The permits track what has begun so far, so the next call begins at the least instant it can.
  induction items generalizing free state before with
  | nil =>
    simp only [schedule, List.map_nil, List.append_nil]
    exact ⟨followed, _, tracks⟩
  | cons item rest inductionHypothesis =>
    have someFree : free ≠ [] := by
      rintro rfl
      exact absurd tracks.length (Nat.ne_of_lt positive)
    obtain ⟨permit, others, rfl⟩ := List.exists_cons_of_ne_nil someFree
    rw [List.forall_mem_cons] at handedOn
    rw [servedInOrder, List.forall_mem_cons] at succeed
    obtain ⟨⟨value, outcome⟩, later⟩ := succeed
    obtain ⟨least, othersInOrder⟩ := List.pairwise_cons.mp inOrder
    have leastInstant : ∀ instant ∈ others.map (·.cue.instant), permit.cue.instant ≤ instant := by
      intro instant member
      obtain ⟨other, inOthers, rfl⟩ := List.mem_map.mp member
      exact least other inOthers
    rw [List.map_cons] at tracks
    have released := (perm_release (occupy (call item) permit.cue state).permit others).map
      (·.cue.instant)
    have goesOn := inductionHypothesis
      (forall_mem_release.mpr ⟨isLast_permit_of_ok outcome permit.cue, handedOn.2⟩)
      (InOrder.release othersInOrder _) later
      (before ++ [⟨permit.cue.instant, ((call item).run state).took⟩])
      (isListSchedule_concat.mpr ⟨followed, tracks.isLeast_first leastInstant⟩)
      (tracks.take leastInstant _ released)
    rwa [List.append_assoc, List.singleton_append, ← span_occupy, ← List.map_cons,
      ← schedule_of_handedOn handedOn.1] at goesOn

/-- No call begins before the permits are free. -/
theorem le_start_of_schedule {bound : Nat} (early : ∀ permit ∈ free, bound ≤ permit.cue.instant) :
    ∀ occupation ∈ schedule call items free state, bound ≤ occupation.start := by
  induction items generalizing free state with
  | nil => exact fun _ member => absurd member List.not_mem_nil
  | cons item rest inductionHypothesis =>
    cases free with
    | nil => exact fun _ member => absurd member List.not_mem_nil
    | cons permit others =>
      rw [List.forall_mem_cons] at early
      rw [schedule, List.forall_mem_cons]
      refine ⟨early.1, fun occupation member => ?_⟩
      split at member
      · cases member
      · refine inductionHypothesis (forall_mem_release.mpr ⟨?_, early.2⟩) occupation member
        exact Nat.le_trans early.1 (Nat.le_add_right _ _)

/-! ### Where a failure cuts the schedule -/

/-- A call fails when it ends with a failure. -/
def Occupation.Fails (occupation : Occupation σ ε α) : Prop :=
  ∃ failure, occupation.outcome = .error failure

theorem fails_of_isLast {occupation : Occupation σ ε α}
    (isLast : occupation.permit.isLast = true) : occupation.Fails := by
  cases outcome : occupation.outcome with
  | ok value => simp [Occupation.permit, outcome] at isLast
  | error failure => exact ⟨failure, outcome⟩

/-- Calls that report failures as if they were values are scheduled like the calls themselves, and
go on where a failure cuts these short. What is cut off begins when a permit is free that a failure
has freed, or later. -/
theorem schedule_attempt (call : ι → Call σ ε α) (items : List ι) (state : σ)
    (inOrder : InOrder free) :
    ∃ behind, schedule (fun item => (call item).attempt) items (free.map Permit.handedOn) state =
        (schedule call items free state).map Occupation.attempt ++ behind ∧
      ∀ late ∈ behind,
        (∃ permit ∈ free, permit.isLast = true ∧ permit.cue.instant ≤ late.start) ∨
        ∃ occupation ∈ schedule call items free state,
          occupation.Fails ∧ occupation.finish ≤ late.start := by
  induction items generalizing free state with
  | nil => exact ⟨[], rfl, fun _ member => absurd member List.not_mem_nil⟩
  | cons item rest inductionHypothesis =>
    cases free with
    | nil => exact ⟨[], rfl, fun _ member => absurd member List.not_mem_nil⟩
    | cons permit others =>
      obtain ⟨least, othersInOrder⟩ := List.pairwise_cons.mp inOrder
      have whole : schedule (fun item => (call item).attempt) (item :: rest)
          (permit.handedOn :: others.map Permit.handedOn) state = _ := schedule_of_handedOn rfl
      have released : release (occupy (call item).attempt permit.cue state).permit
          (others.map Permit.handedOn) =
            (release (occupy (call item) permit.cue state).permit others).map
              Permit.handedOn := by
        rw [map_handedOn_release]
        rfl
      rw [List.map_cons, whole]
      cases last : permit.isLast with
      | true =>
        have cut : schedule call (item :: rest) (permit :: others) state =
            [occupy (call item) permit.cue state] := by
          rw [schedule, if_pos last]
          rfl
        rw [cut]
        refine ⟨_, rfl, fun late member => Or.inl ⟨permit, List.mem_cons_self, last, ?_⟩⟩
        refine le_start_of_schedule (forall_mem_release.mpr ⟨Nat.le_add_right _ _, ?_⟩) late member
        intro other isFree
        obtain ⟨origin, inOthers, rfl⟩ := List.mem_map.mp isFree
        exact least origin inOthers
      | false =>
        rw [schedule_of_handedOn last]
        obtain ⟨behind, split, cutOff⟩ := inductionHypothesis ((call item).run state).state
          (InOrder.release othersInOrder (occupy (call item) permit.cue state).permit)
        refine ⟨behind, ?_, fun late member => ?_⟩
        · rw [List.map_cons, List.cons_append, ← split, ← released]
          rfl
        · rcases cutOff late member with ⟨other, isFree, otherLast, before⟩ | ⟨found, isMade, fails⟩
          · rcases mem_release.mp isFree with rfl | inOthers
            · exact Or.inr ⟨_, List.mem_cons_self, fails_of_isLast otherLast, before⟩
            · exact Or.inl ⟨other, List.mem_cons_of_mem _ inOthers, otherLast, before⟩
          · exact Or.inr ⟨found, List.mem_cons_of_mem _ isMade, fails⟩

end Occupying

end Run

end UserDirectory
