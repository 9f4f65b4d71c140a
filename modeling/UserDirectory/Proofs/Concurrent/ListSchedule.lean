/-
This file says what a list schedule is, without saying how one is made. Work is
taken up in the order of a list, with a number of permits. Each piece of it begins
at the least instant at which all earlier ones have begun and fewer of them are in
flight than there are permits. There is one such schedule only.

Whoever hands out permits keeps the instants at which each of them is free again.
As every permit is taken at just that instant, no time passes between two pieces of
work under one permit, and the instants add up to all the work there was. They lie
no further apart than the longest piece, so the last of them is known up to that.
-/

import Mathlib.Algebra.Order.BigOperators.Group.List
import Mathlib.Algebra.Order.Floor.Div
import Mathlib.Order.Bounds.Basic
import UserDirectory.Proofs.Concurrent.Gathering

namespace UserDirectory

/-! ### The latest of some instants -/

namespace Gather

theorem latest_le {instants : List Nat} {bound : Nat}
    (each : ∀ instant ∈ instants, instant ≤ bound) : latest instants ≤ bound := by
  rcases latest_mem instants with zero | member
  · exact zero ▸ Nat.zero_le bound
  · exact each _ member

theorem latest_of_perm {instants others : List Nat} (perm : instants.Perm others) :
    latest instants = latest others :=
  Nat.le_antisymm (latest_le fun _ member => le_latest (perm.mem_iff.mp member))
    (latest_le fun _ member => le_latest (perm.mem_iff.mpr member))

theorem latest_concat (instants : List Nat) (last : Nat) :
    latest (instants ++ [last]) = max last (latest instants) :=
  latest_of_perm (List.perm_append_singleton last instants)

end Gather

/-! ### List schedules -/

/-- When a piece of work begins and how long it takes. -/
structure Span where
  start : Nat
  duration : Nat
deriving DecidableEq

def Span.finish (span : Span) : Nat :=
  span.start + span.duration

/-- How many pieces of work are in flight at an instant. -/
def inFlight (instant : Nat) (spans : List Span) : Nat :=
  spans.countP fun span => span.start ≤ instant ∧ instant < span.finish

/-- The instants at which one more piece of work can begin: all earlier ones have begun, and a
permit is free. -/
def opportunities (permits : Nat) (before : List Span) : Set Nat :=
  {instant | (∀ span ∈ before, span.start ≤ instant) ∧ inFlight instant before < permits}

/-- Work is scheduled in the order of a list if each piece of it begins as soon as it can. -/
def IsListSchedule (permits : Nat) (spans : List Span) : Prop :=
  ∀ before span behind, spans = before ++ span :: behind →
    IsLeast (opportunities permits before) span.start

section Schedules

variable {permits : Nat} {spans before : List Span} {span : Span}

theorem isListSchedule_nil : IsListSchedule permits [] := by
  intro before span behind split
  cases before <;> cases split

theorem IsListSchedule.left {behind : List Span}
    (schedule : IsListSchedule permits (before ++ behind)) : IsListSchedule permits before := by
  intro first span rest split
  refine schedule first span (rest ++ behind) ?_
  rw [split, List.append_assoc, List.cons_append]

theorem isListSchedule_concat :
    IsListSchedule permits (before ++ [span]) ↔
      IsListSchedule permits before ∧ IsLeast (opportunities permits before) span.start := by
  constructor
  · intro schedule
    exact ⟨schedule.left, schedule before span [] rfl⟩
  · rintro ⟨schedule, least⟩ first other behind split
    rcases List.eq_nil_or_concat behind with rfl | ⟨rest, last, rfl⟩
    · obtain ⟨rfl, same⟩ := List.append_inj' split rfl
      cases same
      exact least
    · rw [List.concat_eq_append, ← List.cons_append, ← List.append_assoc] at split
      exact schedule first other rest (List.append_inj_left' split rfl)

/-- Durations have one list schedule only. -/
theorem IsListSchedule.unique {others : List Span} (schedule : IsListSchedule permits spans)
    (otherSchedule : IsListSchedule permits others)
    (same : spans.map Span.duration = others.map Span.duration) : spans = others := by
  induction spans using List.reverseRecOn generalizing others with
  | nil => exact (List.map_eq_nil_iff.mp same.symm).symm
  | append_singleton spans span inductionHypothesis =>
    rcases List.eq_nil_or_concat others with rfl | ⟨rest, last, rfl⟩
    · simp at same
    · rw [List.concat_eq_append] at otherSchedule same ⊢
      rw [List.map_append, List.map_append] at same
      obtain ⟨sameBefore, sameLast⟩ := List.append_inj' same rfl
      obtain ⟨schedule, least⟩ := isListSchedule_concat.mp schedule
      obtain ⟨otherSchedule, otherLeast⟩ := isListSchedule_concat.mp otherSchedule
      obtain rfl := inductionHypothesis schedule otherSchedule sameBefore
      obtain ⟨start, duration⟩ := span
      obtain ⟨otherStart, otherDuration⟩ := last
      cases least.unique otherLeast
      cases sameLast
      rfl

theorem inFlight_concat (instant : Nat) (spans : List Span) (span : Span) :
    inFlight instant (spans ++ [span]) = inFlight instant spans +
      if span.start ≤ instant ∧ instant < span.finish then 1 else 0 := by
  simp [inFlight, List.countP_append, List.countP_cons]

/-- When everything has begun, work that is still in flight has been so for a while. -/
theorem inFlight_anti {earlier later : Nat} (order : earlier ≤ later)
    (begun : ∀ span ∈ spans, span.start ≤ earlier) :
    inFlight later spans ≤ inFlight earlier spans := by
  refine List.countP_mono_left fun span member covers => ?_
  simp only [decide_eq_true_eq] at covers ⊢
  exact ⟨begun span member, Nat.lt_of_le_of_lt order covers.2⟩

/-- At no instant more work is in flight than there are permits. -/
theorem IsListSchedule.inFlight_le (schedule : IsListSchedule permits spans) (instant : Nat) :
    inFlight instant spans ≤ permits := by
  induction spans using List.reverseRecOn with
  | nil => exact Nat.zero_le permits
  | append_singleton before span inductionHypothesis =>
    obtain ⟨schedule, ⟨begun, free⟩, _⟩ := isListSchedule_concat.mp schedule
    rw [inFlight_concat]
    split
    · rename_i covers
      have fewer := inFlight_anti covers.1 begun
      omega
    · exact inductionHypothesis schedule

end Schedules

/-! ### Permits -/

/-- The instants at which permits are free again say all about the work that has begun. -/
structure Tracks (permits : Nat) (spans : List Span) (instants : List Nat) : Prop where
  length : instants.length = permits
  begun : ∀ span ∈ spans, ∀ instant ∈ instants, span.start ≤ instant
  /-- When everything has begun, work in flight is told by the permits that are not free. -/
  taken : ∀ now, (∀ span ∈ spans, span.start ≤ now) →
    inFlight now spans = instants.countP fun instant => now < instant
  /-- No time is lost between two pieces of work under one permit. -/
  total : instants.sum = (spans.map Span.duration).sum
  spread : ∀ instant ∈ instants, ∀ other ∈ instants,
    instant ≤ other + Gather.latest (spans.map Span.duration)
  last : Gather.latest instants = Gather.latest (spans.map Span.finish)
  multiple : ∀ duration, (∀ span ∈ spans, span.duration = duration) →
    ∀ instant ∈ instants, duration ∣ instant

theorem tracks_replicate (permits : Nat) : Tracks permits [] (List.replicate permits 0) where
  length := List.length_replicate
  begun := fun _ member => absurd member List.not_mem_nil
  taken := fun now _ => by simp [inFlight, List.countP_replicate]
  total := by simp
  spread := fun instant member _ _ => by simp [List.eq_of_mem_replicate member]
  last := Nat.le_zero.mp
    (Gather.latest_le fun instant member => Nat.le_of_eq (List.eq_of_mem_replicate member))
  multiple := fun duration _ instant member => by
    rw [List.eq_of_mem_replicate member]
    exact Nat.dvd_zero duration

namespace Tracks

variable {permits first : Nat} {spans : List Span} {others instants : List Nat}

/-- The first permit that is free is taken at the least instant at which work can begin. -/
theorem isLeast_first (tracks : Tracks permits spans (first :: others))
    (least : ∀ other ∈ others, first ≤ other) :
    IsLeast (opportunities permits spans) first := by
  have length := tracks.length
  rw [List.length_cons] at length
  refine ⟨⟨fun span member => tracks.begun span member first List.mem_cons_self, ?_⟩, ?_⟩
  · rw [tracks.taken first fun span member => tracks.begun span member first List.mem_cons_self,
      List.countP_cons_of_neg (by simp)]
    have within :=
      List.countP_le_length (p := fun instant => decide (first < instant)) (l := others)
    omega
  · rintro now ⟨begun, free⟩
    refine Nat.le_of_not_lt fun early => ?_
    -- Before the first permit is free all of them are taken.
    have all : (first :: others).countP (fun instant => now < instant) =
        (first :: others).length := by
      rw [List.countP_eq_length, List.forall_mem_cons]
      refine ⟨decide_eq_true early, fun other member => decide_eq_true ?_⟩
      exact Nat.lt_of_lt_of_le early (least other member)
    rw [tracks.taken now begun, all, tracks.length] at free
    exact Nat.lt_irrefl permits free

/-- A permit that is taken when it is free is free again when the work is done. -/
theorem take (tracks : Tracks permits spans (first :: others))
    (least : ∀ other ∈ others, first ≤ other) (duration : Nat)
    (perm : instants.Perm ((first + duration) :: others)) :
    Tracks permits (spans ++ [⟨first, duration⟩]) instants := by
  have member {instant : Nat} :
      instant ∈ instants ↔ instant = first + duration ∨ instant ∈ others := by
    rw [perm.mem_iff, List.mem_cons]
  have notBefore {instant : Nat} (isMember : instant ∈ instants) : first ≤ instant := by
    rcases member.mp isMember with rfl | inOthers
    · exact Nat.le_add_right first duration
    · exact least instant inOthers
  have longer : max duration (Gather.latest (spans.map Span.duration)) =
      Gather.latest ((spans ++ [(⟨first, duration⟩ : Span)]).map Span.duration) := by
    rw [List.map_append, List.map_singleton, Gather.latest_concat]
  refine ⟨?_, ?_, fun now begun => ?_, ?_, fun instant inInstants other inOthers => ?_, ?_, ?_⟩
  · rw [perm.length_eq, ← tracks.length]
    rfl
  · intro span inSpans instant inInstants
    rcases List.mem_append.mp inSpans with earlier | isLast
    · exact Nat.le_trans (tracks.begun span earlier first List.mem_cons_self)
        (notBefore inInstants)
    · rw [List.mem_singleton.mp isLast]
      exact notBefore inInstants
  · rw [List.forall_mem_append, List.forall_mem_singleton] at begun
    have taken := tracks.taken now begun.1
    rw [List.countP_cons_of_neg (by simpa using begun.2)] at taken
    rw [inFlight_concat, taken, perm.countP_eq, List.countP_cons]
    simp only [Span.finish, begun.2, true_and, decide_eq_true_eq]
  · have total := tracks.total
    rw [List.sum_cons] at total
    rw [perm.sum_eq, List.sum_cons, List.map_append, List.sum_append, ← total, List.map_singleton,
      List.sum_singleton]
    show first + duration + others.sum = first + others.sum + duration
    omega
  · rw [← longer]
    have early := notBefore inOthers
    rcases member.mp inInstants with rfl | inRest
    · exact Nat.add_le_add early (Nat.le_max_left _ _)
    · have apart := tracks.spread instant (List.mem_cons_of_mem _ inRest) first List.mem_cons_self
      omega
  · have last := tracks.last
    rw [Gather.latest, List.foldr_cons] at last
    rw [Gather.latest_of_perm perm, List.map_append, List.map_singleton, Gather.latest_concat,
      ← last, Gather.latest, List.foldr_cons]
    simp only [Span.finish]
    omega
  · intro same each
    rw [List.forall_mem_append, List.forall_mem_singleton] at each
    intro instant inInstants
    have multiple := tracks.multiple same each.1
    rcases member.mp inInstants with rfl | inOthers
    · exact Nat.dvd_add (multiple first List.mem_cons_self) (dvd_of_eq each.2.symm)
    · exact multiple instant (List.mem_cons_of_mem _ inOthers)

/-! ### When the last permit is free -/

theorem sum_le (tracks : Tracks permits spans instants) :
    (spans.map Span.duration).sum ≤ permits * Gather.latest (spans.map Span.finish) := by
  rw [← tracks.total, ← tracks.last, ← tracks.length, ← smul_eq_mul]
  exact List.sum_le_card_nsmul _ _ fun _ member => Gather.le_latest member

/-- The permits are free within the longest duration of each other, so not much time is lost. -/
theorem le_sum (tracks : Tracks permits spans instants) :
    permits * Gather.latest (spans.map Span.finish) ≤
      (spans.map Span.duration).sum +
        (permits - 1) * Gather.latest (spans.map Span.duration) := by
  rw [← tracks.total, ← tracks.last]
  rcases Gather.latest_mem instants with zero | member
  · rw [zero, Nat.mul_zero]
    exact Nat.zero_le _
  · have others : ∀ other ∈ instants.erase (Gather.latest instants),
        Gather.latest instants - Gather.latest (spans.map Span.duration) ≤ other := by
      intro other inOthers
      have apart := tracks.spread _ member other (List.mem_of_mem_erase inOthers)
      omega
    have bound := List.card_nsmul_le_sum _ _ others
    have total := (List.perm_cons_erase member).sum_eq
    rw [List.sum_cons] at total
    rw [smul_eq_mul, List.length_erase_of_mem member, tracks.length, Nat.mul_sub] at bound
    have positive : 0 < permits := tracks.length ▸ List.length_pos_of_mem member
    have once : permits * Gather.latest instants =
        (permits - 1) * Gather.latest instants + Gather.latest instants := by
      rw [← Nat.succ_mul, Nat.succ_eq_add_one, Nat.sub_add_cancel positive]
    omega

/-- Work of one duration fills the permits row by row. -/
theorem last_of_equal (tracks : Tracks permits spans instants) (positive : 0 < permits)
    {duration : Nat} (each : ∀ span ∈ spans, span.duration = duration) :
    Gather.latest (spans.map Span.finish) = (spans.length ⌈/⌉ permits) * duration := by
  have lower := tracks.sum_le
  have upper := tracks.le_sum
  have all : spans.map Span.duration = List.replicate spans.length duration :=
    List.eq_replicate_iff.mpr ⟨List.length_map _, fun taken member => by
      obtain ⟨span, inSpans, rfl⟩ := List.mem_map.mp member
      exact each span inSpans⟩
  have longest : Gather.latest (spans.map Span.duration) ≤ duration :=
    Gather.latest_le fun taken member => by
      obtain ⟨span, inSpans, rfl⟩ := List.mem_map.mp member
      exact Nat.le_of_eq (each span inSpans)
  have rows : duration ∣ Gather.latest (spans.map Span.finish) := by
    rw [← tracks.last]
    rcases Gather.latest_mem instants with zero | member
    · rw [zero]
      exact Nat.dvd_zero duration
    · exact tracks.multiple duration each _ member
  obtain ⟨count, equal⟩ := rows
  rw [all] at longest
  rw [all, List.sum_replicate, smul_eq_mul, equal] at lower upper
  rw [equal, Nat.mul_comm duration count]
  rcases Nat.eq_zero_or_pos duration with rfl | lasts
  · rfl
  · refine congrArg (· * duration) (Nat.le_antisymm ?_ ?_)
    · have enough : duration * (permits * count) ≤ duration * (spans.length + (permits - 1)) := by
        calc duration * (permits * count)
            = permits * (duration * count) := Nat.mul_left_comm _ _ _
          _ ≤ spans.length * duration + (permits - 1) * duration :=
            Nat.le_trans upper (Nat.add_le_add_left (Nat.mul_le_mul_left _ longest) _)
          _ = duration * (spans.length + (permits - 1)) := by
            rw [← Nat.add_mul, Nat.mul_comm]
      have few := Nat.le_of_mul_le_mul_left enough lasts
      rw [Nat.ceilDiv_eq_add_pred_div, Nat.le_div_iff_mul_le positive, Nat.mul_comm]
      omega
    · rw [ceilDiv_le_iff_le_mul positive]
      refine Nat.le_of_mul_le_mul_right ?_ lasts
      rwa [Nat.mul_assoc, Nat.mul_comm count duration]

end Tracks

end UserDirectory
