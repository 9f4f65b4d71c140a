/-
This file says when the calls of a search end. A search that succeeds has waited for
every call that it has made, so none of them goes on when it answers. Only a search
that fails may leave calls behind, for nothing stops a call once it has begun.
-/

import Mathlib.Algebra.Order.Ring.Unbundled.Rat
import UserDirectory.Proofs.Search.Timing

namespace UserDirectory

variable {σ τ ε α β : Type}

/-! ### Look-ups that succeed -/

/-- Two look-ups that succeed together have both succeeded by then. -/
theorem Awaited.both_eq_ok {first : Awaited ε α} {second : Awaited ε β} {values : α × β}
    (succeeds : (first.both second).outcome = .ok values) :
    first.outcome = .ok values.1 ∧ second.outcome = .ok values.2 ∧
      first.time ≤ (first.both second).time ∧ second.time ≤ (first.both second).time := by
  unfold both at succeeds ⊢
  split at succeeds
  · rename_i a b firstOk secondOk
    split at succeeds
    · rename_i earlier
      cases succeeds
      rw [if_pos earlier]
      exact ⟨firstOk, secondOk, earlier, le_refl _⟩
    · rename_i later
      cases succeeds
      rw [if_neg later]
      exact ⟨firstOk, secondOk, le_refl _, le_of_lt (not_le.mp later)⟩
  · cases succeeds
  · cases succeeds
  · split at succeeds
    · cases succeeds
    · cases succeeds

namespace Service

variable {service : Service}

/-- A look-up that its stage sees succeed has succeeded by itself, and at that time. -/
theorem await_eq_ok {dependency : Dependency} {run : Run σ Fault α} {value : α}
    (succeeds : (service.await dependency run).outcome = .ok value) :
    run.outcome = .ok value ∧ (service.await dependency run).time = run.time := by
  unfold await at succeeds ⊢
  split at succeeds
  · cases succeeds
  · rename_i inTime
    rw [if_neg inTime]
    exact ⟨mapError_eq_ok_iff.mp succeeds, rfl⟩

/-- The calls of a settled look-up have ended when the look-up has. -/
theorem le_of_mem_endsAfter {stage : Awaited SearchFailure β} {run : Run σ Fault α}
    (settled : run.Settled) {instant : Rat} (member : instant ∈ service.endsAfter stage run) :
    instant ≤ run.time := by
  obtain ⟨ended, among, rfl⟩ := List.mem_map.mp member
  exact Rat.natCast_le_natCast.mpr (settled.le_of_mem_endsWhile among)

/-- When a stage of two look-ups succeeds, all calls of both have ended. -/
theorem le_of_mem_bothEnds {one other : Dependency} {first : Run σ Fault α}
    {second : Run τ Fault β} {values : α × β}
    (succeeds : ((service.await one first).both (service.await other second)).outcome = .ok values)
    (firstSettled : first.outcome = .ok values.1 → first.Settled)
    (secondSettled : second.outcome = .ok values.2 → second.Settled) {instant : Rat}
    (member : instant ∈
      service.endsAfter ((service.await one first).both (service.await other second)) first ++
        service.endsAfter ((service.await one first).both (service.await other second)) second) :
    instant ≤ ((service.await one first).both (service.await other second)).time := by
  obtain ⟨firstOk, secondOk, firstTime, secondTime⟩ := Awaited.both_eq_ok succeeds
  obtain ⟨firstSucceeds, firstAlone⟩ := await_eq_ok firstOk
  obtain ⟨secondSucceeds, secondAlone⟩ := await_eq_ok secondOk
  rcases List.mem_append.mp member with inFirst | inSecond
  · rw [firstAlone] at firstTime
    exact (le_of_mem_endsAfter (firstSettled firstSucceeds) inFirst).trans firstTime
  · rw [secondAlone] at secondTime
    exact (le_of_mem_endsAfter (secondSettled secondSucceeds) inSecond).trans secondTime

/-- A stage of two look-ups that succeeds takes its time. -/
theorem bothTime_nonneg {one other : Dependency} {first : Run σ Fault α} {second : Run τ Fault β}
    {values : α × β} (succeeds :
      ((service.await one first).both (service.await other second)).outcome = .ok values) :
    0 ≤ ((service.await one first).both (service.await other second)).time := by
  obtain ⟨firstOk, _, firstTime, _⟩ := Awaited.both_eq_ok succeeds
  rw [(await_eq_ok firstOk).2] at firstTime
  exact (Rat.natCast_le_natCast.mpr (Nat.zero_le first.time)).trans firstTime

variable {criteria : Criteria} {session : Session} {backends : Backends}

theorem settled_indexRun (service : Service) (criteria : Criteria) (backends : Backends) :
    (service.indexRun criteria backends).Settled := by
  unfold indexRun IndexAccess.search
  split
  · exact Run.settled_single _ _
  · exact Run.settled_known _

/-! ### The search -/

theorem searchEnds_eq (on : service.isEnabled = true) :
    service.searchEnds criteria backends =
      service.endsAfter (service.pageStage criteria backends)
          (service.indexRun criteria backends) ++
        match (service.pageStage criteria backends).outcome with
        | .error _ => []
        | .ok page =>
          if page.logins.isEmpty then []
          else (service.lookUpEnds page.logins (service.afterPage criteria backends)).map
            ((service.pageStage criteria backends).time + ·) := by
  unfold searchEnds
  rw [if_pos on]
  rfl

/-- When the third stage succeeds, all its calls have ended. -/
theorem completeEnds_le {records : List Record}
    {told : List (String × Json) × List (String × Bool)}
    (succeeds : (service.recordStage records backends).outcome = .ok told) :
    ∀ instant ∈ service.completeEnds records backends,
      instant ≤ (service.recordStage records backends).time :=
  fun _ member => le_of_mem_bothEnds succeeds settled_tokenCounts
    (fun _ => settled_managedByUserId _ _ _ _) member

/-- When the second stage and the third succeed, all their calls have ended. -/
theorem lookUpEnds_le {logins : List String} {records : List Record}
    {groups : List (String × List Json)}
    (looked_up : (service.loginStage logins backends).outcome = .ok (records, groups))
    {told : List (String × Json) × List (String × Bool)}
    (succeeds : (service.recordStage records (service.afterLogins logins backends)).outcome =
      .ok told) :
    ∀ instant ∈ service.lookUpEnds logins backends,
      instant ≤ (service.loginStage logins backends).time +
        (service.recordStage records (service.afterLogins logins backends)).time := by
  have ends : service.lookUpEnds logins backends =
      service.endsAfter (service.loginStage logins backends)
          (service.lookUpLogins logins backends).1 ++
        service.endsAfter (service.loginStage logins backends)
          (service.lookUpLogins logins backends).2 ++
        (service.completeEnds records (service.afterLogins logins backends)).map
          ((service.loginStage logins backends).time + ·) := by
    rw [loginStage] at looked_up
    simp only [lookUpEnds, looked_up]
    rfl
  intro instant member
  rw [ends] at member
  rcases List.mem_append.mp member with inSecond | inThird
  · have ended := le_of_mem_bothEnds looked_up (fun _ => settled_usersByLogins _ _ _ _)
      settled_groupsByLogins inSecond
    exact ended.trans (le_add_of_nonneg_right (bothTime_nonneg succeeds))
  · obtain ⟨later, among, rfl⟩ := List.mem_map.mp inThird
    exact add_le_add_right (completeEnds_le succeeds later among) _

/-- When a search succeeds, all its calls have ended. -/
theorem searchEnds_le {response : SearchResponse}
    (searched : (service.search criteria session backends).2.outcome = .ok response) :
    ∀ instant ∈ service.searchEnds criteria backends,
      instant ≤ (service.search criteria session backends).2.time := by
  have first {page : IndexPage} (found : (service.pageStage criteria backends).outcome = .ok page)
      {instant : Rat} (member : instant ∈ service.endsAfter (service.pageStage criteria backends)
        (service.indexRun criteria backends)) :
      instant ≤ (service.pageStage criteria backends).time := by
    have alone : (service.pageStage criteria backends).time = _ := (await_eq_ok found).2
    rw [alone]
    exact le_of_mem_endsAfter (service.settled_indexRun criteria backends) member
  have goes := service.search_goes criteria session backends
  generalize service.search criteria session backends = result at goes searched
  cases goes with
  | disabled off =>
    intro instant member
    rw [searchEnds, off] at member
    cases member
  | pageFails on failed => cases searched
  | loginsFail on found some_found failed => cases searched
  | recordsFail on found some_found looked_up failed => cases searched
  | nothingFound on found empty =>
    intro instant member
    simp only [searchEnds_eq on, found, empty, List.isEmpty_nil, if_true, List.append_nil] at member
    exact first found member
  | @completes on page found some_found records groups looked_up tokenCounts managed told =>
    intro instant member
    simp only [searchEnds_eq on, found, List.isEmpty_iff, some_found, if_false] at member
    have later := lookUpEnds_le looked_up told
    rcases List.mem_append.mp member with inFirst | inLater
    · exact (first found inFirst).trans
        (le_add_of_nonneg_right (add_nonneg (bothTime_nonneg looked_up) (bothTime_nonneg told)))
    · obtain ⟨ended, among, rfl⟩ := List.mem_map.mp inLater
      exact add_le_add_right (later ended among) _

end Service

end UserDirectory
