/-
This file proves the law of the stages of a search under a finite deadline. The
index is asked first. Only if it finds somebody are records and groups looked up,
together, and only if both are there are tokens and managed users. A search in
which every look-up succeeds takes as long as the index, the longer look-up of the
second stage and the longer one of the third. Otherwise the first stage with a
failure ends the search: with the failure that comes first in it, at the instant
at which the stage began and that look-up fails alone. By then some calls of the
other look-up may have begun, but none begins later, and no later stage asks
anything of any store.

What a search answers if nothing fails is the full page: each login of the page that
has a record, in order, as the caller may see it, with what all look-ups have told.
-/

import UserDirectory.Proofs.Lookup.Reordering
import UserDirectory.Proofs.Search.Timing
import UserDirectory.Proofs.Search.Views
import UserDirectory.Proofs.Store.Ending

namespace UserDirectory

/-! ### Full pages -/

namespace Gathering

/-- A response is the full page of what was gathered: it tells which page it is, and shows each
login of the page that has a record to the caller. -/
structure Fills (gathering : Gathering) (criteria : Criteria) (session : Session)
    (resolver : Record → Except Fault String) (page : IndexPage) (response : SearchResponse) :
    Prop where
  paging : response.paging =
    { pageIndex := criteria.page, pageSize := criteria.pageSize, total := page.total }
  users : ∃ shown, ShowsLogins gathering.records page.logins shown ∧
    List.Forall₂ (gathering.Shows session resolver) shown response.users

variable {gathering : Gathering} {session : Session} {resolver : Record → Except Fault String}

theorem views_eq_ok_iff {logins : List String} {users : List UserView} :
    gathering.views session resolver logins = .ok users ↔
      ∃ shown, ShowsLogins gathering.records logins shown ∧
        List.Forall₂ (gathering.Shows session resolver) shown users := by
  have each : gathering.views session resolver logins = .ok users ↔
      List.Forall₂ (gathering.Shows session resolver) (orderByLogins gathering.records logins)
        users := by
    rw [views, mapM_eq_ok_iff, ← List.forall₂_eq_eq_eq, List.forall₂_map_left_iff,
      List.forall₂_map_right_iff]
    simp only [view_eq_ok_iff_shows]
  rw [each]
  constructor
  · exact fun shows => ⟨_, showsLogins_orderByLogins _ _, shows⟩
  · rintro ⟨shown, listed, shows⟩
    rwa [← listed.eq_orderByLogins]

theorem cause_of_views {logins : List String} {failure : SearchFailure}
    (failed : gathering.views session resolver logins = .error failure) :
    ∃ fault, failure = .assembly fault ∨
      failure = .dependency ⟨.avatarResolver, .failed fault⟩ := by
  rw [views] at failed
  generalize orderByLogins gathering.records logins = shown at failed
  induction shown with
  | nil => cases failed
  | cons record rest inductionHypothesis =>
    rw [List.mapM_cons] at failed
    rcases bind_eq_error_iff.mp failed with first | ⟨view, -, failed⟩
    · exact cause_of_view first
    · rcases bind_eq_error_iff.mp failed with later | ⟨views, -, shown⟩
      · exact inductionHypothesis later
      · cases shown

end Gathering

theorem Service.assemble_eq_ok_iff {service : Service} {criteria : Criteria} {session : Session}
    {page : IndexPage} {gathering : Gathering} {response : SearchResponse} :
    service.assemble criteria session page gathering = .ok response ↔
      gathering.Fills criteria session service.avatar page response := by
  rw [assemble, map_eq_ok_iff]
  constructor
  · rintro ⟨users, viewed, rfl⟩
    exact ⟨rfl, Gathering.views_eq_ok_iff.mp viewed⟩
  · rintro ⟨paging, users⟩
    refine ⟨response.users, Gathering.views_eq_ok_iff.mpr users, ?_⟩
    rw [Criteria.response, ← paging]

/-- A page that cannot be put together is the fault of what was gathered, or of the resolver of
avatars. -/
theorem Service.cause_of_assemble {service : Service} {criteria : Criteria} {session : Session}
    {page : IndexPage} {gathering : Gathering} {failure : SearchFailure}
    (failed : service.assemble criteria session page gathering = .error failure) :
    ∃ fault, failure = .assembly fault ∨
      failure = .dependency ⟨.avatarResolver, .failed fault⟩ := by
  rw [assemble] at failed
  cases viewed : gathering.views session service.avatar page.logins with
  | error cause =>
    rw [viewed] at failed
    cases failed
    exact Gathering.cause_of_views viewed
  | ok users =>
    rw [viewed] at failed
    cases failed

namespace Service

variable {service : Service} {limit : Rat} {criteria : Criteria} {session : Session}
  {backends : Backends}

/-! ### The look-ups alone, and the stores after them -/

/-- The look-up in the index alone. -/
def pageAlone (service : Service) (limit : Rat) (criteria : Criteria) (backends : Backends) :
    Timed Rat DependencyFailure IndexPage :=
  service.alone limit .userIndex (service.indexRun criteria backends)

/-- The look-up of records alone. -/
def usersAlone (service : Service) (limit : Rat) (logins : List String) (backends : Backends) :
    Timed Rat DependencyFailure (List Record) :=
  service.alone limit .userStore (service.lookUpLogins logins backends).1

/-- The look-up of groups alone. -/
def groupsAlone (service : Service) (limit : Rat) (logins : List String) (backends : Backends) :
    Timed Rat DependencyFailure (List (String × List Json)) :=
  service.alone limit .groupMemberships (service.lookUpLogins logins backends).2

/-- The look-up of tokens alone. -/
def tokensAlone (service : Service) (limit : Rat) (records : List Record) (backends : Backends) :
    Timed Rat DependencyFailure (List (String × Json)) :=
  service.alone limit .userTokens (service.lookUpRecords records backends).1

/-- The look-up of managed users alone. -/
def managedAlone (service : Service) (limit : Rat) (records : List Record) (backends : Backends) :
    Timed Rat DependencyFailure (List (String × Bool)) :=
  service.alone limit .managedInstance (service.lookUpRecords records backends).2

/-- The stores when the index has been asked. -/
def searched (service : Service) (criteria : Criteria) (backends : Backends) : Backends :=
  { backends with index := (service.indexRun criteria backends).finalState backends.index }

/-- The stores when all records and groups have been read. -/
def lookedUp (service : Service) (logins : List String) (backends : Backends) : Backends :=
  { backends with
    entries := (service.lookUpLogins logins backends).1.finalState backends.entries
    groups := (service.lookUpLogins logins backends).2.finalState backends.groups }

/-- The stores when all tokens have been counted and the integration has told. -/
def told (service : Service) (records : List Record) (backends : Backends) : Backends :=
  { backends with
    tokens := (service.lookUpRecords records backends).1.finalState backends.tokens
    entries :=
      ((service.lookUpRecords records backends).2.finalState ⟨backends.entries, []⟩).store }

/-- The second stage is cut at an instant, and no other store is touched. -/
structure LoginsCutAt (service : Service) (logins : List String) (backends : Backends)
    (instant : Rat) (left : Backends) : Prop where
  entries : (service.lookUpLogins logins backends).1.CutAt backends.entries instant left.entries
  groups : (service.lookUpLogins logins backends).2.CutAt backends.groups instant left.groups
  index : left.index = backends.index
  tokens : left.tokens = backends.tokens

/-- The third stage is cut at an instant, and no other store is touched. -/
structure RecordsCutAt (service : Service) (records : List Record) (backends : Backends)
    (instant : Rat) (left : Backends) : Prop where
  tokens : (service.lookUpRecords records backends).1.CutAt backends.tokens instant left.tokens
  entries : ∃ delegation, (service.lookUpRecords records backends).2.CutAt ⟨backends.entries, []⟩
    instant delegation ∧ left.entries = delegation.store
  index : left.index = backends.index
  groups : left.groups = backends.groups

/-! ### Searches without ties -/

/-- Neither of two look-ups would end at the very deadline, and they do not fail at the same
instant. -/
structure Apart {σ τ α β : Type} (service : Service) (limit : Rat) (one other : Dependency)
    (first : Run σ Fault α) (second : Run τ Fault β) : Prop where
  first_untied : (first.time : Rat) ≠ limit
  second_untied : (second.time : Rat) ≠ limit
  failures : FailApart (service.alone limit one first) (service.alone limit other second)

/-- No look-up that is reached would end at the very deadline, and no two of one stage fail at the
same instant. -/
structure Untied (service : Service) (limit : Rat) (criteria : Criteria) (backends : Backends) :
    Prop where
  page : ((service.indexRun criteria backends).time : Rat) ≠ limit
  logins : ∀ page second, (service.pageAlone limit criteria backends).outcome = .ok page →
    page.logins ≠ [] → second = service.searched criteria backends →
      service.Apart limit .userStore .groupMemberships
        (service.lookUpLogins page.logins second).1 (service.lookUpLogins page.logins second).2
  records : ∀ page second records groups third,
    (service.pageAlone limit criteria backends).outcome = .ok page →
    page.logins ≠ [] → second = service.searched criteria backends →
    (service.usersAlone limit page.logins second).outcome = .ok records →
    (service.groupsAlone limit page.logins second).outcome = .ok groups →
    third = service.lookedUp page.logins second →
      service.Apart limit .userTokens .managedInstance
        (service.lookUpRecords records third).1 (service.lookUpRecords records third).2

/-! ### The law -/

/-- The stores that a search leaves, when it ends and with what, told by what each of its look-ups
would do alone on the stores that its stage finds. -/
inductive Obeys (service : Service) (limit : Rat) (criteria : Criteria) (session : Session)
    (backends : Backends) : Backends × Timed Rat SearchFailure SearchResponse → Prop where
  | pageFails {failure : DependencyFailure}
    (failed : (service.pageAlone limit criteria backends).outcome = .error failure) :
    Obeys service limit criteria session backends (service.searched criteria backends,
      ⟨(service.pageAlone limit criteria backends).time, .error (.dependency failure)⟩)
  | nothingFound {page : IndexPage}
    (found : (service.pageAlone limit criteria backends).outcome = .ok page)
    (empty : page.logins = []) :
    Obeys service limit criteria session backends (service.searched criteria backends,
      ⟨(service.pageAlone limit criteria backends).time,
        .ok ⟨⟨criteria.page, criteria.pageSize, page.total⟩, []⟩⟩)
  | loginsFail {page : IndexPage}
    (found : (service.pageAlone limit criteria backends).outcome = .ok page)
    (some_found : page.logins ≠ []) {second left : Backends}
    (found_by : second = service.searched criteria backends)
    {instant : Rat} {failure : DependencyFailure}
    (failed : FailsFirst (service.usersAlone limit page.logins second)
      (service.groupsAlone limit page.logins second) instant failure)
    (ended : failure ≠ ⟨.groupMemberships, .failed .endless⟩)
    (cut : service.LoginsCutAt page.logins second instant left) :
    Obeys service limit criteria session backends (left,
      ⟨(service.pageAlone limit criteria backends).time + instant, .error (.dependency failure)⟩)
  | recordsFail {page : IndexPage}
    (found : (service.pageAlone limit criteria backends).outcome = .ok page)
    (some_found : page.logins ≠ []) {second third left : Backends}
    (found_by : second = service.searched criteria backends)
    {records : List Record} {groups : List (String × List Json)}
    (users_there : (service.usersAlone limit page.logins second).outcome = .ok records)
    (groups_there : (service.groupsAlone limit page.logins second).outcome = .ok groups)
    (found_next : third = service.lookedUp page.logins second)
    {instant : Rat} {failure : DependencyFailure}
    (failed : FailsFirst (service.tokensAlone limit records third)
      (service.managedAlone limit records third) instant failure)
    (ended : failure ≠ ⟨.userTokens, .failed .endless⟩)
    (cut : service.RecordsCutAt records third instant left) :
    Obeys service limit criteria session backends (left,
      ⟨(service.pageAlone limit criteria backends).time +
          max (service.usersAlone limit page.logins second).time
            (service.groupsAlone limit page.logins second).time + instant,
        .error (.dependency failure)⟩)
  | completes {page : IndexPage}
    (found : (service.pageAlone limit criteria backends).outcome = .ok page)
    (some_found : page.logins ≠ []) {second third : Backends}
    (found_by : second = service.searched criteria backends)
    {records : List Record} {groups : List (String × List Json)}
    (users_there : (service.usersAlone limit page.logins second).outcome = .ok records)
    (groups_there : (service.groupsAlone limit page.logins second).outcome = .ok groups)
    (found_next : third = service.lookedUp page.logins second)
    {tokenCounts : List (String × Json)} {managed : List (String × Bool)}
    (tokens_there : (service.tokensAlone limit records third).outcome = .ok tokenCounts)
    (managed_there : (service.managedAlone limit records third).outcome = .ok managed)
    {outcome : Except SearchFailure SearchResponse}
    (full : ∀ response, outcome = .ok response ↔
      Gathering.Fills ⟨records, groups, tokenCounts, managed⟩ criteria session service.avatar page
        response)
    (blamed : ∀ failure, outcome = .error failure → ∃ fault, failure = .assembly fault ∨
      failure = .dependency ⟨.avatarResolver, .failed fault⟩) :
    Obeys service limit criteria session backends (service.told records third,
      ⟨(service.pageAlone limit criteria backends).time +
          max (service.usersAlone limit page.logins second).time
            (service.groupsAlone limit page.logins second).time +
          max (service.tokensAlone limit records third).time
            (service.managedAlone limit records third).time,
        outcome⟩)

theorem afterPage_eq_searched (limited : service.deadline.limit = .after limit)
    (positive : 0 < limit) (criteria : Criteria) (backends : Backends) :
    service.afterPage criteria backends = service.searched criteria backends := by
  have all : ∀ entry ∈ (service.indexRun criteria backends).history, entry.1 = .direct := by
    unfold indexRun IndexAccess.search
    split
    · intro entry member
      rw [List.mem_singleton.mp member]
    · exact fun entry member => absurd member List.not_mem_nil
  have left : service.stateAfter (service.pageStage criteria backends)
      (service.indexRun criteria backends) backends.index =
        (service.indexRun criteria backends).finalState backends.index := by
    refine Run.stateWhile_eq_finalState (fun entry member => ?_) _
    rw [all entry member, Bool.and_eq_true, Deadline.lets, limited]
    refine ⟨decide_eq_true positive, ?_⟩
    unfold Awaited.lets Halt.lets
    split
    · rfl
    · split <;> rfl
  rw [afterPage, left]
  rfl

/-- A second stage that succeeds does what its look-ups do alone. -/
theorem lookedUp_of_loginStage (limited : service.deadline.limit = .after limit)
    (positive : 0 < limit) {logins : List String}
    (apart : service.Apart limit .userStore .groupMemberships
      (service.lookUpLogins logins backends).1 (service.lookUpLogins logins backends).2)
    {records : List Record} {groups : List (String × List Json)}
    (succeeds : (service.loginStage logins backends).outcome = .ok (records, groups)) :
    (service.usersAlone limit logins backends).outcome = .ok records ∧
      (service.groupsAlone limit logins backends).outcome = .ok groups ∧
      (service.loginStage logins backends).time =
        max (service.usersAlone limit logins backends).time
          (service.groupsAlone limit logins backends).time ∧
      service.afterLogins logins backends = service.lookedUp logins backends := by
  obtain ⟨users_there, groups_there, longer⟩ := both_of_ok
    (sees_await limited positive .userStore apart.first_untied)
    (sees_await limited positive .groupMemberships apart.second_untied) succeeds
  refine ⟨users_there, groups_there, longer, ?_⟩
  obtain ⟨_, usersEarly⟩ := alone_eq_ok apart.first_untied users_there
  obtain ⟨gathered, groupsEarly⟩ := alone_eq_ok apart.second_untied groups_there
  have usersSettled : (service.lookUpLogins logins backends).1.Settled :=
    settled_usersByLogins _ _ _ _
  have groupsSettled : (service.lookUpLogins logins backends).2.Settled :=
    settled_groupsByLogins gathered
  rw [afterLogins, lookedUp, stateAfter_of_ok limited succeeds usersSettled usersEarly,
    stateAfter_of_ok limited succeeds groupsSettled groupsEarly]

/-- A third stage that succeeds does what its look-ups do alone. -/
theorem told_of_recordStage (limited : service.deadline.limit = .after limit)
    (positive : 0 < limit) {records : List Record}
    (apart : service.Apart limit .userTokens .managedInstance
      (service.lookUpRecords records backends).1 (service.lookUpRecords records backends).2)
    {tokenCounts : List (String × Json)} {managed : List (String × Bool)}
    (succeeds : (service.recordStage records backends).outcome = .ok (tokenCounts, managed)) :
    (service.tokensAlone limit records backends).outcome = .ok tokenCounts ∧
      (service.managedAlone limit records backends).outcome = .ok managed ∧
      (service.recordStage records backends).time =
        max (service.tokensAlone limit records backends).time
          (service.managedAlone limit records backends).time ∧
      service.afterRecords records backends = service.told records backends := by
  obtain ⟨tokens_there, managed_there, longer⟩ := both_of_ok
    (sees_await limited positive .userTokens apart.first_untied)
    (sees_await limited positive .managedInstance apart.second_untied) succeeds
  refine ⟨tokens_there, managed_there, longer, ?_⟩
  obtain ⟨counted, tokensEarly⟩ := alone_eq_ok apart.first_untied tokens_there
  obtain ⟨_, managedEarly⟩ := alone_eq_ok apart.second_untied managed_there
  have tokensSettled : (service.lookUpRecords records backends).1.Settled :=
    settled_tokenCounts counted
  have managedSettled : (service.lookUpRecords records backends).2.Settled :=
    settled_managedByUserId _ _ _ _
  rw [afterRecords, told, stateAfter_of_ok limited succeeds tokensSettled tokensEarly,
    stateAfter_of_ok limited succeeds managedSettled managedEarly]

/-- A second stage that fails does so when and as the first of its look-ups does alone, and is cut
there. -/
theorem failsFirst_of_loginStage (limited : service.deadline.limit = .after limit)
    (positive : 0 < limit) {logins : List String}
    (apart : service.Apart limit .userStore .groupMemberships
      (service.lookUpLogins logins backends).1 (service.lookUpLogins logins backends).2)
    {failure : SearchFailure}
    (failed : (service.loginStage logins backends).outcome = .error failure) :
    ∃ cause, failure = .dependency cause ∧
      FailsFirst (service.usersAlone limit logins backends)
        (service.groupsAlone limit logins backends)
        (service.loginStage logins backends).time cause ∧
      service.LoginsCutAt logins backends (service.loginStage logins backends).time
        (service.afterLogins logins backends) := by
  have users := sees_await limited positive .userStore apart.first_untied
  have groups := sees_await limited positive .groupMemberships apart.second_untied
  obtain ⟨cause, named, first⟩ := both_of_error users groups apart.failures failed
  have clocked := Awaited.clocked_both users groups
  exact ⟨cause, named, first, cutAt_stateAfter limited clocked failed _ _,
    cutAt_stateAfter limited clocked failed _ _, rfl, rfl⟩

/-- A third stage that fails does so when and as the first of its look-ups does alone, and is cut
there. -/
theorem failsFirst_of_recordStage (limited : service.deadline.limit = .after limit)
    (positive : 0 < limit) {records : List Record}
    (apart : service.Apart limit .userTokens .managedInstance
      (service.lookUpRecords records backends).1 (service.lookUpRecords records backends).2)
    {failure : SearchFailure}
    (failed : (service.recordStage records backends).outcome = .error failure) :
    ∃ cause, failure = .dependency cause ∧
      FailsFirst (service.tokensAlone limit records backends)
        (service.managedAlone limit records backends)
        (service.recordStage records backends).time cause ∧
      service.RecordsCutAt records backends (service.recordStage records backends).time
        (service.afterRecords records backends) := by
  have tokens := sees_await limited positive .userTokens apart.first_untied
  have managed := sees_await limited positive .managedInstance apart.second_untied
  obtain ⟨cause, named, first⟩ := both_of_error tokens managed apart.failures failed
  have clocked := Awaited.clocked_both tokens managed
  exact ⟨cause, named, first, cutAt_stateAfter limited clocked failed _ _,
    ⟨_, cutAt_stateAfter limited clocked failed _ _, rfl⟩, rfl, rfl⟩

/-- A look-up that comes about alone does not fail by never ending. -/
theorem ended_of_alone {σ α : Type} {dependency : Dependency} {run : Run σ Fault α}
    (comes : ComesAbout run.outcome) {failure : DependencyFailure}
    (failed : (service.alone limit dependency run).outcome = .error failure)
    (other : Dependency) : failure ≠ ⟨other, .failed .endless⟩ := by
  rintro rfl
  rw [alone] at failed
  split at failed
  · cases failed
  · cases outcome : run.outcome with
    | ok value =>
      rw [outcome] at failed
      cases failed
    | error fault =>
      simp only [outcome, Except.mapError, Except.error.injEq, DependencyFailure.ofFault,
        DependencyFailure.mk.injEq] at failed
      obtain ⟨-, reason⟩ := failed
      split at reason
      · cases reason
      · cases reason
        exact comes outcome

/-- A look-up that fails alone is named by its failure. -/
theorem dependency_of_alone {σ α : Type} {dependency : Dependency} {run : Run σ Fault α}
    {failure : DependencyFailure}
    (failed : (service.alone limit dependency run).outcome = .error failure) :
    failure.dependency = dependency := by
  rw [alone] at failed
  split at failed
  · cases failed
    rfl
  · cases outcome : run.outcome with
    | ok value =>
      rw [outcome] at failed
      cases failed
    | error fault =>
      rw [outcome] at failed
      cases failed
      rfl

/-- The second stage does not fail by pages that never end. -/
theorem ended_of_logins {logins : List String} {instant : Rat} {failure : DependencyFailure}
    (failed : FailsFirst (service.usersAlone limit logins backends)
      (service.groupsAlone limit logins backends) instant failure) :
    failure ≠ ⟨.groupMemberships, .failed .endless⟩ := by
  rcases failed with ⟨failed, -⟩ | ⟨failed, -⟩
  · rintro rfl
    cases dependency_of_alone failed
  · exact ended_of_alone (comesAbout_groupsByLogins _ _ _) failed _

/-- The third stage does not fail by pages that never end. -/
theorem ended_of_records {records : List Record} {instant : Rat} {failure : DependencyFailure}
    (failed : FailsFirst (service.tokensAlone limit records backends)
      (service.managedAlone limit records backends) instant failure) :
    failure ≠ ⟨.userTokens, .failed .endless⟩ := by
  rcases failed with ⟨failed, -⟩ | ⟨failed, -⟩
  · exact ended_of_alone (comesAbout_tokenCounts _ _ _) failed _
  · rintro rfl
    cases dependency_of_alone failed

/-- What the third stage looks at is not changed by the first one. -/
theorem recordStage_afterLogins (service : Service) (criteria : Criteria) (logins : List String)
    (records : List Record) (backends : Backends) :
    service.recordStage records (service.afterLogins logins backends) =
      service.recordStage records
        (service.afterLogins logins (service.searched criteria backends)) :=
  rfl

/-- Under a finite deadline, and without ties, every search obeys the law of its stages. -/
theorem search_obeys (on : service.isEnabled = true)
    (limited : service.deadline.limit = .after limit) (positive : 0 < limit)
    (untied : service.Untied limit criteria backends) :
    service.Obeys limit criteria session backends (service.search criteria session backends) := by
  have pageSees := sees_await limited positive .userIndex untied.page
  have searched := afterPage_eq_searched limited positive criteria backends
  have pageTime : (service.pageStage criteria backends).time =
    (service.pageAlone limit criteria backends).time := pageSees.time
  have goes := service.search_goes criteria session backends
  generalize service.search criteria session backends = result at goes
  cases goes with
  | disabled off =>
    rw [on] at off
    cases off
  | pageFails _ failed =>
    obtain ⟨cause, rfl, pageFailed⟩ := pageSees.of_error failed
    rw [searched, pageTime]
    exact .pageFails pageFailed
  | nothingFound _ found empty =>
    rw [searched, pageTime]
    exact .nothingFound (pageSees.of_ok found) empty
  | @loginsFail _ page found some_found failure failed =>
    have pageFound := pageSees.of_ok found
    have apart := untied.logins _ _ pageFound some_found rfl
    obtain ⟨cause, rfl, first, cut⟩ := failsFirst_of_loginStage limited positive apart failed
    rw [searched, pageTime]
    exact .loginsFail pageFound some_found rfl first (ended_of_logins first) cut
  | @recordsFail _ page found some_found records groups looked_up failure failed =>
    have pageFound := pageSees.of_ok found
    obtain ⟨usersFound, groupsFound, longer, lookedUp⟩ := lookedUp_of_loginStage limited positive
      (untied.logins _ _ pageFound some_found rfl) looked_up
    have third := service.recordStage_afterLogins criteria page.logins records backends
    rw [lookedUp] at third
    rw [third] at failed
    obtain ⟨cause, rfl, first, cut⟩ := failsFirst_of_recordStage limited positive
      (untied.records _ _ _ _ _ pageFound some_found rfl usersFound groupsFound rfl) failed
    rw [searched, pageTime, lookedUp, third,
      show (service.loginStage page.logins backends).time = _ from longer, ← add_assoc]
    exact .recordsFail pageFound some_found rfl usersFound groupsFound rfl first
      (ended_of_records first) cut
  | @completes _ page found some_found records groups looked_up tokenCounts managed told =>
    have pageFound := pageSees.of_ok found
    obtain ⟨usersFound, groupsFound, longer, lookedUp⟩ := lookedUp_of_loginStage limited positive
      (untied.logins _ _ pageFound some_found rfl) looked_up
    have third := service.recordStage_afterLogins criteria page.logins records backends
    rw [lookedUp] at third
    rw [third] at told
    obtain ⟨tokensFound, managedFound, longest, told⟩ := told_of_recordStage limited positive
      (untied.records _ _ _ _ _ pageFound some_found rfl usersFound groupsFound rfl) told
    rw [searched, pageTime, lookedUp, third, told, longest,
      show (service.loginStage page.logins backends).time = _ from longer, ← add_assoc]
    exact .completes pageFound some_found rfl usersFound groupsFound rfl tokensFound managedFound
      (fun _ => assemble_eq_ok_iff) fun _ => cause_of_assemble

theorem failApart_of_ok {α β : Type} {first : Timed Rat DependencyFailure α}
    {second : Timed Rat DependencyFailure β} {value : α} (succeeds : first.outcome = .ok value) :
    FailApart first second := by
  intro failure other failed _
  rw [succeeds] at failed
  cases failed

/-- The small directory: the stages take 10, 60 and 21 milliseconds, and no look-up is given up. -/
theorem sample_obeys :
    Sample.service.isEnabled = true ∧ Sample.service.deadline.limit = .after 1000 ∧
    Sample.service.Untied 1000 Sample.criteria (Sample.backends {}) ∧
    (Sample.service.search Sample.criteria (Sample.session []) (Sample.backends {})).2.time = 91 ∧
    Sample.outcome {} [] = .ok ⟨⟨1, 50, 4⟩, Sample.users ⟨true, false⟩⟩ ∧
    Sample.service.Obeys 1000 Sample.criteria (Sample.session []) (Sample.backends {})
      (Sample.service.search Sample.criteria (Sample.session []) (Sample.backends {})) := by
  have page_there : (Sample.service.pageAlone 1000 Sample.criteria (Sample.backends {})).outcome =
      .ok ⟨["ada", "bob", "cy", "ada"], 4⟩ := by
    decide +kernel
  have records_there : (Sample.service.usersAlone 1000 ["ada", "bob", "cy", "ada"]
      (Sample.service.searched Sample.criteria (Sample.backends {}))).outcome =
      .ok [Sample.first {}, Sample.second] := by
    decide +kernel
  have untied : Sample.service.Untied 1000 Sample.criteria (Sample.backends {}) := by
    refine ⟨by decide +kernel, fun page second found _ at_second => ?_,
      fun page second records groups third found _ at_second looked_up _ at_third => ?_⟩
    · rw [page_there, Except.ok.injEq] at found
      subst found at_second
      exact ⟨by decide +kernel, by decide +kernel, failApart_of_ok records_there⟩
    · rw [page_there, Except.ok.injEq] at found
      subst found at_second at_third
      rw [records_there, Except.ok.injEq] at looked_up
      subst looked_up
      exact ⟨by decide +kernel, by decide +kernel, fun _ _ _ _ => by decide +kernel⟩
  have limited : Sample.service.deadline.limit = .after 1000 := by
    decide +kernel
  exact ⟨rfl, limited, untied, by decide +kernel, by decide +kernel,
    search_obeys rfl limited (by decide) untied⟩

/-- With slow records the second stage is given up a second after the first one, which took 10
milliseconds. -/
example :
    (Sample.service.search Sample.criteria (Sample.session [])
      (Sample.backends { delay := 400 })).2.time = 1010 ∧
    Sample.outcome { delay := 400 } [] =
      .error (.dependency ⟨.userStore, .noAnswer Sample.service.deadline.text⟩) := by
  decide +kernel

end Service

end UserDirectory
