/-
This file proves that searches repeat themselves. All that a search does with the
stores is to call them, and their calls repeat themselves; so the look-ups do, then
the stages, and then the search. Searching leaves every store as it was at rest, and
what has been searched before does not show in what is found or in how long it
takes.
-/

import UserDirectory.Proofs.Search.Stages
import UserDirectory.Proofs.Store.Resting

namespace UserDirectory

variable {σ α : Type} {alike : σ → Prop}

/-! ### Reading by keys -/

section Keys

variable {store : BatchStore σ}

theorem repeats_readBatch {table : BatchTable}
    (each : ∀ request, (store table request).Repeats alike) (accept : Json → Except Fault α)
    (attempts : Nat) (request : BatchRequest) :
    (readBatch store table accept attempts request).Repeats alike := by
  induction attempts generalizing request with
  | zero => exact (Call.repeats_known _).bind fun _ => Call.repeats_known _
  | succ attempts inductionHypothesis =>
    rw [readBatch]
    refine (each request).bind fun reply => (Call.repeats_known _).bind fun found => ?_
    cases reply.unprocessed with
    | none => exact Call.repeats_known _
    | some rest => exact (inductionHypothesis rest).bind fun _ => Call.repeats_known _

theorem repeats_usersByLogins (each : ∀ table request, (store table request).Repeats alike)
    (table : Option String) (logins : List String) :
    Run.Repeats alike (usersByLogins store table logins) := by
  cases table with
  | none => exact Run.repeats_known _
  | some table =>
    refine (Run.repeats_inTurn (fun chunk _ => ?_) .direct).thenCheck _
    exact (repeats_readBatch (each ⟨table, .user⟩) _ _ _).bind fun _ => Call.repeats_known _

theorem repeats_managedByTable (each : ∀ table request, (store table request).Repeats alike)
    (table : String) (userIds : List String) :
    Run.Repeats alike (managedByTable store table userIds) := by
  refine (Run.repeats_inTurn (fun chunk _ => ?_) .direct).thenCheck _
  exact (repeats_readBatch (each ⟨table, .provisioning⟩) _ _ _).bind fun _ => Call.repeats_known _

/-- Asking integrations repeats itself: which of them is asked is settled by the integrations. -/
theorem repeats_managedByUserId (each : ∀ table request, (store table request).Repeats alike)
    (delegates : List Delegate) (userIds : List String) :
    Run.Repeats (fun delegation : Delegation σ => alike delegation.store)
      (managedByUserId delegates store userIds) := by
  have eachDelegated (table : BatchTable) (request : BatchRequest) :
      (Delegation.batchStore store table request).Repeats
        fun delegation : Delegation σ => alike delegation.store :=
    (each table request).within (fun _ start => start) fun _ _ _ inner => inner
  unfold managedByUserId
  cases firstActive? delegates with
  | none => exact Run.repeats_known _
  | some entry =>
    obtain ⟨position, delegate⟩ := entry
    have asked : Run.Repeats (fun delegation : Delegation σ => alike delegation.store)
        (delegate.ask store userIds) := by
      cases delegate with
      | table table =>
        cases table with
        | none => exact Run.repeats_known _
        | some table => exact repeats_managedByTable eachDelegated table userIds
      | fixed name isActive managed failure =>
        cases failure with
        | none => exact Run.repeats_known _
        | some failure => exact Run.repeats_known _
    obtain ⟨closing, outcome, asked⟩ := asked
    refine ⟨closing, outcome, fun delegation start => ?_⟩
    obtain ⟨kept, ends⟩ :=
      asked { delegation with asked := delegation.asked ++ [(position, userIds)] } start
    refine ⟨fun entry member => ?_, ends⟩
    rcases List.mem_cons.mp member with rfl | inHistory
    · exact start
    · exact kept entry inHistory

end Keys

/-! ### Reading by pages -/

section Pages

variable {store : PagedStore σ} (each : ∀ query start, (store.ask query start).Repeats alike)

include each

theorem repeats_readOn (query : PageQuery) (join : Json → Json → Except Fault Json) (bound : Nat)
    (total : Json) (position : Option Position) :
    (readOn store query join bound total position).Repeats alike := by
  induction bound generalizing total position with
  | zero =>
    cases position with
    | none => exact Call.repeats_known _
    | some position => exact Call.repeats_known _
  | succ bound inductionHypothesis =>
    cases position with
    | none => exact Call.repeats_known _
    | some position =>
      refine (each query (some position)).bind fun page =>
        (Call.repeats_known _).bind fun total => ?_
      exact inductionHypothesis total page.continuation

variable {bounds : PageQuery → Nat}
  (bounded : ∀ query state, alike state → store.pageBound state query = bounds query)

include bounded

theorem repeats_readPages (query : PageQuery) (join : Json → Json → Except Fault Json) :
    (readPages store query join).Repeats alike := by
  have reads : Call.Repeats alike (store.ask query none >>= fun page =>
      readOn store query join (bounds query) page.body page.continuation) :=
    (each query none).bind fun page => repeats_readOn each query join _ _ _
  refine reads.of_agree fun state start => ?_
  rw [← bounded query state start]
  rfl

theorem repeats_groupsByLogins (enabled : Bool) (logins : List String) :
    Run.Repeats alike (groupsByLogins store enabled logins) := by
  cases enabled with
  | false => exact Run.repeats_known _
  | true =>
    refine (Run.repeats_bounded (fun login _ => ?_) maxConcurrentCalls).thenCheck _
    exact (repeats_readPages each bounded (groupQuery login) _).bind fun _ => Call.repeats_known _

theorem repeats_tokenCounts (enabled : Bool) (users : List (String × String)) :
    Run.Repeats alike (tokenCounts store enabled users) := by
  cases enabled with
  | false => exact Run.repeats_known _
  | true =>
    exact (Run.repeats_bounded
      (fun userId _ => repeats_readPages each bounded (tokenQuery userId) _)
      maxConcurrentCalls).thenCheck _

end Pages

/-! ### Stores at rest -/

namespace Backends

/-- The stores when they have noted no call. -/
def rested (backends : Backends) : Backends where
  index := backends.index.rested
  entries := backends.entries.rested
  groups := backends.groups.rested
  tokens := backends.tokens.rested

/-- Stores in which nothing is used up by calls. -/
structure IsRepeatable (backends : Backends) : Prop where
  index : backends.index.desk.IsRepeatable
  entries : backends.entries.IsRepeatable
  groups : backends.groups.IsRepeatable
  tokens : backends.tokens.IsRepeatable

theorem IsRepeatable.rested {backends : Backends} (repeatable : backends.IsRepeatable) :
    backends.rested.IsRepeatable := by
  obtain ⟨index, entries, groups, tokens⟩ := repeatable
  exact ⟨index, ⟨⟨entries.users.desk, entries.users.unscripted⟩,
    ⟨entries.managed.desk, entries.managed.unscripted⟩⟩, ⟨groups.desk, groups.unscripted⟩,
    ⟨tokens.desk, tokens.unscripted⟩⟩

end Backends

/-! ### Stages -/

namespace Service

variable (service : Service) {original : Backends}

/-- A stage sees a look-up that repeats itself always in the same way. -/
theorem await_of_repeats {lookUp : σ → Run σ Fault α} (repeats : Run.Repeats alike lookUp)
    (dependency : Dependency) :
    ∃ awaited, ∀ state, alike state → service.await dependency (lookUp state) = awaited := by
  obtain ⟨closing, outcome, lookUp⟩ := repeats
  refine ⟨service.await dependency (⟨[], [], closing, outcome⟩ : Run Unit Fault α),
    fun state start => ?_⟩
  obtain ⟨_, sameClosing, same⟩ := lookUp state start
  rw [await, await, Run.time, sameClosing, same]
  rfl

/-- A stage leaves a look-up that repeats itself at states that are alike. -/
theorem alike_stateAfter {β : Type} {lookUp : σ → Run σ Fault α}
    (repeats : Run.Repeats alike lookUp) (stage : Awaited SearchFailure β) {state : σ}
    (start : alike state) : alike (service.stateAfter stage (lookUp state) state) := by
  obtain ⟨_, _, lookUp⟩ := repeats
  exact Run.stateWhile_of_history (lookUp state start).1 start _

/-- From all stores that are the same at rest a part of the search ends at the same time and in the
same way, and it leaves them as they were at rest. -/
def Resumes {β : Type} (original : Backends) (part : Backends → Backends × β) : Prop :=
  ∃ result, ∀ backends, backends.rested = original →
    (part backends).1.rested = original ∧ (part backends).2 = result

theorem resumes_pageStage (repeatable : original.IsRepeatable) (criteria : Criteria) :
    Resumes original fun backends =>
      (service.afterPage criteria backends, service.pageStage criteria backends) := by
  have repeats : Run.Repeats (fun shelf => shelf.rested = original.index)
      (service.index.search (indexQuery criteria)) := by
    unfold IndexAccess.search
    cases service.index.isEnabled with
    | false => exact Run.repeats_known _
    | true => exact Run.repeats_single (IndexShelf.repeats_search repeatable.index _ _)
  obtain ⟨awaited, same⟩ := service.await_of_repeats repeats .userIndex
  refine ⟨awaited, fun backends start => ?_⟩
  have index : backends.index.rested = original.index := congrArg Backends.index start
  have kept := service.alike_stateAfter repeats (service.pageStage criteria backends) index
  refine ⟨?_, same _ index⟩
  show ({ backends.rested with index := _ } : Backends) = original
  rw [start]
  exact congrArg (fun index => ({ original with index := index } : Backends)) kept

theorem resumes_loginStage (repeatable : original.IsRepeatable) (logins : List String) :
    Resumes original fun backends =>
      (service.afterLogins logins backends, service.loginStage logins backends) := by
  have users := repeats_usersByLogins (Entries.repeats_serve repeatable.entries)
    service.usersTable logins
  have groups := repeats_groupsByLogins (PagedShelf.repeats_ask repeatable.groups)
    (PagedShelf.pageBound_of_rested original.groups) service.groupsEnabled logins
  obtain ⟨usersAwaited, sameUsers⟩ := service.await_of_repeats users .userStore
  obtain ⟨groupsAwaited, sameGroups⟩ := service.await_of_repeats groups .groupMemberships
  refine ⟨usersAwaited.both groupsAwaited, fun backends start => ?_⟩
  have inEntries : backends.entries.rested = original.entries := congrArg Backends.entries start
  have inGroups : backends.groups.rested = original.groups := congrArg Backends.groups start
  refine ⟨?_, congrArg₂ Awaited.both (sameUsers _ inEntries) (sameGroups _ inGroups)⟩
  have keptEntries := service.alike_stateAfter users (service.loginStage logins backends) inEntries
  have keptGroups := service.alike_stateAfter groups (service.loginStage logins backends) inGroups
  show ({ backends.rested with entries := _, groups := _ } : Backends) = original
  rw [start]
  exact congrArg₂ (fun entries groups =>
    ({ original with entries := entries, groups := groups } : Backends)) keptEntries keptGroups

theorem resumes_recordStage (repeatable : original.IsRepeatable) (records : List Record) :
    Resumes original fun backends =>
      (service.afterRecords records backends, service.recordStage records backends) := by
  have tokens := repeats_tokenCounts (PagedShelf.repeats_ask repeatable.tokens)
    (PagedShelf.pageBound_of_rested original.tokens) service.tokensEnabled
    (records.map fun record => (record.userId, record.login))
  have managed := repeats_managedByUserId (Entries.repeats_serve repeatable.entries)
    service.delegates (distinct (records.map (·.userId)))
  obtain ⟨tokensAwaited, sameTokens⟩ := service.await_of_repeats tokens .userTokens
  obtain ⟨managedAwaited, sameManaged⟩ := service.await_of_repeats managed .managedInstance
  refine ⟨tokensAwaited.both managedAwaited, fun backends start => ?_⟩
  have inTokens : backends.tokens.rested = original.tokens := congrArg Backends.tokens start
  have inEntries : backends.entries.rested = original.entries := congrArg Backends.entries start
  refine ⟨?_, congrArg₂ Awaited.both (sameTokens _ inTokens) (sameManaged ⟨_, []⟩ inEntries)⟩
  have keptTokens :=
    service.alike_stateAfter tokens (service.recordStage records backends) inTokens
  have keptEntries := service.alike_stateAfter managed (service.recordStage records backends)
    (show (⟨backends.entries, []⟩ : Delegation Entries).store.rested = _ from inEntries)
  show ({ backends.rested with tokens := _, entries := _ } : Backends) = original
  rw [start]
  exact congrArg₂ (fun tokens entries =>
    ({ original with tokens := tokens, entries := entries } : Backends)) keptTokens keptEntries

/-! ### The search -/

theorem resumes_complete (repeatable : original.IsRepeatable) (criteria : Criteria)
    (session : Session) (page : IndexPage) (records : List Record)
    (groups : List (String × List Json)) :
    Resumes original (service.complete criteria session page records groups) := by
  obtain ⟨stage, resumes⟩ := service.resumes_recordStage repeatable records
  cases outcome : stage.outcome with
  | error failure =>
    refine ⟨⟨stage.time, .error failure⟩, fun backends start => ?_⟩
    obtain ⟨kept, same⟩ := resumes backends start
    simp only at kept same
    rw [complete_eq, same, outcome]
    exact ⟨kept, rfl⟩
  | ok values =>
    obtain ⟨tokenCounts, managed⟩ := values
    refine ⟨⟨stage.time, service.assemble criteria session page
      ⟨records, groups, tokenCounts, managed⟩⟩, fun backends start => ?_⟩
    obtain ⟨kept, same⟩ := resumes backends start
    simp only at kept same
    rw [complete_eq, same, outcome]
    exact ⟨kept, rfl⟩

theorem resumes_lookUp (repeatable : original.IsRepeatable) (criteria : Criteria)
    (session : Session) (page : IndexPage) :
    Resumes original (service.lookUp criteria session page) := by
  obtain ⟨stage, resumes⟩ := service.resumes_loginStage repeatable page.logins
  cases outcome : stage.outcome with
  | error failure =>
    refine ⟨⟨stage.time, .error failure⟩, fun backends start => ?_⟩
    obtain ⟨kept, same⟩ := resumes backends start
    simp only at kept same
    rw [lookUp_eq, same, outcome]
    exact ⟨kept, rfl⟩
  | ok values =>
    obtain ⟨records, groups⟩ := values
    obtain ⟨found, later⟩ :=
      service.resumes_complete repeatable criteria session page records groups
    refine ⟨⟨stage.time + found.time, found.outcome⟩, fun backends start => ?_⟩
    obtain ⟨kept, same⟩ := resumes backends start
    simp only at kept same
    obtain ⟨keptLater, sameLater⟩ := later _ kept
    rw [lookUp_eq, same, outcome]
    simp only
    rw [sameLater]
    exact ⟨keptLater, rfl⟩

/-- A search repeats itself. -/
theorem resumes_search (repeatable : original.IsRepeatable) (criteria : Criteria)
    (session : Session) : Resumes original (service.search criteria session) := by
  by_cases on : service.isEnabled = true
  · obtain ⟨stage, resumes⟩ := service.resumes_pageStage repeatable criteria
    cases outcome : stage.outcome with
    | error failure =>
      refine ⟨⟨stage.time, .error failure⟩, fun backends start => ?_⟩
      obtain ⟨kept, same⟩ := resumes backends start
      simp only at kept same
      rw [search_eq _ _ _ _ on, same, outcome]
      exact ⟨kept, rfl⟩
    | ok page =>
      obtain ⟨found, later⟩ := service.resumes_lookUp repeatable criteria session page
      refine ⟨if page.logins.isEmpty then ⟨stage.time, .ok (criteria.response page.total [])⟩
        else ⟨stage.time + found.time, found.outcome⟩, fun backends start => ?_⟩
      obtain ⟨kept, same⟩ := resumes backends start
      simp only at kept same
      obtain ⟨keptLater, sameLater⟩ := later _ kept
      rw [search_eq _ _ _ _ on, same, outcome]
      simp only
      rw [sameLater]
      split
      · exact ⟨kept, rfl⟩
      · exact ⟨keptLater, rfl⟩
  · refine ⟨⟨0, .ok (criteria.response 0 [])⟩, fun backends start => ?_⟩
    unfold search
    rw [if_neg on]
    exact ⟨start, rfl⟩

/-- What a search finds, and when, does not depend on what the stores have noted, and it leaves the
stores as they were at rest. -/
theorem search_of_alike {left backends : Backends} (repeatable : backends.IsRepeatable)
    (alike : left.rested = backends.rested) (criteria : Criteria) (session : Session) :
    (service.search criteria session left).1.rested = backends.rested ∧
      (service.search criteria session left).2 = (service.search criteria session backends).2 := by
  obtain ⟨found, resumes⟩ := service.resumes_search repeatable.rested criteria session
  obtain ⟨kept, same⟩ := resumes left alike
  exact ⟨kept, same.trans (resumes backends rfl).2.symm⟩

end Service

end UserDirectory
