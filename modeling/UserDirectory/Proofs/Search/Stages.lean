/-
This file takes the search apart. A search goes in one of six ways, told by the
stages that it reaches and by how they end, and each way fixes what is answered,
when, and which stores have been asked. Who is asking plays no part before the
page is put together: up to there a search only gathers, and what it gathers is
the same for every caller. So the answers of two callers are two views of one
gathering.
-/

import UserDirectory.Proofs.Concurrent.Runs
import UserDirectory.Search.Service

namespace UserDirectory

variable {σ ε α β : Type} {failing : Prop}

/-! ### Awaited look-ups -/

theorem Meets.mapError {ε' : Type} {result : α → Prop} {outcome : Except ε α} {function : ε → ε'}
    (meets : Meets failing result outcome) : Meets failing result (outcome.mapError function) := by
  cases outcome with
  | ok _ => exact meets
  | error _ => exact meets

/-- A look-up that ends in time ends for its stage as it ends by itself. -/
theorem Service.meets_await (service : Service) (dependency : Dependency) {run : Run σ Fault α}
    {result : α → Prop} (meets : Meets failing result run.outcome)
    (inTime : failing ∨ service.deadline.hasPassed run.time = false) :
    Meets failing result (service.await dependency run).outcome := by
  unfold await
  split
  · rename_i passed
    rcases inTime with allowed | inTime
    · exact allowed
    · rw [inTime] at passed
      cases passed
  · exact meets.mapError

theorem Awaited.meets_both {first : Awaited ε α} {second : Awaited ε β} {one : α → Prop}
    {other : β → Prop} (firstMeets : Meets failing one first.outcome)
    (secondMeets : Meets failing other second.outcome) :
    Meets failing (fun values => one values.1 ∧ other values.2) (first.both second).outcome := by
  unfold both
  split
  · rename_i a b firstOk secondOk
    rw [firstOk] at firstMeets
    rw [secondOk] at secondMeets
    split
    · exact ⟨firstMeets, secondMeets⟩
    · exact ⟨firstMeets, secondMeets⟩
  · rename_i failure _ firstFailed _
    rw [firstFailed] at firstMeets
    exact firstMeets
  · rename_i _ failure _ secondFailed
    rw [secondFailed] at secondMeets
    exact secondMeets
  · rename_i failure other firstFailed secondFailed
    rw [firstFailed] at firstMeets
    split
    · exact firstMeets
    · exact firstMeets

namespace Service

/-! ### The stages and what they leave -/

/-- What a search asks the index. -/
def indexQuery (criteria : Criteria) : IndexQuery :=
  ⟨criteria.query, !criteria.deactivated, criteria.offset, criteria.pageSize⟩

/-- The look-up in the index. -/
def indexRun (service : Service) (criteria : Criteria) (backends : Backends) :
    Run IndexShelf Fault IndexPage :=
  service.index.search (indexQuery criteria) backends.index

/-- The first stage. -/
def pageStage (service : Service) (criteria : Criteria) (backends : Backends) :
    Awaited SearchFailure IndexPage :=
  service.await .userIndex (service.indexRun criteria backends)

/-- The stores after the first stage. -/
def afterPage (service : Service) (criteria : Criteria) (backends : Backends) : Backends :=
  { backends with
    index := service.stateAfter (service.pageStage criteria backends)
      (service.indexRun criteria backends) backends.index }

/-- The second stage. -/
def loginStage (service : Service) (logins : List String) (backends : Backends) :
    Awaited SearchFailure (List Record × List (String × List Json)) :=
  (service.await .userStore (service.lookUpLogins logins backends).1).both
    (service.await .groupMemberships (service.lookUpLogins logins backends).2)

/-- The stores after the second stage. -/
def afterLogins (service : Service) (logins : List String) (backends : Backends) : Backends :=
  { backends with
    entries := service.stateAfter (service.loginStage logins backends)
      (service.lookUpLogins logins backends).1 backends.entries
    groups := service.stateAfter (service.loginStage logins backends)
      (service.lookUpLogins logins backends).2 backends.groups }

/-- The third stage. -/
def recordStage (service : Service) (records : List Record) (backends : Backends) :
    Awaited SearchFailure (List (String × Json) × List (String × Bool)) :=
  (service.await .userTokens (service.lookUpRecords records backends).1).both
    (service.await .managedInstance (service.lookUpRecords records backends).2)

/-- The stores after the third stage. -/
def afterRecords (service : Service) (records : List Record) (backends : Backends) : Backends :=
  { backends with
    tokens := service.stateAfter (service.recordStage records backends)
      (service.lookUpRecords records backends).1 backends.tokens
    entries := (service.stateAfter (service.recordStage records backends)
      (service.lookUpRecords records backends).2 ⟨backends.entries, []⟩).store }

/-- The page that is put together from what was gathered. -/
def assemble (service : Service) (criteria : Criteria) (session : Session) (page : IndexPage)
    (gathering : Gathering) : Except SearchFailure SearchResponse :=
  (gathering.views session service.avatar page.logins).map (criteria.response page.total)

/-! ### How a search goes -/

/-- The ways in which a search goes: the stages that it reaches, what is answered and when, and the
stores that it leaves. A stage is reached only if those before it succeed, and a stage that is not
reached leaves its stores alone. -/
inductive Goes (service : Service) (criteria : Criteria) (session : Session) (backends : Backends) :
    Backends × Timed Rat SearchFailure SearchResponse → Prop where
  | disabled (off : service.isEnabled = false) :
    Goes service criteria session backends (backends, ⟨0, .ok (criteria.response 0 [])⟩)
  | pageFails (on : service.isEnabled = true) {failure : SearchFailure}
    (failed : (service.pageStage criteria backends).outcome = .error failure) :
    Goes service criteria session backends (service.afterPage criteria backends,
      ⟨(service.pageStage criteria backends).time, .error failure⟩)
  | nothingFound (on : service.isEnabled = true) {page : IndexPage}
    (found : (service.pageStage criteria backends).outcome = .ok page) (empty : page.logins = []) :
    Goes service criteria session backends (service.afterPage criteria backends,
      ⟨(service.pageStage criteria backends).time, .ok (criteria.response page.total [])⟩)
  | loginsFail (on : service.isEnabled = true) {page : IndexPage}
    (found : (service.pageStage criteria backends).outcome = .ok page)
    (some_found : page.logins ≠ [])
    {failure : SearchFailure}
    (failed : (service.loginStage page.logins backends).outcome = .error failure) :
    Goes service criteria session backends
      (service.afterLogins page.logins (service.afterPage criteria backends),
        ⟨(service.pageStage criteria backends).time +
            (service.loginStage page.logins backends).time,
          .error failure⟩)
  | recordsFail (on : service.isEnabled = true) {page : IndexPage}
    (found : (service.pageStage criteria backends).outcome = .ok page)
    (some_found : page.logins ≠ [])
    {records : List Record} {groups : List (String × List Json)}
    (looked_up : (service.loginStage page.logins backends).outcome = .ok (records, groups))
    {failure : SearchFailure}
    (failed : (service.recordStage records (service.afterLogins page.logins backends)).outcome =
      .error failure) :
    Goes service criteria session backends
      (service.afterRecords records
          (service.afterLogins page.logins (service.afterPage criteria backends)),
        ⟨(service.pageStage criteria backends).time +
            ((service.loginStage page.logins backends).time +
              (service.recordStage records (service.afterLogins page.logins backends)).time),
          .error failure⟩)
  | completes (on : service.isEnabled = true) {page : IndexPage}
    (found : (service.pageStage criteria backends).outcome = .ok page)
    (some_found : page.logins ≠ [])
    {records : List Record} {groups : List (String × List Json)}
    (looked_up : (service.loginStage page.logins backends).outcome = .ok (records, groups))
    {tokenCounts : List (String × Json)} {managed : List (String × Bool)}
    (told : (service.recordStage records (service.afterLogins page.logins backends)).outcome =
      .ok (tokenCounts, managed)) :
    Goes service criteria session backends
      (service.afterRecords records
          (service.afterLogins page.logins (service.afterPage criteria backends)),
        ⟨(service.pageStage criteria backends).time +
            ((service.loginStage page.logins backends).time +
              (service.recordStage records (service.afterLogins page.logins backends)).time),
          service.assemble criteria session page ⟨records, groups, tokenCounts, managed⟩⟩)

theorem search_eq (service : Service) (criteria : Criteria) (session : Session)
    (backends : Backends) (on : service.isEnabled = true) :
    service.search criteria session backends =
      match (service.pageStage criteria backends).outcome with
      | .error failure => (service.afterPage criteria backends,
          ⟨(service.pageStage criteria backends).time, .error failure⟩)
      | .ok page =>
        if page.logins.isEmpty then (service.afterPage criteria backends,
          ⟨(service.pageStage criteria backends).time, .ok (criteria.response page.total [])⟩)
        else
          let rest := service.lookUp criteria session page (service.afterPage criteria backends)
          (rest.1, ⟨(service.pageStage criteria backends).time + rest.2.time, rest.2.outcome⟩) := by
  unfold search
  rw [if_pos on]
  rfl

theorem lookUp_eq (service : Service) (criteria : Criteria) (session : Session) (page : IndexPage)
    (backends : Backends) :
    service.lookUp criteria session page backends =
      match (service.loginStage page.logins backends).outcome with
      | .error failure => (service.afterLogins page.logins backends,
          ⟨(service.loginStage page.logins backends).time, .error failure⟩)
      | .ok (records, groups) =>
        let rest := service.complete criteria session page records groups
          (service.afterLogins page.logins backends)
        (rest.1, ⟨(service.loginStage page.logins backends).time + rest.2.time, rest.2.outcome⟩) :=
  rfl

theorem complete_eq (service : Service) (criteria : Criteria) (session : Session)
    (page : IndexPage) (records : List Record) (groups : List (String × List Json))
    (backends : Backends) :
    service.complete criteria session page records groups backends =
      (service.afterRecords records backends,
        ⟨(service.recordStage records backends).time,
          match (service.recordStage records backends).outcome with
          | .error failure => .error failure
          | .ok (tokenCounts, managed) =>
            service.assemble criteria session page ⟨records, groups, tokenCounts, managed⟩⟩) := by
  show (service.afterRecords records backends, (⟨(service.recordStage records backends).time,
    (service.recordStage records backends).outcome.bind _⟩ : Timed Rat SearchFailure _)) = _
  cases (service.recordStage records backends).outcome with
  | error failure => rfl
  | ok told => rfl

/-- Every search goes in one of these ways. -/
theorem search_goes (service : Service) (criteria : Criteria) (session : Session)
    (backends : Backends) :
    service.Goes criteria session backends (service.search criteria session backends) := by
  by_cases on : service.isEnabled = true
  · rw [search_eq service criteria session backends on]
    cases found : (service.pageStage criteria backends).outcome with
    | error failure => exact .pageFails on found
    | ok page =>
      by_cases empty : page.logins = []
      · simp only [empty, List.isEmpty_nil, if_true]
        exact .nothingFound on found empty
      · simp only [List.isEmpty_iff, empty, if_false]
        rw [lookUp_eq]
        -- The later stages look at other stores than the first one, which changes the index only.
        rw [show service.loginStage page.logins (service.afterPage criteria backends) =
          service.loginStage page.logins backends from rfl]
        cases looked_up : (service.loginStage page.logins backends).outcome with
        | error failure => exact .loginsFail on found empty looked_up
        | ok values =>
          obtain ⟨records, groups⟩ := values
          simp only [complete_eq]
          rw [show service.recordStage records
              (service.afterLogins page.logins (service.afterPage criteria backends)) =
            service.recordStage records (service.afterLogins page.logins backends) from rfl]
          cases told : (service.recordStage records
              (service.afterLogins page.logins backends)).outcome with
          | error failure => exact .recordsFail on found empty looked_up told
          | ok values => exact .completes on found empty looked_up told
  · unfold search
    rw [if_neg on]
    exact .disabled (Bool.not_eq_true _ ▸ on)

/-! ### What a search gathers -/

/-- What a search gathers, whoever is asking: the page of the index, and what the stores know of its
users. Where no user is looked up nothing is known. -/
def gather (service : Service) (criteria : Criteria) (backends : Backends) :
    Except SearchFailure (IndexPage × Gathering) :=
  if service.isEnabled then
    (service.pageStage criteria backends).outcome.bind fun page =>
      if page.logins = [] then .ok (page, ⟨[], [], [], []⟩)
      else
        (service.loginStage page.logins backends).outcome.bind fun (records, groups) =>
          (service.recordStage records (service.afterLogins page.logins backends)).outcome.map
            fun (tokenCounts, managed) => (page, ⟨records, groups, tokenCounts, managed⟩)
  else .ok (⟨[], 0⟩, ⟨[], [], [], []⟩)

/-- A search gathers, and then the caller's view of the page is put together. -/
theorem search_outcome (service : Service) (criteria : Criteria) (session : Session)
    (backends : Backends) :
    (service.search criteria session backends).2.outcome =
      (service.gather criteria backends).bind fun (page, gathering) =>
        service.assemble criteria session page gathering := by
  have goes := service.search_goes criteria session backends
  generalize service.search criteria session backends = result at goes
  unfold gather
  cases goes with
  | disabled off =>
    rw [off]
    rfl
  | pageFails on failed =>
    rw [on, if_pos rfl, failed]
    rfl
  | nothingFound on found empty =>
    rw [on, if_pos rfl, found]
    simp only [Except.bind, assemble, empty, if_true]
    rfl
  | loginsFail on found some_found failed =>
    rw [on, if_pos rfl, found]
    simp only [Except.bind, if_neg some_found, failed]
  | recordsFail on found some_found looked_up failed =>
    rw [on, if_pos rfl, found]
    simp only [Except.bind, if_neg some_found, looked_up, failed, Except.map]
  | completes on found some_found looked_up told =>
    rw [on, if_pos rfl, found]
    simp only [Except.bind, if_neg some_found, looked_up, told, Except.map]

/-- A search that succeeds has gathered, and its answer is the caller's view of what it has
gathered. -/
theorem gather_of_search {service : Service} {criteria : Criteria} {session : Session}
    {backends : Backends} {response : SearchResponse}
    (searched : (service.search criteria session backends).2.outcome = .ok response) :
    ∃ page gathering users, service.gather criteria backends = .ok (page, gathering) ∧
      gathering.views session service.avatar page.logins = .ok users ∧
        response = criteria.response page.total users := by
  rw [search_outcome] at searched
  obtain ⟨⟨page, gathering⟩, gathered, assembled⟩ := bind_eq_ok_iff.mp searched
  obtain ⟨users, viewed, rfl⟩ := map_eq_ok_iff.mp assembled
  exact ⟨page, gathering, users, gathered, viewed, rfl⟩

end Service

end UserDirectory
