/-
The search. It runs in three stages: the index finds the logins of the page; records and groups are
looked up together; tokens and managed users are looked up together for the records found. Each
look-up has the whole deadline for itself, counted from the start of its stage. The first failure of
a stage stops the stage and the search; calls that have begun by then have had their effect, and go
on until they end although nobody waits for them.
-/

import UserDirectory.Index.Access
import UserDirectory.Search.Deadline
import UserDirectory.Search.Page
import UserDirectory.Store.Entries
import UserDirectory.Tables

namespace UserDirectory

/-! ### What a search works with -/

/-- The stores that a search reads. -/
structure Backends where
  /-- The index of users. -/
  index : IndexShelf := {}
  /-- The records and the provisioning entries. -/
  entries : Entries := {}
  /-- The group memberships. -/
  groups : PagedShelf := ⟨.items [], none, {}, [], []⟩
  /-- The tokens. -/
  tokens : PagedShelf := ⟨.counts [], none, {}, [], []⟩
deriving Repr

/-- Forget which calls the stores have seen. -/
def Backends.forgetCalls (backends : Backends) : Backends :=
  { index := { backends.index with seen := [] }
    entries := backends.entries.forgetCalls
    groups := { backends.groups with seen := [] }
    tokens := { backends.tokens with seen := [] } }

/-- How the search is set up. -/
structure Service where
  /-- The access to the index. -/
  index : IndexAccess
  /-- The table of records, if there is one. -/
  usersTable : Option String
  /-- Whether there is a table of groups. -/
  groupsEnabled : Bool
  /-- Whether there is a table of tokens. -/
  tokensEnabled : Bool
  /-- The integrations that own users. -/
  delegates : List Delegate
  /-- The deadline of each look-up. -/
  deadline : Deadline
  /-- The resolver of avatars. -/
  avatar : Record → Except Fault String

namespace Service

/-- The search that the settings describe. A deadline may be given instead of the configured one. -/
def configure (environment : Environment) (deadline : Option Deadline) : Except Fault Service := do
  let deadline ← match deadline with
    | some deadline => pure deadline
    | none => do pure (Deadline.ofSeconds (← environment.timeout))
  pure
    { index := IndexAccess.configure environment {}
      usersTable := TableRole.users.tableName environment none
      groupsEnabled := (TableRole.groups.tableName environment none).isSome
      tokensEnabled := (TableRole.tokens.tableName environment none).isSome
      delegates := [.table (TableRole.managed.tableName environment none)]
      deadline := deadline
      avatar := Record.avatar }

/-- Whether there are an index and a table of records to search in. -/
def isEnabled (service : Service) : Bool :=
  service.index.isEnabled && service.usersTable.isSome

/-! ### One look-up under its deadline -/

/-- A look-up as its stage sees it: given up at the deadline, its failure named after the
service. -/
def await {σ α : Type} (service : Service) (dependency : Dependency) (run : Run σ Fault α) :
    Awaited SearchFailure α :=
  if service.deadline.hasPassed run.time then
    ⟨service.deadline.instant, .deadline,
      .error (.dependency ⟨dependency, .noAnswer service.deadline.text⟩)⟩
  else
    ⟨run.time, .ended run.closing, run.outcome.mapError fun fault =>
      .dependency (.ofFault dependency service.deadline.text fault)⟩

/-- The state that a look-up leaves when its stage is over: after the calls that begin before the
deadline and before the stage comes to a halt. -/
def stateAfter {σ α β : Type} (service : Service) (stage : Awaited SearchFailure β)
    (run : Run σ Fault α) (initial : σ) : σ :=
  run.stateWhile initial fun cue => service.deadline.lets cue && stage.lets cue

/-- When the calls end that a look-up begins until its stage is over. -/
def endsAfter {σ α β : Type} (service : Service) (stage : Awaited SearchFailure β)
    (run : Run σ Fault α) : List Rat :=
  (run.endsWhile fun cue => service.deadline.lets cue && stage.lets cue).map fun
    (instant : Nat) => (instant : Rat)

/-! ### The stages -/

/-- The look-ups for the logins of a page. -/
def lookUpLogins (service : Service) (logins : List String) (backends : Backends) :
    Run Entries Fault (List Record) × Run PagedShelf Fault (List (String × List Json)) :=
  (usersByLogins Entries.serve service.usersTable logins backends.entries,
   groupsByLogins PagedShelf.store service.groupsEnabled logins backends.groups)

/-- The look-ups for the records of a page. -/
def lookUpRecords (service : Service) (records : List Record) (backends : Backends) :
    Run PagedShelf Fault (List (String × Json)) ×
      Run (Delegation Entries) Fault (List (String × Bool)) :=
  (tokenCounts PagedShelf.store service.tokensEnabled
    (records.map fun record => (record.userId, record.login)) backends.tokens,
   managedByUserId service.delegates Entries.serve
    (distinct (records.map (·.userId))) ⟨backends.entries, []⟩)

/-- The third stage, and the page put together from it. -/
def complete (service : Service) (criteria : Criteria) (session : Session) (page : IndexPage)
    (records : List Record) (groups : List (String × List Json)) (backends : Backends) :
    Backends × Timed Rat SearchFailure SearchResponse :=
  let (tokensRun, managedRun) := service.lookUpRecords records backends
  let stage :=
    (service.await .userTokens tokensRun).both (service.await .managedInstance managedRun)
  let backends := { backends with
    tokens := service.stateAfter stage tokensRun backends.tokens
    entries := (service.stateAfter stage managedRun ⟨backends.entries, []⟩).store }
  (backends, ⟨stage.time, do
    let (tokenCounts, managed) ← stage.outcome
    let users ← Gathering.views ⟨records, groups, tokenCounts, managed⟩ session service.avatar
      page.logins
    pure (criteria.response page.total users)⟩)

/-- The second stage and the third. -/
def lookUp (service : Service) (criteria : Criteria) (session : Session) (page : IndexPage)
    (backends : Backends) : Backends × Timed Rat SearchFailure SearchResponse :=
  let (usersRun, groupsRun) := service.lookUpLogins page.logins backends
  let stage := (service.await .userStore usersRun).both (service.await .groupMemberships groupsRun)
  let backends := { backends with
    entries := service.stateAfter stage usersRun backends.entries
    groups := service.stateAfter stage groupsRun backends.groups }
  match stage.outcome with
  | .error failure => (backends, ⟨stage.time, .error failure⟩)
  | .ok (records, groups) =>
    let (backends, rest) := service.complete criteria session page records groups backends
    (backends, ⟨stage.time + rest.time, rest.outcome⟩)

/-- Search one page of users as the caller of a session sees them. -/
def search (service : Service) (criteria : Criteria) (session : Session) (backends : Backends) :
    Backends × Timed Rat SearchFailure SearchResponse :=
  if service.isEnabled then
    let query : IndexQuery :=
      ⟨criteria.query, !criteria.deactivated, criteria.offset, criteria.pageSize⟩
    let run := service.index.search query backends.index
    let found := service.await .userIndex run
    let backends := { backends with index := service.stateAfter found run backends.index }
    match found.outcome with
    | .error failure => (backends, ⟨found.time, .error failure⟩)
    | .ok page =>
      if page.logins.isEmpty then (backends, ⟨found.time, .ok (criteria.response page.total [])⟩)
      else
        let (backends, rest) := service.lookUp criteria session page backends
        (backends, ⟨found.time + rest.time, rest.outcome⟩)
  else (backends, ⟨0, .ok (criteria.response 0 [])⟩)

/-! ### When calls end -/

/-- When the calls of the third stage end. -/
def completeEnds (service : Service) (records : List Record) (backends : Backends) : List Rat :=
  let (tokensRun, managedRun) := service.lookUpRecords records backends
  let stage :=
    (service.await .userTokens tokensRun).both (service.await .managedInstance managedRun)
  service.endsAfter stage tokensRun ++ service.endsAfter stage managedRun

/-- When the calls of the second stage and the third end. -/
def lookUpEnds (service : Service) (logins : List String) (backends : Backends) : List Rat :=
  let (usersRun, groupsRun) := service.lookUpLogins logins backends
  let stage := (service.await .userStore usersRun).both (service.await .groupMemberships groupsRun)
  let left := { backends with
    entries := service.stateAfter stage usersRun backends.entries
    groups := service.stateAfter stage groupsRun backends.groups }
  let later := match stage.outcome with
    | .error _ => []
    | .ok (records, _) => (service.completeEnds records left).map (stage.time + ·)
  service.endsAfter stage usersRun ++ service.endsAfter stage groupsRun ++ later

/-- When the calls of a search end. A search that fails may be answered before. -/
def searchEnds (service : Service) (criteria : Criteria) (backends : Backends) : List Rat :=
  if service.isEnabled then
    let query : IndexQuery :=
      ⟨criteria.query, !criteria.deactivated, criteria.offset, criteria.pageSize⟩
    let run := service.index.search query backends.index
    let found := service.await .userIndex run
    let left := { backends with index := service.stateAfter found run backends.index }
    let later := match found.outcome with
      | .error _ => []
      | .ok page =>
        if page.logins.isEmpty then []
        else (service.lookUpEnds page.logins left).map (found.time + ·)
    service.endsAfter found run ++ later
  else []

end Service

end UserDirectory
