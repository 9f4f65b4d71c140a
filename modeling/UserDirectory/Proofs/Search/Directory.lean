/-
This file compares what a search gathers with what the stores hold. The stores are
read as four tables: a record for each login, names of groups for each login, a
number of tokens and at most one provisioning entry for each identifier. Reading
in chunks and pages, again and again and several at a time, gathers for every
login of the page exactly what these tables say, and with stores that answer in
time the gathering does not fail. Nothing is assumed of the order in which the
stores answer, nor of the time they take where they do answer.
-/

import UserDirectory.Proofs.Lookup.Paged
import UserDirectory.Proofs.Search.Stages

namespace UserDirectory

/-! ### The stores as tables -/

namespace Backends

/-- The stored item of a login. -/
def item? (backends : Backends) : String → Option Json :=
  entryOf? backends.entries.users.find?

/-- The record of a login, if there is an item that is one. -/
def record? (backends : Backends) : String → Option Record :=
  valueOf? backends.item? Record.ofItem

/-- The names of the groups of a login, as they are stored. -/
def groupNames (backends : Backends) (login : String) : Except Fault (List Json) :=
  match backends.groups.holding with
  | .items entries => groupNamesOf entries login
  | .counts _ => .ok []

/-- The number of tokens of an identifier. -/
def tokenCount (backends : Backends) (userId : String) : Int :=
  backends.tokens.holding.size userId

/-- The provisioning entry of an identifier. -/
def provisioning? (backends : Backends) : String → Option Json :=
  entryOf? backends.entries.managed.find?

/-- The stores are tables: no answer is prepared in advance, memberships are kept as items and
tokens as numbers, and every record and every provisioning entry carries the key it is stored
under. -/
structure Tabular (backends : Backends) : Prop where
  users_unscripted : backends.entries.users.prepared = []
  managed_unscripted : backends.entries.managed.prepared = []
  groups_unscripted : backends.groups.prepared = []
  tokens_unscripted : backends.tokens.prepared = []
  groups_items : ∃ entries, backends.groups.holding = .items entries
  tokens_counts : ∃ entries, backends.tokens.holding = .counts entries
  logins : ∀ login record, backends.record? login = some record → record.login = login
  userIds : ∀ userId item, backends.provisioning? userId = some item →
    item.member? "PK" = some (.str (partitionKey userId))

/-- Every stored item is a record, and every name of a group is a text. -/
structure WellTyped (backends : Backends) : Prop where
  records : ∀ login item, backends.item? login = some item →
    ∃ record, Record.ofItem item = .ok record
  names : ∀ login, ∃ names : List String, backends.groupNames login = .ok (names.map .str)

/-- No failure is set. -/
structure Steady (backends : Backends) : Prop where
  index : backends.index.desk.failure = none
  users : backends.entries.users.desk.failure = none
  managed : backends.entries.managed.desk.failure = none
  groups : backends.groups.desk.failure = none
  tokens : backends.tokens.desk.failure = none

theorem keeps_entries {backends : Backends} (tabular : backends.Tabular) :
    backends.entries.Keeps backends.entries :=
  ⟨⟨rfl, rfl, rfl, tabular.users_unscripted⟩, ⟨rfl, rfl, rfl, tabular.managed_unscripted⟩⟩

theorem keeps_groups {backends : Backends} (tabular : backends.Tabular) :
    backends.groups.Keeps backends.groups :=
  ⟨rfl, rfl, rfl, tabular.groups_unscripted⟩

end Backends

/-- A shelf is roomy enough for some subjects if asking often enough processes every chunk of
them. -/
def BatchShelf.HasRoomFor (shelf : BatchShelf) (subjects : List String) : Prop :=
  ∀ capacity, shelf.capacity = some capacity →
    ∀ chunk ∈ chunks maxBatchKeys subjects, chunk.length ≤ (maxRetries + 1) * capacity

namespace Service

variable {service : Service} {criteria : Criteria} {backends : Backends} {failing : Prop}

/-- The names of the groups of a login, as far as there is a table of groups. -/
def groupNames (service : Service) (backends : Backends) (login : String) :
    Except Fault (List Json) :=
  if service.groupsEnabled then backends.groupNames login else .ok []

/-- The number of tokens of an identifier, as far as there is a table of tokens. -/
def tokenCount (service : Service) (backends : Backends) (userId : String) : Int :=
  if service.tokensEnabled then backends.tokenCount userId else 0

/-- Whether a user is managed, as the first active integration would tell. -/
def manages (service : Service) (backends : Backends) (userId : String) : Bool :=
  managedBy service.delegates backends.entries.managed.find? userId

/-- The shelves process every chunk of what a search asks them for. -/
structure Roomy (service : Service) (criteria : Criteria) (backends : Backends) : Prop where
  logins : ∀ page, (service.pageStage criteria backends).outcome = .ok page →
    backends.entries.users.HasRoomFor (distinct page.logins)
  userIds : ∀ page found, (service.pageStage criteria backends).outcome = .ok page →
    (service.loginStage page.logins backends).outcome = .ok found →
      backends.entries.managed.HasRoomFor (distinct (found.1.map (·.userId)))

/-- Every look-up of a search ends before its deadline. -/
structure InTime (service : Service) (criteria : Criteria) (backends : Backends) : Prop where
  page : service.deadline.hasPassed (service.indexRun criteria backends).time = false
  logins : ∀ page, (service.pageStage criteria backends).outcome = .ok page →
    service.deadline.hasPassed (service.lookUpLogins page.logins backends).1.time = false ∧
      service.deadline.hasPassed (service.lookUpLogins page.logins backends).2.time = false
  records : ∀ page found, (service.pageStage criteria backends).outcome = .ok page →
    (service.loginStage page.logins backends).outcome = .ok found →
      service.deadline.hasPassed (service.lookUpRecords found.1
          (service.afterLogins page.logins backends)).1.time = false ∧
        service.deadline.hasPassed (service.lookUpRecords found.1
          (service.afterLogins page.logins backends)).2.time = false

/-- Everything that lets a search gather without failing. -/
structure Ready (service : Service) (criteria : Criteria) (backends : Backends) : Prop where
  tabular : ∃ position table, firstActive? service.delegates = some (position, .table table)
  readable : ∃ answer page,
    backends.index.content.answer (indexQuery criteria).toJson = .ok answer ∧
      answer.check.outcome = .ok page
  typed : backends.WellTyped
  steady : backends.Steady
  roomy : service.Roomy criteria backends
  inTime : service.InTime criteria backends

/-! ### The page -/

/-- A search in the index finds what its answer says. -/
theorem meets_indexRun (service : Service) (criteria : Criteria) (backends : Backends)
    (on : service.isEnabled = true) (unset : failing ∨ backends.index.desk.failure = none)
    (readable : failing ∨ ∃ answer page,
      backends.index.content.answer (indexQuery criteria).toJson = .ok answer ∧
        answer.check.outcome = .ok page) :
    Meets failing (fun page => ∃ answer,
      backends.index.content.answer (indexQuery criteria).toJson = .ok answer ∧
        answer.check.outcome = .ok page) (service.indexRun criteria backends).outcome := by
  have access : service.index.isEnabled = true := (Bool.and_eq_true_iff.mp on).1
  rw [indexRun, IndexAccess.search, if_pos access]
  suffices asked : (IndexShelf.search service.index.name (indexQuery criteria)).Ends failing
      (fun shelf => shelf.content = backends.index.content ∧
        shelf.desk.failure = backends.index.desk.failure) _ from
    (Run.ends_single asked ⟨rfl, rfl⟩).2
  unfold IndexShelf.search
  refine Call.ends_update_bind (fun _ kept => kept) ?_
  refine Call.Ends.bind ((Desk.ends_receive none _ unset).within (fun _ kept => kept.2)
    fun _ _ kept rule => ⟨kept.1, rule⟩) fun _ _ => ?_
  refine Call.Ends.bind (?_ : Call.Ends failing _ (fun answer =>
    backends.index.content.answer (indexQuery criteria).toJson = .ok answer) _)
      fun answer answered => Call.ends_known ?_
  · intro shelf kept
    refine ⟨kept, ?_⟩
    show Meets failing _ (shelf.content.answer (indexQuery criteria).toJson)
    rw [kept.1]
    cases given : backends.index.content.answer (indexQuery criteria).toJson with
    | ok answer => rfl
    | error fault =>
      rcases readable with allowed | ⟨_, _, answered, _⟩
      · exact allowed
      · rw [given] at answered
        cases answered
  · cases checked : answer.check.outcome with
    | ok page => exact ⟨answer, answered, checked⟩
    | error fault =>
      rcases readable with allowed | ⟨other, page, otherAnswered, accepted⟩
      · exact allowed
      · rw [answered, Except.ok.injEq] at otherAnswered
        rw [← otherAnswered, checked] at accepted
        cases accepted

/-! ### Records and groups -/

theorem exists_room {shelf : BatchShelf} {subjects : List String}
    (room : failing ∨ shelf.HasRoomFor subjects) :
    ∃ capacity, (∀ limit, shelf.capacity = some limit → capacity ≤ limit) ∧
      (failing ∨ ∀ chunk ∈ chunks maxBatchKeys subjects,
        chunk.length ≤ (maxRetries + 1) * capacity) := by
  cases limited : shelf.capacity with
  | some limit =>
    exact ⟨limit, fun other same => Nat.le_of_eq (Option.some.inj same),
      room.imp_right fun room => room limit limited⟩
  | none =>
    refine ⟨subjects.length, fun _ absent => (nomatch absent), Or.inr fun chunk inChunks => ?_⟩
    have part := (List.sublist_flatten_of_mem inChunks).length_le
    rw [flatten_chunks (by decide)] at part
    exact Nat.le_trans part (Nat.le_mul_of_pos_left _ (by decide))

theorem users_ends (tabular : backends.Tabular) (logins : List String)
    (steady : failing ∨ backends.Steady) (typed : failing ∨ backends.WellTyped)
    (room : failing ∨ backends.entries.users.HasRoomFor (distinct logins)) (table : String) :
    (usersByLogins Entries.serve (some table) logins backends.entries).Ends failing
      backends.entries.Keeps (Finds backends.item? Record.ofItem (distinct logins)) := by
  obtain ⟨capacity, roomy, enough⟩ := exists_room room
  exact usersByLogins_ends
    (backends.entries.serves ⟨table, .user⟩ (steady.imp_right (·.users)) roomy) logins enough
    (typed.imp_right fun typed login _ => typed.records login) (Backends.keeps_entries tabular)

theorem groups_ends (service : Service) (tabular : backends.Tabular) (logins : List String)
    (steady : failing ∨ backends.Steady) (typed : failing ∨ backends.WellTyped) :
    (groupsByLogins PagedShelf.store service.groupsEnabled logins backends.groups).Ends failing
      backends.groups.Keeps fun groups => ∀ login ∈ logins, ∃ found,
        service.groupNames backends login = .ok found ∧
          Json.sort found = .ok (groupsOf groups login) := by
  obtain ⟨entries, holding⟩ := tabular.groups_items
  cases enabled : service.groupsEnabled with
  | false =>
    refine Run.ends_known fun login _ => ⟨[], ?_, rfl⟩
    rw [groupNames, enabled]
    rfl
  | true =>
    refine (groupsByLogins_ends backends.groups holding logins (steady.imp_right (·.groups))
      (typed.imp_right fun typed login _ => ?_)
      (Backends.keeps_groups tabular)).imp fun groups tells login member => ?_
    · have names := typed.names login
      rwa [Backends.groupNames, holding] at names
    · rw [groupNames, enabled, if_pos rfl, Backends.groupNames, holding]
      exact tells.sorted login (mem_distinct.mpr member)

/-- What the second stage finds of some logins. -/
structure FindsLogins (service : Service) (backends : Backends) (logins : List String)
    (found : List Record × List (String × List Json)) : Prop where
  records : Finds backends.item? Record.ofItem (distinct logins) found.1
  groups : ∀ login ∈ logins, ∃ names, service.groupNames backends login = .ok names ∧
    Json.sort names = .ok (groupsOf found.2 login)

theorem meets_loginStage (tabular : backends.Tabular) (on : service.isEnabled = true)
    (logins : List String) (steady : failing ∨ backends.Steady)
    (typed : failing ∨ backends.WellTyped)
    (room : failing ∨ backends.entries.users.HasRoomFor (distinct logins))
    (inTime : failing ∨
      service.deadline.hasPassed (service.lookUpLogins logins backends).1.time = false ∧
        service.deadline.hasPassed (service.lookUpLogins logins backends).2.time = false) :
    Meets failing (service.FindsLogins backends logins)
      (service.loginStage logins backends).outcome := by
  obtain ⟨table, named⟩ := Option.isSome_iff_exists.mp (Bool.and_eq_true_iff.mp on).2
  have records : Meets failing (Finds backends.item? Record.ofItem (distinct logins))
      (service.lookUpLogins logins backends).1.outcome := by
    rw [lookUpLogins, named]
    exact (users_ends tabular logins steady typed room table).2
  have groups := (service.groups_ends tabular logins steady typed).2
  exact (Awaited.meets_both
    (service.meets_await .userStore records (inTime.imp_right (·.1)))
    (service.meets_await .groupMemberships groups (inTime.imp_right (·.2)))).imp
      fun found holds => ⟨holds.1, holds.2⟩

/-- The second stage leaves the entries as they were. -/
theorem keeps_afterLogins (tabular : backends.Tabular) (logins : List String) :
    backends.entries.Keeps (service.afterLogins logins backends).entries := by
  show backends.entries.Keeps (service.stateAfter _ (service.lookUpLogins logins backends).1 _)
  unfold stateAfter lookUpLogins
  cases service.usersTable with
  | none => exact Backends.keeps_entries tabular
  | some table =>
    exact (users_ends tabular logins (Or.inl trivial : True ∨ _) (Or.inl trivial)
      (Or.inl trivial) table).stateWhile (Backends.keeps_entries tabular) _

/-! ### Tokens and managed users -/

/-- The count that the look-up of some records tells a login. -/
def toldTokens (service : Service) (backends : Backends) (records : List Record) (login : String) :
    Int :=
  lastCount (service.tokenCount backends)
    (records.map fun record => (record.userId, record.login)) login

theorem toldTokens_of_nodup {records : List Record} (nodup : (records.map (·.login)).Nodup)
    {record : Record} (member : record ∈ records) :
    service.toldTokens backends records record.login =
      service.tokenCount backends record.userId := by
  have logins : ((records.map fun record => (record.userId, record.login)).map (·.2)).Nodup := by
    rwa [List.map_map]
  exact lastCount_of_nodup logins
    (List.mem_map_of_mem (f := fun record : Record => (record.userId, record.login)) member)

theorem tokens_ends (service : Service) {entries : List (String × Int)}
    (holding : backends.tokens.holding = .counts entries)
    (unscripted : backends.tokens.prepared = []) (records : List Record)
    (steady : failing ∨ backends.Steady) :
    (tokenCounts PagedShelf.store service.tokensEnabled
      (records.map fun record => (record.userId, record.login)) backends.tokens).Ends failing
      backends.tokens.Keeps fun counts => ∀ login,
        tokensOf counts login = .int (service.toldTokens backends records login) := by
  cases enabled : service.tokensEnabled with
  | false =>
    refine Run.ends_known fun login => ?_
    rw [toldTokens, lastCount_of_forall]
    · rfl
    · intro user _ _
      rw [tokenCount, enabled]
      rfl
  | true =>
    have count : service.tokenCount backends = Holding.countOf entries := by
      funext userId
      rw [tokenCount, enabled, if_pos rfl, Backends.tokenCount, holding, Holding.size]
    unfold toldTokens
    rw [count]
    exact tokenCounts_ends backends.tokens holding _ (steady.imp_right (·.tokens))
      ⟨rfl, rfl, rfl, unscripted⟩

theorem managed_ends (service : Service) (tabular : backends.Tabular) (userIds : List String)
    (steady : failing ∨ backends.Steady)
    (table : failing ∨ ∃ position table,
      firstActive? service.delegates = some (position, .table table))
    (room : failing ∨ backends.entries.managed.HasRoomFor (distinct userIds))
    {entries : Entries} (start : backends.entries.Keeps entries) :
    (managedByUserId service.delegates Entries.serve (distinct userIds) ⟨entries, []⟩).Ends failing
      (fun delegation => backends.entries.Keeps delegation.store) fun managed =>
        ∀ userId ∈ userIds, isManaged managed userId = service.manages backends userId := by
  obtain ⟨capacity, roomy, enough⟩ := exists_room room
  refine (managedByUserId_ends (fun table => backends.entries.serves ⟨table, .provisioning⟩
    (steady.imp_right (·.managed)) roomy) service.delegates (distinct userIds) table ?_
    tabular.userIds start).imp fun managed tells userId member =>
      tells userId (mem_distinct.mpr member)
  rw [distinct_of_nodup (nodup_distinct userIds)]
  exact enough

/-- What the third stage tells of some records. -/
structure TellsRecords (service : Service) (backends : Backends) (records : List Record)
    (told : List (String × Json) × List (String × Bool)) : Prop where
  tokens : ∀ record ∈ records,
    tokensOf told.1 record.login = .int (service.tokenCount backends record.userId)
  managed : ∀ record ∈ records,
    isManaged told.2 record.userId = service.manages backends record.userId

theorem meets_recordStage (tabular : backends.Tabular) (logins : List String)
    {records : List Record} (nodup : (records.map (·.login)).Nodup)
    (steady : failing ∨ backends.Steady)
    (table : failing ∨ ∃ position table,
      firstActive? service.delegates = some (position, .table table))
    (room : failing ∨
      backends.entries.managed.HasRoomFor (distinct (records.map (·.userId))))
    (inTime : failing ∨
      service.deadline.hasPassed (service.lookUpRecords records
          (service.afterLogins logins backends)).1.time = false ∧
        service.deadline.hasPassed (service.lookUpRecords records
          (service.afterLogins logins backends)).2.time = false) :
    Meets failing (service.TellsRecords backends records)
      (service.recordStage records (service.afterLogins logins backends)).outcome := by
  obtain ⟨entries, holding⟩ := tabular.tokens_counts
  have tokens := (service.tokens_ends holding tabular.tokens_unscripted records steady).2
  have managed := (service.managed_ends tabular (records.map (·.userId)) steady table
    room (service.keeps_afterLogins tabular logins)).2
  refine (Awaited.meets_both
    (service.meets_await .userTokens tokens (inTime.imp_right (·.1)))
    (service.meets_await .managedInstance managed (inTime.imp_right (·.2)))).imp
      fun told holds => ⟨fun record member => ?_, fun record member =>
        holds.2 record.userId (List.mem_map_of_mem member)⟩
  rw [holds.1, toldTokens_of_nodup nodup member]

/-! ### What is gathered -/

/-- What was gathered for some logins is what the tables hold. -/
structure Reflects (service : Service) (backends : Backends) (logins : List String)
    (gathering : Gathering) : Prop where
  accepted : ∀ login ∈ logins, ∀ item, backends.item? login = some item →
    ∃ record, Record.ofItem item = .ok record
  records : orderByLogins gathering.records logins = logins.filterMap backends.record?
  groups : ∀ login ∈ logins, ∃ names, service.groupNames backends login = .ok names ∧
    Json.sort names = .ok (groupsOf gathering.groups login)
  tokens : ∀ login ∈ logins, ∀ record, backends.record? login = some record →
    tokensOf gathering.tokenCounts record.login =
      .int (service.tokenCount backends record.userId)
  managed : ∀ login ∈ logins, ∀ record, backends.record? login = some record →
    isManaged gathering.managed record.userId = service.manages backends record.userId

theorem orderByLogins_of_finds (tabular : backends.Tabular) {logins : List String}
    {records : List Record} (finds : Finds backends.item? Record.ofItem (distinct logins) records) :
    orderByLogins records logins = logins.filterMap backends.record? := by
  refine List.filterMap_congr fun login member => ?_
  exact find?_of_perm (fun login _ record => tabular.logins login record) (nodup_distinct logins)
    ((List.reverse_perm records).trans finds.perm) (mem_distinct.mpr member)

theorem reflects_of_stages (tabular : backends.Tabular) {logins : List String}
    {found : List Record × List (String × List Json)}
    {told : List (String × Json) × List (String × Bool)}
    (finds : service.FindsLogins backends logins found)
    (tells : service.TellsRecords backends found.1 told) :
    service.Reflects backends logins ⟨found.1, found.2, told.1, told.2⟩ := by
  have among : ∀ login ∈ logins, ∀ record, backends.record? login = some record →
      record ∈ found.1 := fun login member record stored =>
    finds.records.perm.mem_iff.mpr
      (List.mem_filterMap.mpr ⟨login, mem_distinct.mpr member, stored⟩)
  refine ⟨fun login member item stored => ?_, orderByLogins_of_finds tabular finds.records,
    finds.groups, fun login member record stored => ?_, fun login member record stored => ?_⟩
  · exact finds.records.accepted (mem_distinct.mpr member) stored
  · exact tells.tokens record (among login member record stored)
  · exact tells.managed record (among login member record stored)

theorem reflects_nil (service : Service) (backends : Backends) (gathering : Gathering) :
    service.Reflects backends [] gathering :=
  ⟨fun _ member => absurd member List.not_mem_nil, rfl,
    fun _ member => absurd member List.not_mem_nil, fun _ member => absurd member List.not_mem_nil,
    fun _ member => absurd member List.not_mem_nil⟩

/-- The page that a search gathers for: the one the index answers with, or an empty one if there is
nothing to search in. -/
def FindsPage (service : Service) (criteria : Criteria) (backends : Backends) (page : IndexPage) :
    Prop :=
  if service.isEnabled then ∃ answer,
    backends.index.content.answer (indexQuery criteria).toJson = .ok answer ∧
      answer.check.outcome = .ok page
  else page = ⟨[], 0⟩

/-- What a search gathers is what the tables hold, and a search that is ready gathers it. -/
theorem meets_gather (tabular : backends.Tabular)
    (ready : failing ∨ service.Ready criteria backends) :
    Meets failing (fun values => service.FindsPage criteria backends values.1 ∧
      service.Reflects backends values.1.logins values.2) (service.gather criteria backends) := by
  unfold gather FindsPage
  by_cases on : service.isEnabled = true
  · simp only [if_pos on]
    have page := service.meets_await .userIndex
      (service.meets_indexRun criteria backends on (ready.imp_right (·.steady.index))
        (ready.imp_right (·.readable))) (ready.imp_right (·.inTime.page))
    refine Meets.bind page.self fun page ⟨answered, found⟩ => ?_
    by_cases empty : page.logins = []
    · rw [if_pos empty]
      refine ⟨answered, ?_⟩
      rw [empty]
      exact reflects_nil service backends _
    · rw [if_neg empty]
      have logins := service.meets_loginStage tabular on page.logins
        (ready.imp_right (·.steady)) (ready.imp_right (·.typed))
        (ready.imp_right (·.roomy.logins page found)) (ready.imp_right (·.inTime.logins page found))
      refine Meets.bind logins.self fun values ⟨finds, looked_up⟩ => ?_
      have nodup : (values.1.map (·.login)).Nodup := nodup_keys_of_perm
        (fun login _ record => tabular.logins login record) (nodup_distinct page.logins)
        finds.records.perm
      exact Meets.map (service.meets_recordStage tabular page.logins nodup
        (ready.imp_right (·.steady)) (ready.imp_right (·.tabular))
        (ready.imp_right (·.roomy.userIds page values found looked_up))
        (ready.imp_right (·.inTime.records page values found looked_up)))
        fun told tells => ⟨answered, reflects_of_stages tabular finds tells⟩
  · simp only [if_neg on]
    exact ⟨rfl, reflects_nil service backends _⟩

end Service

/-! ### Small directories -/

/-- What varies between small directories: what one of their users does not show to strangers, and
how long it takes to look up records. -/
structure Sample where
  email : String := "Ada@example.org"
  groups : List String := ["staff", "admins"]
  tokens : Int := 2
  managed : List String := ["u1"]
  delay : Nat := 20

namespace Sample

/-- Two users. The index lists one of them twice, and a third one that is not stored; pages and
requests hold one entry. -/
def backends (sample : Sample) : Backends where
  index :=
    { content := .listed (["ada", "bob", "cy", "ada"].map .str) none
      desk := { delay := 10 } }
  entries :=
    { users :=
        { items := [
            (partitionKey "ada", .obj [("userId", .str "u1"), ("login", .str "ada"),
              ("name", .str "Ada"), ("email", .str sample.email),
              ("scmAccounts", .arr [.str "ada-scm"])]),
            (partitionKey "cy", .obj [("userId", .str "u2"), ("login", .str "cy"),
              ("active", .bool false)])]
          capacity := some 1
          desk := { delay := sample.delay } }
      managed :=
        { items := sample.managed.map fun userId =>
            (partitionKey userId, .obj [("PK", .str (partitionKey userId))])
          desk := { delay := 5 } } }
  groups :=
    { holding := .items
        [("ada", sample.groups.map fun name => .obj [("SK", .str ("GROUP#" ++ name))])]
      pageSize := some 1
      desk := { delay := 30 } }
  tokens :=
    { holding := .counts [("u1", sample.tokens), ("u2", 3)]
      pageSize := some 1
      desk := { delay := 7 } }

/-- The record of the first user. -/
def first (sample : Sample) : Record :=
  ⟨"u1", "ada", some "Ada", some sample.email, true, true, none, none, ["ada-scm"], none⟩

/-- The record of the second user. -/
def second : Record :=
  ⟨"u2", "cy", none, none, false, true, none, none, [], none⟩

/-- Another directory, different in all that the first user does not show to strangers. -/
def disguised : Sample :=
  { email := "ADA@example.org", groups := ["owners"], tokens := 7, managed := [], delay := 3 }

/-- The second user, with some roles. -/
def session (roles : List String) : Session :=
  ⟨some ⟨.str "u2", .null, .null, .arr (roles.map .str), .null⟩, ["Admin"]⟩

/-- A search that is set up completely and gives each look-up a second. -/
def service : Service where
  index := ⟨some ⟨["https://index"], none, true, true⟩, "users"⟩
  usersTable := some "users"
  groupsEnabled := true
  tokensEnabled := true
  delegates := [.table (some "managed")]
  deadline := .ofWholeSeconds 1
  avatar := Record.avatar

/-- The criteria of the first page. -/
def criteria : Criteria := ⟨none, false, 1, 50⟩

/-- The users of the first page, seen with some tiers on the first user by somebody who sees all of
the second. -/
def users (tiers : Tiers) : List UserView :=
  let view := (first {}).view tiers
    ⟨some (avatarOf "Ada@example.org"), ["admins", "staff"], some 2, true⟩
  [view, second.view ⟨true, true⟩ ⟨none, [], some 3, false⟩, view]

/-- The first page, seen with some tiers on the first user by somebody who sees all of the
second. -/
def response (tiers : Tiers) : SearchResponse :=
  ⟨⟨1, 50, 4⟩, users tiers⟩

/-- The outcome of searching for the first page as the second user with some roles. -/
def outcome (sample : Sample) (roles : List String) : Except SearchFailure SearchResponse :=
  (service.search criteria (session roles) sample.backends).2.outcome

theorem item?_backends (sample : Sample) (login : String) :
    sample.backends.item? login =
      if login = "ada" then some (.obj [("userId", .str "u1"), ("login", .str "ada"),
        ("name", .str "Ada"), ("email", .str sample.email), ("scmAccounts", .arr [.str "ada-scm"])])
      else if login = "cy" then
        some (.obj [("userId", .str "u2"), ("login", .str "cy"), ("active", .bool false)])
      else none := by
  have key (other : String) : partitionKey other = partitionKey login ↔ login = other :=
    ⟨fun same => (partitionKey_injective same).symm, fun same => by rw [same]⟩
  simp only [Backends.item?, entryOf?, BatchShelf.find?, backends, Json.lookup?, List.find?_cons,
    key, List.find?_nil]
  by_cases ada : login = "ada"
  · rw [if_pos ada, decide_eq_true ada]
    rfl
  · rw [if_neg ada, decide_eq_false ada]
    by_cases cy : login = "cy"
    · rw [if_pos cy, decide_eq_true cy]
      rfl
    · rw [if_neg cy, decide_eq_false cy]
      rfl

theorem record?_backends (sample : Sample) (login : String) :
    sample.backends.record? login =
      if login = "ada" then some sample.first
      else if login = "cy" then some second
      else none := by
  rw [Backends.record?, valueOf?, item?_backends]
  split
  · rfl
  · split
    · rfl
    · rfl

theorem record_cases {sample : Sample} {login : String} {record : Record}
    (stored : sample.backends.record? login = some record) :
    login = "ada" ∧ record = sample.first ∨ login = "cy" ∧ record = second := by
  rw [record?_backends] at stored
  split at stored
  · rename_i ada
    exact Or.inl ⟨ada, (Option.some.inj stored).symm⟩
  · split at stored
    · rename_i cy
      exact Or.inr ⟨cy, (Option.some.inj stored).symm⟩
    · cases stored

theorem tabular (sample : Sample) : sample.backends.Tabular := by
  refine ⟨rfl, rfl, rfl, rfl, ⟨_, rfl⟩, ⟨_, rfl⟩, fun login record stored => ?_,
    fun userId item stored => ?_⟩
  · rcases record_cases stored with ⟨rfl, rfl⟩ | ⟨rfl, rfl⟩
    · rfl
    · rfl
  · obtain ⟨entry, found, rfl⟩ := Option.map_eq_some_iff.mp stored
    obtain ⟨other, _, rfl⟩ := List.mem_map.mp (List.mem_of_find?_eq_some found)
    have key : partitionKey other = partitionKey userId := by
      simpa using List.find?_some found
    rw [← key]
    rfl

end Sample

end UserDirectory
