/-
This file says what looking up by keys finds. The records found for some logins
are, in whatever order, the records of the distinct logins that have one, so each
login is looked up among them as in the store itself. A user is told to be managed
if and only if the store has an entry under the user's key; asking about users in
several chunks, or about one of them twice, makes no difference. Integrations
other than a table answer by their own rule.
-/

import UserDirectory.Lookup.Managed
import UserDirectory.Lookup.Users
import UserDirectory.Proofs.Concurrent.Runs
import UserDirectory.Proofs.Json.Checking
import UserDirectory.Proofs.Store.KeyedReading

namespace UserDirectory

/-! ### Looking for an element by its key -/

section Keys

variable {α κ : Type} {key : α → κ}

/-- Among elements with distinct keys, looking for the key of one of them finds that one. -/
theorem find?_of_nodup_map [DecidableEq κ] {items : List α} (nodup : (items.map key).Nodup)
    (item : α) (member : item ∈ items) :
    (items.find? fun other => key other = key item) = some item := by
  induction items with
  | nil => cases member
  | cons first rest inductionHypothesis =>
    obtain ⟨fresh, restNodup⟩ := List.nodup_cons.mp nodup
    rcases List.mem_cons.mp member with rfl | inRest
    · exact List.find?_cons_of_pos (by simp)
    · have other : ¬ key first = key item := fun same =>
        fresh (same ▸ List.mem_map_of_mem inRest)
      rw [List.find?_cons_of_neg (by simpa using other)]
      exact inductionHypothesis restNodup inRest

variable {value? : κ → Option α} {subjects : List κ} {found : List α}

theorem map_filterMap_of_keyed
    (keyed : ∀ subject ∈ subjects, ∀ value, value? subject = some value → key value = subject) :
    (subjects.filterMap value?).map key =
      subjects.filter fun subject => (value? subject).isSome := by
  induction subjects with
  | nil => rfl
  | cons subject rest inductionHypothesis =>
    rw [List.forall_mem_cons] at keyed
    cases value : value? subject with
    | none =>
      rw [List.filterMap_cons_none value, List.filter_cons_of_neg (by simp [value]),
        inductionHypothesis keyed.2]
    | some found =>
      rw [List.filterMap_cons_some value, List.filter_cons_of_pos (by simp [value]), List.map_cons,
        inductionHypothesis keyed.2, keyed.1 found value]

theorem nodup_keys_of_perm
    (keyed : ∀ subject ∈ subjects, ∀ value, value? subject = some value → key value = subject)
    (nodup : subjects.Nodup) (perm : found.Perm (subjects.filterMap value?)) :
    (found.map key).Nodup := by
  rw [(perm.map key).nodup_iff, map_filterMap_of_keyed keyed]
  exact nodup.filter _

/-- Where each value carries the key it was found for, looking for a key among the values finds the
value of that key. -/
theorem find?_of_perm [DecidableEq κ]
    (keyed : ∀ subject ∈ subjects, ∀ value, value? subject = some value → key value = subject)
    (nodup : subjects.Nodup) (perm : found.Perm (subjects.filterMap value?)) {subject : κ}
    (member : subject ∈ subjects) :
    (found.find? fun value => key value = subject) = value? subject := by
  cases value : value? subject with
  | some wanted =>
    have inFound : wanted ∈ found :=
      perm.mem_iff.mpr (List.mem_filterMap.mpr ⟨subject, member, value⟩)
    rw [← keyed subject member wanted value]
    exact find?_of_nodup_map (nodup_keys_of_perm keyed nodup perm) wanted inFound
  | none =>
    rw [List.find?_eq_none]
    intro other inFound
    obtain ⟨origin, inSubjects, otherValue⟩ := List.mem_filterMap.mp (perm.mem_iff.mp inFound)
    simp only [decide_eq_true_eq]
    intro same
    rw [keyed origin inSubjects other otherValue] at same
    rw [same, value] at otherValue
    cases otherValue

end Keys

/-! ### Chunk by chunk -/

section Chunks

variable {σ α β κ : Type} {item? : κ → Option Json} {accept : Json → Except Fault α}
  {failing : Prop} {invariant : σ → Prop}

/-- Working on what was found finds what comes of it. -/
theorem Finds.mapM {subjects : List κ} {found : List α} {next : α → Except Fault β}
    (finds : Finds item? accept subjects found)
    (acceptable : failing ∨ ∀ value ∈ found, ∃ result, next value = .ok result) :
    Meets failing (Finds item? (fun item => (accept item).bind next) subjects)
      (found.mapM next) := by
  cases mapped : found.mapM next with
  | ok results =>
    have steps := List.Perm.map (fun outcome : Except Fault α => outcome.bind next) finds
    rw [List.map_map, List.map_map] at steps
    have same : found.map ((fun outcome : Except Fault α => outcome.bind next) ∘ .ok) =
        results.map .ok := mapM_eq_ok_iff.mp mapped
    rw [same] at steps
    exact steps
  | error fault =>
    rcases acceptable with allowed | acceptable
    · exact allowed
    · obtain ⟨results, equal⟩ := exists_mapM_ok acceptable
      rw [mapped] at equal
      cases equal

/-- Reading chunk by chunk finds what reading everything at once would find. -/
theorem ends_inTurn_chunks (item? : κ → Option Json) (accept : Json → Except Fault α)
    {call : List κ → Call σ Fault (List α)} {subjects : List κ}
    (each : ∀ chunk ∈ chunks maxBatchKeys subjects,
      (call chunk).Ends failing invariant (Finds item? accept chunk))
    {state : σ} (start : invariant state) :
    (Run.inTurn call (chunks maxBatchKeys subjects) .direct state).Ends failing invariant
      fun founds => Finds item? accept subjects founds.flatten := by
  refine (Run.ends_inTurn each .direct start).imp fun founds found => ?_
  rw [← flatten_chunks (show 0 < maxBatchKeys by decide) subjects]
  exact Finds.flatten found

theorem mem_of_mem_chunks {subjects chunk : List κ}
    (inChunks : chunk ∈ chunks maxBatchKeys subjects) {subject : κ} (member : subject ∈ chunk) :
    subject ∈ subjects := by
  rw [← flatten_chunks (show 0 < maxBatchKeys by decide) subjects]
  exact List.mem_flatten_of_mem inChunks member

end Chunks

/-! ### Records -/

section Reading

variable {σ : Type} {store : BatchStore σ} {find? : String → Option Json} {capacity : Nat}
  {failing : Prop} {invariant : σ → Prop}

/-- The entry that a subject has in a store. -/
def entryOf? (find? : String → Option Json) (subject : String) : Option Json :=
  find? (partitionKey subject)

/-- The records of the items found for some logins are what is found of their records. -/
theorem Finds.records {logins : List String} {items : List Json}
    (found : Finds (entryOf? find?) .ok logins items)
    (records : failing ∨ ∀ login ∈ logins, ∀ item, entryOf? find? login = some item →
      ∃ record, Record.ofItem item = .ok record) :
    Meets failing (Finds (entryOf? find?) Record.ofItem logins) (items.mapM Record.ofItem) := by
  refine Finds.mapM found (records.imp_right fun records item member => ?_)
  obtain ⟨login, inLogins, stored⟩ := List.mem_filterMap.mp (found.perm.mem_iff.mp member)
  refine records login inLogins item ?_
  obtain ⟨entry, found, equal⟩ := Option.bind_eq_some_iff.mp stored
  rw [Except.toOption, Option.some.injEq] at equal
  rw [← equal]
  exact found

/-- Looking up records finds the record of each distinct login that has one. Whoever looks up
succeeds if the chunks are not too large for the store and every stored item is a record. -/
theorem usersByLogins_ends {table : String}
    (serves : BatchStore.Serves store ⟨table, .user⟩ find? capacity failing invariant)
    (logins : List String)
    (enough : failing ∨ ∀ chunk ∈ chunks maxBatchKeys (distinct logins),
      chunk.length ≤ (maxRetries + 1) * capacity)
    (records : failing ∨ ∀ login ∈ logins, ∀ item, entryOf? find? login = some item →
      ∃ record, Record.ofItem item = .ok record)
    {state : σ} (start : invariant state) :
    (usersByLogins store (some table) logins state).Ends failing invariant
      (Finds (entryOf? find?) Record.ofItem (distinct logins)) := by
  refine Run.Ends.thenCheck (ends_inTurn_chunks _ _ (fun chunk inChunks => ?_) start)
    fun _ found => found
  refine Call.Ends.bind (readChunk_ends .ok serves chunk
    (enough.imp_right fun within => within chunk inChunks)
    (Or.inr fun _ _ item _ => ⟨item, rfl⟩)) fun items found => Call.ends_known ?_
  exact Finds.records found (records.imp_right fun records login inChunk =>
    records login (mem_distinct.mp (mem_of_mem_chunks inChunks inChunk)))

/-! ### Managed users -/

/-- The user that an entry is about, who must be named by a text. -/
def managedName (item : Json) : Except Fault String :=
  (managedSubject item).bind fun subject =>
    match subject.text? with
    | some userId => .ok userId
    | none => .error .unsuitable

theorem dropFirst_partitionKey (subject : String) :
    (Json.str (partitionKey subject)).dropFirst partitionMarkLength = .ok (.str subject) := by
  have dropped : (partitionKey subject).toList.drop partitionMarkLength = subject.toList := by
    rw [partitionKey, String.toList_append, show partitionMarkLength = "USER#".toList.length by rfl]
    exact List.drop_left
  rw [Json.dropFirst, dropped, String.ofList_toList]

/-- An entry that carries the key of a user is about that user. -/
theorem managedSubject_of_key {item : Json} {userId : String}
    (key : item.member? "PK" = some (.str (partitionKey userId))) :
    managedSubject item = .ok (.str userId) := by
  rw [managedSubject, Json.required_eq_ok_iff.mpr key]
  exact dropFirst_partitionKey userId

theorem managedName_of_key {item : Json} {userId : String}
    (key : item.member? "PK" = some (.str (partitionKey userId))) :
    managedName item = .ok userId := by
  rw [managedName, managedSubject_of_key key]
  rfl

/-- In a result that has an entry for each distinct user, the entry of a user is found. -/
theorem isManaged_map (userIds : List String) (managed : String → Bool) (userId : String) :
    isManaged ((distinct userIds).map fun other => (other, managed other)) userId =
      (userIds.contains userId && managed userId) := by
  have keys : (((distinct userIds).map fun other => (other, managed other)).map
      (·.1)).Nodup := by
    rw [List.map_map]
    simpa [Function.comp_def] using nodup_distinct userIds
  unfold isManaged
  by_cases member : userId ∈ userIds
  · rw [find?_of_nodup_map keys (userId, managed userId)
      (List.mem_map_of_mem (f := fun other => (other, managed other)) (mem_distinct.mpr member))]
    simp [member]
  · have absent : (((distinct userIds).map fun other => (other, managed other)).find?
        fun entry => entry.1 = userId) = none := by
      rw [List.find?_eq_none]
      intro entry inEntries
      obtain ⟨other, inDistinct, rfl⟩ := List.mem_map.mp inEntries
      have notSame : other ≠ userId := fun same => member (same ▸ mem_distinct.mp inDistinct)
      simpa using notSame
    rw [absent]
    simp [member]

theorem isManaged_managedMap (userIds found : List String) (userId : String) :
    isManaged (managedMap userIds found) userId = found.contains userId := by
  rw [managedMap, isManaged_map]
  by_cases member : userId ∈ found
  · simp [member]
  · simp [member]

/-- Whether a user is managed, read off the first active integration itself. -/
def managedBy (delegates : List Delegate) (find? : String → Option Json) (userId : String) : Bool :=
  match firstActive? delegates with
  | some (_, .table (some _)) => (entryOf? find? userId).isSome
  | some (_, .fixed _ _ managed _) => managed.contains userId
  | _ => false

section Keyed

variable (keyed : ∀ userId item, entryOf? find? userId = some item →
  item.member? "PK" = some (.str (partitionKey userId)))

include keyed

/-- The users that the documents found for some users are about are what is found of them. -/
theorem Finds.names {userIds : List String} {documents : List Json}
    (found : Finds (entryOf? find?) managedSubject userIds documents) :
    Meets failing (Finds (entryOf? find?) managedName userIds) (documents.mapM fun subject =>
      match subject.text? with
      | some userId => .ok userId
      | none => .error Fault.unsuitable) := by
  refine Finds.mapM found (Or.inr fun document member => ?_)
  obtain ⟨userId, _, stored⟩ := List.mem_filterMap.mp (found.perm.mem_iff.mp member)
  obtain ⟨item, entry, equal⟩ := Option.bind_eq_some_iff.mp stored
  rw [managedSubject_of_key (keyed userId item entry), Except.toOption,
    Option.some.injEq] at equal
  rw [← equal]
  exact ⟨userId, rfl⟩

/-- Of some users, those are found that have an entry. -/
theorem Finds.mem_names_iff {userIds found : List String}
    (finds : Finds (entryOf? find?) managedName userIds found) {userId : String} :
    userId ∈ found ↔ userId ∈ userIds ∧ (entryOf? find? userId).isSome := by
  rw [finds.perm.mem_iff, List.mem_filterMap]
  constructor
  · rintro ⟨origin, member, value⟩
    obtain ⟨item, entry, equal⟩ := Option.bind_eq_some_iff.mp value
    rw [managedName_of_key (keyed origin item entry), Except.toOption, Option.some.injEq] at equal
    rw [← equal, entry]
    exact ⟨member, rfl⟩
  · rintro ⟨member, present⟩
    obtain ⟨item, entry⟩ := Option.isSome_iff_exists.mp present
    refine ⟨userId, member, Option.bind_eq_some_iff.mpr ⟨item, entry, ?_⟩⟩
    rw [managedName_of_key (keyed userId item entry)]
    rfl

/-- Asking a table finds the users that have an entry. -/
theorem managedByTable_ends {table : String}
    (serves : BatchStore.Serves store ⟨table, .provisioning⟩ find? capacity failing invariant)
    (userIds : List String)
    (enough : failing ∨ ∀ chunk ∈ chunks maxBatchKeys (distinct userIds),
      chunk.length ≤ (maxRetries + 1) * capacity)
    {state : σ} (start : invariant state) :
    (managedByTable store table userIds state).Ends failing invariant fun managed =>
      ∀ userId ∈ userIds, isManaged managed userId = (entryOf? find? userId).isSome := by
  refine Run.Ends.thenCheck (ends_inTurn_chunks (entryOf? find?) managedName
    (fun chunk inChunks => ?_) start) fun founds found => ?_
  · exact Call.Ends.bind (readChunk_ends managedSubject serves chunk
      (enough.imp_right fun within => within chunk inChunks)
      (Or.inr fun userId _ item stored => ⟨_, managedSubject_of_key (keyed userId item stored)⟩))
      fun documents found => Call.ends_known (Finds.names keyed found)
  · intro userId member
    rw [isManaged_managedMap, Bool.eq_iff_iff, List.contains_iff_mem,
      Finds.mem_names_iff keyed found]
    exact and_iff_right (mem_distinct.mpr member)

end Keyed

/-- A store of integrations answers as the store it holds. -/
theorem Delegation.serves {table : BatchTable}
    (serves : BatchStore.Serves store table find? capacity failing invariant) :
    BatchStore.Serves (Delegation.batchStore store) table find? capacity failing
      fun delegation : Delegation σ => invariant delegation.store :=
  fun partitions => (serves partitions).within (fun _ kept => kept) fun _ _ _ inner => inner

/-- Asking the first active integration tells which users are managed. Whoever asks succeeds if it
is a table that is not asked for too much at a time. -/
theorem managedByUserId_ends
    (serves : ∀ table,
      BatchStore.Serves store ⟨table, .provisioning⟩ find? capacity failing invariant)
    (delegates : List Delegate) (userIds : List String)
    (tabular : failing ∨ ∃ position table, firstActive? delegates = some (position, .table table))
    (enough : failing ∨ ∀ chunk ∈ chunks maxBatchKeys (distinct userIds),
      chunk.length ≤ (maxRetries + 1) * capacity)
    (keyed : ∀ userId item, entryOf? find? userId = some item →
      item.member? "PK" = some (.str (partitionKey userId)))
    {state : Delegation σ} (start : invariant state.store) :
    (managedByUserId delegates store userIds state).Ends failing
      (fun delegation => invariant delegation.store) fun managed =>
        ∀ userId ∈ userIds, isManaged managed userId = managedBy delegates find? userId := by
  unfold managedByUserId
  cases active : firstActive? delegates with
  | none =>
    refine Run.ends_known fun userId _ => ?_
    rw [isManaged_managedMap, managedBy, active]
    rfl
  | some entry =>
    obtain ⟨position, delegate⟩ := entry
    have asked : (delegate.ask store userIds
        { state with asked := state.asked ++ [(position, userIds)] }).Ends failing
        (fun delegation => invariant delegation.store) fun managed =>
          ∀ userId ∈ userIds, isManaged managed userId = managedBy delegates find? userId := by
      cases delegate with
      | table table =>
        cases table with
        | none =>
          refine Run.ends_known fun userId _ => ?_
          rw [isManaged_managedMap, managedBy, active]
          rfl
        | some name =>
          simp only [managedBy, active]
          exact managedByTable_ends keyed (Delegation.serves (serves name)) userIds enough start
      | fixed name isActive managed failure =>
        rcases tabular with allowed | ⟨_, _, different⟩
        · cases failure with
          | none =>
            refine Run.ends_known fun userId member => ?_
            rw [isManaged_map, managedBy, active]
            simp [member]
          | some failure => exact Run.ends_known allowed
        · rw [active, Option.some.injEq, Prod.mk.injEq] at different
          cases different.2
    refine ⟨fun entry member => ?_, asked.2⟩
    rcases List.mem_cons.mp member with rfl | inHistory
    · exact start
    · exact asked.1 entry inHistory

end Reading

end UserDirectory
