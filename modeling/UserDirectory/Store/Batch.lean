/-
Reading items by their keys, many at a time. A store answers a request with the items it found and
with the keys it left unprocessed, and whoever reads asks again for those, a limited number of
times. Requests hold a limited number of keys, so longer lists of keys are read chunk by chunk.
-/

import UserDirectory.Concurrent.Run
import UserDirectory.Json
import UserDirectory.Store.Desk

namespace UserDirectory

/-! ### Requests and replies -/

/-- A table that is read by keys, and which kind of keys. -/
structure BatchTable where
  /-- The name of the table. -/
  name : String
  /-- The kind of its keys. -/
  kind : KeyKind
deriving Repr, DecidableEq

/-- The key under which the entry of a login or an identifier is stored. -/
def partitionKey (subject : String) : String :=
  "USER#" ++ subject

/-- The number of characters before the subject of a key. -/
def partitionMarkLength : Nat := 5

/-- The sort key of the entries of a kind. -/
def KeyKind.sortKey : KeyKind → String
  | .user => "PROFILE"
  | .provisioning => "PROVISIONING"

/-- What is asked of a store: entries by their keys, or whatever it left aside in its own words. -/
inductive BatchRequest where
  /-- The entries with these keys. -/
  | keys (partitions : List String)
  /-- What a store left aside, as it said it. -/
  | verbatim (document : Json)
deriving Repr

/-- What a store answers. -/
structure BatchReply where
  /-- The entries it found. -/
  items : List Json
  /-- What it left unprocessed, if anything. -/
  unprocessed : Option BatchRequest
deriving Repr

/-- A store that is read by keys. -/
abbrev BatchStore (σ : Type) : Type :=
  BatchTable → BatchRequest → Call σ Fault BatchReply

namespace BatchRequest

/-- A request as a store reads it. -/
def toJson (table : BatchTable) : BatchRequest → Json
  | .keys partitions =>
    let wanted : Json := .arr (partitions.map fun partition =>
      .obj [("PK", .str partition), ("SK", .str table.kind.sortKey)])
    let projection : List (String × Json) := match table.kind with
      | .user => []
      | .provisioning => [("ProjectionExpression", .str "PK")]
    .obj [(table.name, .obj (("Keys", wanted) :: projection))]
  | .verbatim document => document

/-- How many keys of a table a request still holds. -/
def keyCount (table : BatchTable) (request : BatchRequest) : Except Fault Nat := do
  (← (← (request.toJson table).required table.name).required "Keys").size

/-- The keys of a table that stand in a request as a store reads it. -/
def wantedIn (table : BatchTable) (document : Json) : List Json :=
  match (document.member? table.name).bind (·.member? "Keys") with
  | some (.arr wanted) => wanted
  | _ => []

/-- The keys of a request that can be made out. -/
def partitions (table : BatchTable) (request : BatchRequest) : List String :=
  (wantedIn table (request.toJson table)).filterMap fun key => (key.member? "PK").bind (·.text?)

/-- Whether the body of a request asks for whole records by the sort key of records alone. -/
def asksForRecords (body : Json) : Bool :=
  (body.member? "ProjectionExpression").isNone && match body.member? "Keys" with
    | some (.arr wanted) =>
      wanted.all fun key => (key.member? "SK").bind (·.text?) == some KeyKind.user.sortKey
    | _ => true

/-- The kind of entries that a request asks for, as its words tell. -/
def kind (table : BatchTable) (request : BatchRequest) : KeyKind :=
  match request.toJson table with
  | .obj ((_, body) :: _) => if asksForRecords body then .user else .provisioning
  | _ => table.kind

theorem partitions_verbatim (table : BatchTable) (document : Json) :
    (verbatim document).partitions table =
      (wantedIn table document).filterMap fun key => (key.member? "PK").bind (·.text?) := rfl

/-! A request for some keys, as a store reads it. -/

section Keys

variable (table : BatchTable) (asked : List String)

theorem wantedIn_keys : wantedIn table ((keys asked).toJson table) = asked.map fun partition =>
    .obj [("PK", .str partition), ("SK", .str table.kind.sortKey)] := by
  rw [wantedIn, toJson, Json.member?_self, Option.bind_some, Json.member?_self]

theorem partitions_keys : (keys asked).partitions table = asked := by
  rw [partitions, wantedIn_keys, List.filterMap_map]
  exact List.filterMap_some

theorem keyCount_keys : (keys asked).keyCount table = .ok asked.length := by
  rw [keyCount, toJson]
  simp only [Json.required_self, bind, Except.bind]
  rw [Json.size, Json.elements, Except.map, List.length_map]

theorem kind_keys : (keys asked).kind table = table.kind := by
  rw [kind, toJson]
  cases same : table.kind with
  | user =>
    have wanted : ∀ key ∈ asked.map fun partition =>
        Json.obj [("PK", .str partition), ("SK", .str KeyKind.user.sortKey)],
        ((key.member? "SK").bind (·.text?) == some KeyKind.user.sortKey) = true := by
      intro key member
      obtain ⟨partition, _, rfl⟩ := List.mem_map.mp member
      rfl
    have forRecords : asksForRecords (.obj [("Keys", .arr (asked.map fun partition =>
        .obj [("PK", .str partition), ("SK", .str KeyKind.user.sortKey)]))]) = true :=
      List.all_eq_true.mpr wanted
    exact if_pos forRecords
  | provisioning => rfl

end Keys

/-- A request without its first keys. -/
def dropFirst (table : BatchTable) (count : Nat) : BatchRequest → BatchRequest
  | .keys partitions => .keys (partitions.drop count)
  | .verbatim document =>
    let body := ((document.member? table.name).getD (.obj [])).withMember "Keys"
      (.arr ((wantedIn table document).drop count))
    .verbatim (.obj [(table.name, body)])

end BatchRequest

/-- Read the answer of a store. -/
def BatchReply.ofJson (table : BatchTable) (document : Json) : Except Fault BatchReply := do
  let responses ← document.memberOr "Responses" (.obj [])
  let items ← (← responses.memberOr table.name (.arr [])).elements
  let unprocessed ← document.memberOr "UnprocessedKeys" .null
  pure ⟨items, if unprocessed.isPresent then some (.verbatim unprocessed) else none⟩

/-! ### Asking again for what was left aside -/

/-- The most keys of one request. -/
def maxBatchKeys : Nat := 100

/-- Ask a store, and again for what it left aside, as long as attempts remain. Each entry is looked
at as soon as it is there. -/
def readBatch {σ α : Type} (store : BatchStore σ) (table : BatchTable)
    (accept : Json → Except Fault α) : (attempts : Nat) → BatchRequest → Call σ Fault (List α)
  | 0, request => do
    let count ← Call.known (request.keyCount table)
    Call.known (.error (.leftUnprocessed count table.kind))
  | attempts + 1, request => do
    let reply ← store table request
    let found ← Call.known (reply.items.mapM accept)
    match reply.unprocessed with
    | none => pure found
    | some rest =>
      let more ← readBatch store table accept attempts rest
      pure (found ++ more)

/-- Read the entries of one chunk of subjects. -/
def readChunk {σ α : Type} (store : BatchStore σ) (table : BatchTable)
    (accept : Json → Except Fault α) (subjects : List String) : Call σ Fault (List α) :=
  readBatch store table accept (maxRetries + 1) (.keys (subjects.map partitionKey))

/-- The distinct elements of a list in the order of their first occurrence. -/
def distinct {α : Type} [BEq α] : List α → List α
  | [] => []
  | first :: rest => first :: (distinct rest).filter (!· == first)

/-- Cut a list into chunks of at most `size` elements, given the number of chunks. -/
def cut {α : Type} (size : Nat) : (count : Nat) → List α → List (List α)
  | 0, _ => []
  | count + 1, items => items.take size :: cut size count (items.drop size)

/-- The chunks of a list: all but the last one are full. -/
def chunks {α : Type} (size : Nat) (items : List α) : List (List α) :=
  cut size ((items.length + size - 1) / size) items

end UserDirectory
