/-
Looking up which users are managed, that is, owned by an external integration. Of the integrations
that could tell, the first active one is asked, once, about all users; if there is none, nobody is
managed. The integration that keeps its users in a table reads it by keys, a hundred at a time.
-/

import UserDirectory.Store.Batch

namespace UserDirectory

/-! ### Integrations -/

/-- An integration that can tell which users it manages. -/
inductive Delegate where
  /-- One that keeps its users in a table; without one it is not active. -/
  | table (name : Option String)
  /-- One that answers from a fixed list, or fails. -/
  | fixed (name : String) (active : Bool) (managed : List String) (failure : Option Outage)
deriving Repr, DecidableEq

/-- Whether an integration is configured. -/
def Delegate.isActive : Delegate → Bool
  | .table name => name.isSome
  | .fixed _ active _ _ => active

/-- The name of an integration. -/
def Delegate.name : Delegate → String
  | .table _ => "provisioned-users"
  | .fixed name _ _ _ => name

/-- A store that integrations read, and which integrations were asked about which users. -/
structure Delegation (σ : Type) where
  /-- The store. -/
  store : σ
  /-- The positions of the integrations that were asked, each with the users, in order. -/
  asked : List (Nat × List String) := []
deriving Repr

/-! ### The table of an integration -/

/-- The user that an entry is about, whatever kind of document it is. -/
def managedSubject (item : Json) : Except Fault Json := do
  (← item.required "PK").dropFirst partitionMarkLength

/-- Read the managed users of one chunk. They must be named by texts. -/
def readManaged {σ : Type} (store : BatchStore σ) (table : String) (userIds : List String) :
    Call σ Fault (List String) := do
  let found ← readChunk store ⟨table, .provisioning⟩ managedSubject userIds
  Call.known (found.mapM fun subject =>
    match subject.text? with
    | some userId => .ok userId
    | none => .error .unsuitable)

/-- Whether each of the users is managed: those that were found are, and found users nobody asked
about are listed behind the others. -/
def managedMap (userIds found : List String) : List (String × Bool) :=
  (distinct (userIds ++ found)).map fun userId => (userId, found.contains userId)

/-- Ask a table about users. -/
def managedByTable {σ : Type} (store : BatchStore σ) (table : String) (userIds : List String)
    (state : σ) : Run σ Fault (List (String × Bool)) :=
  let userIds := distinct userIds
  (Run.inTurn (readManaged store table) (chunks maxBatchKeys userIds) .direct state).thenCheck
    fun found => .ok (managedMap userIds found.flatten)

/-! ### The first active integration -/

/-- The first active integration and its position. -/
def firstActive? : List Delegate → Option (Nat × Delegate)
  | [] => none
  | delegate :: rest =>
    if delegate.isActive then some (0, delegate)
    else (firstActive? rest).map fun (position, delegate) => (position + 1, delegate)

/-- A store of integrations, for reading it by keys. -/
def Delegation.batchStore {σ : Type} (store : BatchStore σ) : BatchStore (Delegation σ) :=
  fun table request =>
    (store table request).within (·.store) fun delegation inner =>
      { delegation with store := inner }

/-- Ask one integration about users. -/
def Delegate.ask {σ : Type} (delegate : Delegate) (store : BatchStore σ) (userIds : List String)
    (state : Delegation σ) : Run (Delegation σ) Fault (List (String × Bool)) :=
  match delegate with
  | .table none => .known (.ok (managedMap userIds []))
  | .table (some tableName) =>
    managedByTable (Delegation.batchStore store) tableName userIds state
  | .fixed _ _ managed none =>
    .known (.ok ((distinct userIds).map fun userId => (userId, managed.contains userId)))
  | .fixed _ _ _ (some failure) => .known (.error (.outage failure))

/-- Whether each of the users is managed, as the first active integration tells. -/
def managedByUserId {σ : Type} (delegates : List Delegate) (store : BatchStore σ)
    (userIds : List String) (state : Delegation σ) :
    Run (Delegation σ) Fault (List (String × Bool)) :=
  match firstActive? delegates with
  | none => .known (.ok (managedMap userIds []))
  | some (position, delegate) =>
    let noted := { state with asked := state.asked ++ [(position, userIds)] }
    let run := delegate.ask store userIds noted
    { run with history := (.direct, noted) :: run.history, ends := 0 :: run.ends }

/-- Whether a user is managed according to the result of a look-up. -/
def isManaged (managed : List (String × Bool)) (userId : String) : Bool :=
  match managed.find? fun entry => entry.1 = userId with
  | some (_, value) => value
  | none => false

end UserDirectory
