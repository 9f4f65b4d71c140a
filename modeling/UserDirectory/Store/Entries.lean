/-
A store in memory that is read by keys. It keeps records and provisioning entries on two shelves.
Each shelf answers in its own time and may fail on its own, and each notes the requests it has seen;
which of them a request goes to is told by what it asks for.
-/

import UserDirectory.Store.Batch

namespace UserDirectory

/-! ### One shelf -/

/-- A shelf of entries that are read by keys. It processes a limited number of keys at a time, and
may have answers prepared for the next calls. -/
structure BatchShelf where
  /-- The entries by their keys. -/
  items : List (String × Json) := []
  /-- How many keys of a request are processed; nothing means all. -/
  capacity : Option Nat := none
  /-- How it answers. -/
  desk : Desk := {}
  /-- The answers prepared for the next calls. -/
  prepared : List Json := []
  /-- The requests it has seen, in order, each with the table that it was about. -/
  seen : List (BatchTable × BatchRequest) := []
deriving Repr

namespace BatchShelf

/-- The entry of a key. -/
def find? (shelf : BatchShelf) (partition : String) : Option Json :=
  Json.lookup? shelf.items partition

/-- Answer from the entries: those of the first keys of the request, last first. -/
def answer (shelf : BatchShelf) (table : BatchTable) (request : BatchRequest) : BatchReply :=
  let partitions := request.partitions table
  let capacity := shelf.capacity.getD partitions.length
  ⟨((partitions.take capacity).filterMap shelf.find?).reverse,
    if partitions.length ≤ capacity then none else some (request.dropFirst table capacity)⟩

/-- Take the next prepared answer, or else answer from the entries. -/
def respond (table : BatchTable) (request : BatchRequest) : Call BatchShelf Fault BatchReply :=
  fun shelf =>
    match shelf.prepared with
    | document :: later =>
      ⟨{ shelf with prepared := later }, 0, BatchReply.ofJson table document⟩
    | [] => ⟨shelf, 0, .ok (shelf.answer table request)⟩

/-- Serve a request: note it, take the time it takes, and fail or respond. -/
def serve : BatchStore BatchShelf := fun table request => do
  Call.update fun shelf => { shelf with seen := shelf.seen ++ [(table, request)] }
  (Desk.receive none).within (·.desk) fun shelf desk => { shelf with desk := desk }
  respond table request

end BatchShelf

/-! ### Both shelves -/

/-- The entries that are read by keys. -/
structure Entries where
  /-- The records. -/
  users : BatchShelf := {}
  /-- The provisioning entries. -/
  managed : BatchShelf := {}
deriving Repr

namespace Entries

/-- Forget which requests the shelves have seen. -/
def forgetCalls (entries : Entries) : Entries :=
  ⟨{ entries.users with seen := [] }, { entries.managed with seen := [] }⟩

/-- Serve a request on the shelf it goes to. -/
def serve : BatchStore Entries := fun table request =>
  match request.kind table with
  | .user =>
    (BatchShelf.serve table request).within (·.users) fun entries shelf =>
      { entries with users := shelf }
  | .provisioning =>
    (BatchShelf.serve table request).within (·.managed) fun entries shelf =>
      { entries with managed := shelf }

end Entries

end UserDirectory
