/-
Reading everything that is stored under a key, page by page. A query names the key and the mark with
which sort keys begin. A store answers with a page and, if there is more, with the position at which
the next page starts; whoever reads asks on from there. What the pages hold is joined as they
arrive.
-/

import UserDirectory.Store.Batch

namespace UserDirectory

/-! ### Pages -/

/-- Where a page starts. -/
inductive Position where
  /-- Behind that many entries. -/
  | offset (count : Nat)
  /-- Where a store says, in its own words. -/
  | foreign (document : Json)
deriving Repr

/-- A position as a store reads it. -/
def Position.toJson : Position → Json
  | .offset count => .obj [("pos", .int count)]
  | .foreign document => document

/-- How many entries a document says come before a position, as far as that can be made out. -/
def placeIn (document : Json) : Nat :=
  match (document.member? "pos").bind (·.number?) with
  | some count => count.toNat
  | none => 0

/-- How many entries come before a position, as far as that can be made out. -/
def Position.count (position : Position) : Nat :=
  placeIn position.toJson

theorem Position.count_offset (count : Nat) : (Position.offset count).count = count := rfl

/-- A page of what is stored under a key. -/
structure Page where
  /-- What the page holds. -/
  body : Json
  /-- Where the next page starts, if there is one. -/
  continuation : Option Position
deriving Repr

/-- Read a page that a store describes, given where it keeps what the page holds. That the next
position is mentioned at all means that there is more. -/
def Page.ofJson (field : String) (default : Json) (document : Json) : Except Fault Page := do
  let body ← document.memberOr field default
  pure ⟨body, (document.member? "LastEvaluatedKey").map .foreign⟩

/-! ### Queries -/

/-- A query of what is stored under a key. -/
structure PageQuery where
  /-- The key. -/
  partition : String
  /-- How the sort keys begin. -/
  mark : String
  /-- Whether items are only counted. -/
  isCount : Bool
deriving Repr, DecidableEq

/-- What a query says of keys. -/
def keyCondition : String := "PK = :pk AND begins_with(SK, :sk_prefix)"

/-- What a request selects that asks for a number of items. -/
def countSelection : String := "COUNT"

/-- A request for the page of a query at a position, the first one if none is given, as a store
reads it. -/
def PageQuery.toJson (query : PageQuery) (start : Option Position) : Json :=
  let selection := if query.isCount then [("Select", .str countSelection)] else []
  let position := start.map fun position => ("ExclusiveStartKey", position.toJson)
  .obj ([
    ("KeyConditionExpression", .str keyCondition),
    ("ExpressionAttributeValues",
      .obj [(":pk", .str query.partition), (":sk_prefix", .str query.mark)])] ++
    selection ++ position.toList)

/-- A store that is read by pages. -/
structure PagedStore (σ : Type) where
  /-- Ask for the page of a query at a position, the first one if none is given. -/
  ask : PageQuery → Option Position → Call σ Fault Page
  /-- How many pages the store hands out for a query at most. -/
  pageBound : σ → PageQuery → Nat

/-! ### Following the pages -/

/-- Read the pages from a position on and join what they hold to what was there before. -/
def readOn {σ : Type} (store : PagedStore σ) (query : PageQuery)
    (join : Json → Json → Except Fault Json) :
    (bound : Nat) → (total : Json) → Option Position → Call σ Fault Json
  | _, total, none => Call.known (.ok total)
  | 0, _, some _ => Call.known (.error .endless)
  | bound + 1, total, some position => do
    let page ← store.ask query (some position)
    let total ← Call.known (join total page.body)
    readOn store query join bound total page.continuation

/-- Read everything that a query is about. -/
def readPages {σ : Type} (store : PagedStore σ) (query : PageQuery)
    (join : Json → Json → Except Fault Json) : Call σ Fault Json :=
  fun state => Call.run (do
    let page ← store.ask query none
    readOn store query join (store.pageBound state query) page.body page.continuation) state

/-! ### A store in memory -/

/-- What is kept of subjects: their memberships, or how many tokens they have. -/
inductive Holding where
  /-- Memberships, item by item. -/
  | items (entries : List (String × List Json))
  /-- Numbers of tokens. -/
  | counts (entries : List (String × Int))
deriving Repr

namespace Holding

/-- The items under a key. -/
def itemsOf (entries : List (String × List Json)) (key : String) : List Json :=
  match entries.find? fun entry => entry.1 = key with
  | some (_, stored) => stored
  | none => []

/-- The number under a key. -/
def countOf (entries : List (String × Int)) (key : String) : Int :=
  match entries.find? fun entry => entry.1 = key with
  | some (_, count) => count
  | none => 0

/-- How many items there are under a key. -/
def size (key : String) : Holding → Int
  | .items entries => (itemsOf entries key).length
  | .counts entries => countOf entries key

/-- What a page holds that reaches from one position to another. -/
def slice (key : String) (start : Nat) (stop : Int) : Holding → Json
  | .items entries => .arr (((itemsOf entries key).drop start).take (stop - start).toNat)
  | .counts _ => .int (stop - start)

/-- Where a store keeps what a page holds, and what it holds if that is not mentioned. -/
def field : Holding → String × Json
  | .items _ => ("Items", .arr [])
  | .counts _ => ("Count", .int 0)

/-- How the sort keys of what is kept begin. -/
def mark : Holding → String
  | .items _ => "GROUP#"
  | .counts _ => "TOKEN#"

/-- What a request selects that asks for what is kept. -/
def selection? : Holding → Option String
  | .items _ => none
  | .counts _ => some "COUNT"

/-- The subject that a request is about, if it asks for what is kept. -/
def subject? (holding : Holding) (request : Json) : Option String := do
  let condition ← (request.member? "KeyConditionExpression").bind (·.text?)
  let values ← request.member? "ExpressionAttributeValues"
  let partition ← (values.member? ":pk").bind (·.text?)
  let mark ← (values.member? ":sk_prefix").bind (·.text?)
  if condition = "PK = :pk AND begins_with(SK, :sk_prefix)" ∧ mark = holding.mark ∧
      (request.member? "Select").bind (·.text?) = holding.selection? then
    some (String.ofList (partition.toList.drop partitionMarkLength))
  else none

end Holding

/-- A store in memory that is read by pages. It may have answers prepared for the next calls about
some subjects. -/
structure PagedShelf where
  /-- What it keeps. -/
  holding : Holding
  /-- How many items a page holds, at least one; nothing means all. -/
  pageSize : Option Nat := none
  /-- How it answers. -/
  desk : Desk := {}
  /-- The answers prepared for the next calls about some subjects. -/
  prepared : List (String × List Json) := []
  /-- The subjects and positions it was asked for, in order. -/
  seen : List (String × Option Position) := []
deriving Repr

namespace PagedShelf

/-- The page of a subject that starts behind a number of items. -/
def page (shelf : PagedShelf) (key : String) (start : Nat) : Page :=
  let size := shelf.holding.size key
  let stop : Int := match shelf.pageSize with
    | some length => min (start + max length 1 : Nat) size
    | none => size
  ⟨shelf.holding.slice key start stop, if stop < size then some (.offset stop.toNat) else none⟩

/-- Take the next prepared answer about a key. -/
def takePrepared (key : String) :
    List (String × List Json) → Option (Json × List (String × List Json))
  | [] => none
  | (name, documents) :: rest =>
    if name = key then
      match documents with
      | document :: later => some (document, (name, later) :: rest)
      | [] => none
    else (takePrepared key rest).map fun (document, others) =>
      (document, (name, documents) :: others)

/-- Take the next prepared answer about a subject, or else answer with a page of what is kept. -/
def respond (key : String) (start : Nat) : Call PagedShelf Fault Page :=
  fun shelf =>
    match takePrepared key shelf.prepared with
    | some (document, later) =>
      ⟨{ shelf with prepared := later }, 0,
        Page.ofJson shelf.holding.field.1 shelf.holding.field.2 document⟩
    | none => ⟨shelf, 0, .ok (shelf.page key start)⟩

/-- Serve a request about a subject: note it, take the time it takes, and fail or respond with the
page that starts where the request says. -/
def serve (key : String) (start : Option Position) (request : Json) :
    Call PagedShelf Fault Page := do
  Call.update fun shelf => { shelf with seen := shelf.seen ++ [(key, start)] }
  (Desk.receive (some key)).within (·.desk) fun shelf desk => { shelf with desk := desk }
  respond key (((request.member? "ExclusiveStartKey").map placeIn).getD 0)

/-- Answer a request. Where it does not ask for what is kept, nothing is found. -/
def ask (query : PageQuery) (start : Option Position) : Call PagedShelf Fault Page :=
  fun shelf =>
    match shelf.holding.subject? (query.toJson start) with
    | some key => (serve key start (query.toJson start)).run shelf
    | none => ⟨shelf, 0, .ok ⟨shelf.holding.field.2, none⟩⟩

/-- A bound on the pages of a query: one for each prepared answer, one for each item, and one
more. -/
def pageBound (shelf : PagedShelf) (query : PageQuery) : Nat :=
  match shelf.holding.subject? (query.toJson none) with
  | some key =>
    (Holding.itemsOf shelf.prepared key).length + (shelf.holding.size key).toNat + 1
  | none => 0

/-- The store that a shelf is. -/
def store : PagedStore PagedShelf :=
  ⟨ask, pageBound⟩

end PagedShelf

end UserDirectory
