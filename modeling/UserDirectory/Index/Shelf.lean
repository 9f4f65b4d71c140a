/-
The index of users: how its answers are read, and an index in memory. An answer is a document whose
shape is not guaranteed; the logins and the total are taken out of it and checked. Before the first
search the index may have to be created with its fields. An index in memory knows of a search what
its body says.
-/

import UserDirectory.Checked
import UserDirectory.Index.Query
import UserDirectory.Store.Desk

namespace UserDirectory

/-! ### Answers of the index -/

/-- One page of logins as the index found them. -/
structure IndexPage where
  /-- The logins of the page. -/
  logins : List String
  /-- How many users there are on all pages. -/
  total : Int
deriving Repr, DecidableEq

/-- The parts of an answer that are looked at, not checked yet. -/
structure IndexAnswer where
  /-- The logins. -/
  logins : List Json
  /-- The total. -/
  total : Json
deriving Repr

namespace IndexAnswer

/-- The login of a hit. -/
def loginOf (hit : Json) : Except Fault Json := do
  (← hit.required "_source").required "login"

/-- The parts of an answer. The total may be wrapped in an object. -/
def ofJson (document : Json) : Except Fault IndexAnswer := do
  let hits ← document.memberOr "hits" (.obj [])
  let total ← hits.memberOr "total" (.int 0)
  let total ← match total with
    | .obj _ => total.memberOr "value" (.int 0)
    | _ => .ok total
  let found ← (← hits.memberOr "hits" (.arr [])).elements
  pure ⟨← found.mapM loginOf, total⟩

/-- Check the parts of an answer. -/
def check (answer : IndexAnswer) : Checked IndexPage :=
  IndexPage.mk
    <$> (Checked.texts answer.logins).under (.field "logins")
    <*> (Checked.whole answer.total).under (.field "total")

end IndexAnswer

/-! ### The fields of the index -/

/-- A field that is compared as a whole. -/
def keywordField : Json := .obj [("type", .str "keyword")]

/-- The settings and fields that the index is created with. Names are kept for searching, as they
are, and lower-cased for sorting. -/
def indexMapping : Json :=
  .obj [
    ("settings", .obj [
      ("index", .obj [("number_of_shards", .int 1), ("number_of_replicas", .int 0)]),
      ("analysis", .obj [("normalizer", .obj [("lowercase_sort",
        .obj [("type", .str "custom"), ("filter", .arr [.str "lowercase"])])])])]),
    ("mappings", .obj [("properties", .obj [
      ("uuid", keywordField),
      ("login", keywordField),
      ("name", .obj [("type", .str "text"), ("fields", .obj [
        ("raw", keywordField),
        ("sort", .obj [("type", .str "keyword"), ("normalizer", .str "lowercase_sort")])])]),
      ("email", keywordField),
      ("active", .obj [("type", .str "boolean")]),
      ("scmAccounts", keywordField)])])]

/-! ### Calls -/

/-- A call that an index has seen. -/
inductive IndexCall where
  /-- A search in the index of a name. -/
  | search (name : String) (query : IndexQuery)
  /-- A question whether there is an index of a name. -/
  | exist (name : String)
  /-- The creation of an index. -/
  | create (name : String)
deriving Repr, DecidableEq

namespace IndexCall

/-- A call as an index sees it. -/
def toJson : IndexCall → Json
  | .search name query => .obj [("index", .str name), ("body", query.toJson)]
  | .exist name => .obj [("exists", .str name)]
  | .create name => .obj [("create", .str name), ("body", indexMapping)]

/-- What a call carries beyond the name of an index. -/
def body (call : IndexCall) : Json :=
  (call.toJson.member? "body").getD (.obj [])

end IndexCall

/-! ### An index in memory -/

/-- What an index in memory answers from. -/
inductive IndexContent where
  /-- From all logins in order, and the total if it is not their number. -/
  | listed (logins : List Json) (total : Option Json)
  /-- With one answer for all. -/
  | fixed (document : Json)
deriving Repr

/-- The place in a list that a whole number means: from the end if it is negative. -/
def placeOf (length : Nat) (place : Int) : Nat :=
  if place < 0 then (length + place).toNat else min place.toNat length

/-- The elements between two places. -/
def between {α : Type} (items : List α) (start stop : Int) : List α :=
  let first := placeOf items.length start
  (items.drop first).take (placeOf items.length stop - first)

/-- The whole number that a document names, or another one if it names none. -/
def wholeNamed (document : Json) (name : String) (otherwise : Int) : Int :=
  ((document.member? name).bind (·.number?)).getD otherwise

/-- The answer to a search, given its body. Where the page starts and how much it holds is taken
from there. -/
def IndexContent.answer (content : IndexContent) (body : Json) : Except Fault IndexAnswer :=
  match content with
  | .listed logins total =>
    let first := wholeNamed body "from" 0
    .ok ⟨between logins first (first + wholeNamed body "size" 10),
      total.getD (.int logins.length)⟩
  | .fixed document => IndexAnswer.ofJson document

/-- An index in memory. -/
structure IndexShelf where
  /-- What it answers from. -/
  content : IndexContent := .listed [] none
  /-- The names of the indices there are. -/
  existing : List String := []
  /-- How it answers searches and questions. -/
  desk : Desk := {}
  /-- How it answers creations. -/
  creation : Desk := {}
  /-- The calls it has seen, in order. -/
  seen : List IndexCall := []
deriving Repr

namespace IndexShelf

/-- Note a call. -/
def note (call : IndexCall) : Call IndexShelf Fault Unit :=
  Call.update fun shelf => { shelf with seen := shelf.seen ++ [call] }

/-- Take the time that searches and questions take, and perhaps fail. -/
def attend : Call IndexShelf Fault Unit :=
  (Desk.receive none).within (·.desk) fun shelf desk => { shelf with desk := desk }

/-- Take the time that creations take, and perhaps fail. -/
def attendCreation : Call IndexShelf Fault Unit :=
  (Desk.receive none).within (·.creation) fun shelf desk => { shelf with creation := desk }

/-- Search one page of logins. -/
def search (name : String) (query : IndexQuery) : Call IndexShelf Fault IndexPage := do
  note (.search name query)
  attend
  let answer ← (fun shelf =>
    ⟨shelf, 0, shelf.content.answer (IndexCall.search name query).body⟩ : Call _ _ _)
  Call.known answer.check.outcome

/-- Ask whether there is an index. -/
def exist (name : String) : Call IndexShelf Fault Bool := do
  note (.exist name)
  attend
  fun shelf => ⟨shelf, 0, .ok (shelf.existing.contains name)⟩

/-- Create an index. -/
def create (name : String) : Call IndexShelf Fault Unit := do
  note (.create name)
  attendCreation
  Call.update fun shelf => { shelf with existing := shelf.existing ++ [name] }

end IndexShelf

end UserDirectory
