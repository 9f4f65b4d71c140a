/-
Queries to the index of users. A text of moderate length is searched for inside three fields,
whatever its case; a longer one must be the whole of a field. The characters of the text that have a
meaning in a pattern are escaped first, so a pattern matches exactly the values that contain the
text.
-/

import UserDirectory.Json

namespace UserDirectory

/-! ### Clauses that match a text -/

/-- The greatest length of a text that is searched for inside a field. -/
def maxPartialLength : Nat := 15

/-- The fields that a text is searched for in. -/
def searchFields : List String := ["login", "name.raw", "email"]

/-- Replace each occurrence of a character in a text. -/
def replaceChar (c : Char) (replacement text : List Char) : List Char :=
  text.flatMap fun d => if d = c then replacement else [d]

/-- Write a text so that a pattern takes it literally. The backslashes come first: those that are
written for the other characters are not escaped again. -/
def escapePattern (text : List Char) : List Char :=
  replaceChar '?' ['\\', '?'] (replaceChar '*' ['\\', '*'] (replaceChar '\\' ['\\', '\\'] text))

/-- A condition on one field. -/
inductive FieldClause where
  /-- The field matches a pattern, whatever its case. -/
  | wildcard (field : String) (pattern : String)
  /-- The field is the text. -/
  | term (field : String) (text : String)
deriving Repr, DecidableEq

/-- The conditions of which one must hold for a text to be found. -/
def textClauses (text : String) : List FieldClause :=
  if text.length ≤ maxPartialLength then
    let pattern := String.ofList ('*' :: escapePattern text.toList ++ ['*'])
    searchFields.map fun field => .wildcard field pattern
  else searchFields.map fun field => .term field text

/-- A condition as the index reads it. -/
def FieldClause.toJson : FieldClause → Json
  | .wildcard field pattern =>
    .obj [("wildcard", .obj [(field, .obj
      [("value", .str pattern), ("case_insensitive", .bool true)])])]
  | .term field text => .obj [("term", .obj [(field, .str text)])]

/-- The query of a text as the index reads it. -/
def textQuery (text : String) : Json :=
  .obj [("bool", .obj
    [("should", .arr ((textClauses text).map FieldClause.toJson)),
     ("minimum_should_match", .int 1)])]

/-! ### Requests for one page of logins -/

/-- A request for the logins of one page. -/
structure IndexQuery where
  /-- The text to search for; an empty one means none. -/
  text : Option String
  /-- Whether active or deactivated users are searched. -/
  active : Bool
  /-- How many results come before the page. -/
  offset : Int
  /-- How many logins the page holds at most. -/
  limit : Int
deriving Repr, DecidableEq

/-- The conditions of a request: the state of the user, and the text if there is one. -/
def IndexQuery.conditions (query : IndexQuery) : Json :=
  let state : Json := .arr [.obj [("term", .obj [("active", .bool query.active)])]]
  let text := (query.text.filter (· ≠ "")).map fun text => ("must", Json.arr [textQuery text])
  .obj [("bool", .obj (("filter", state) :: text.toList))]

/-- A request as the index reads it. Results are sorted by name, those without a name last, and then
by login. -/
def IndexQuery.toJson (query : IndexQuery) : Json :=
  .obj [
    ("query", query.conditions),
    ("from", .int query.offset),
    ("size", .int query.limit),
    ("track_total_hits", .bool true),
    ("_source", .arr [.str "login"]),
    ("sort", .arr [
      .obj [("name.sort", .obj [("order", .str "asc"), ("missing", .str "_last")])],
      .obj [("login", .obj [("order", .str "asc")])]])]

end UserDirectory
