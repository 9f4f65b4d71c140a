/-
Documents as messages show them. Texts stand in quotes inside a message that shows a document, and
without them where a text itself is filled in.
-/

import UserDirectory.Json

namespace UserDirectory.Json

mutual

/-- A document as a message shows it. -/
def shown : Json → String
  | .null => "None"
  | .bool value => if value then "True" else "False"
  | .int value => toString value
  | .float value => value.text
  | .str value => Text.quoted value
  | .arr items => "[" ++ ", ".intercalate (shownItems items) ++ "]"
  | .obj members => "\x7b" ++ ", ".intercalate (shownMembers members) ++ "\x7d"

/-- The items of a list as a message shows them. -/
def shownItems : List Json → List String
  | [] => []
  | item :: rest => item.shown :: shownItems rest

/-- The members of an object as a message shows them. -/
def shownMembers : List (String × Json) → List String
  | [] => []
  | (name, value) :: rest => (Text.quoted name ++ ": " ++ value.shown) :: shownMembers rest

end

/-- A document as it is filled into a text. -/
def filledIn : Json → String
  | .str value => value
  | document => document.shown

end UserDirectory.Json
