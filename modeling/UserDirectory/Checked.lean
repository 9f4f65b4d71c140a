/-
Checking documents field by field. A check of several fields does not stop at the first problem: it
gathers the problems of all fields in the order of the fields, and there is a result only if there
are none.
-/

import UserDirectory.Json

namespace UserDirectory

/-- A value, or the problems of the fields it was to be made of. -/
inductive Checked (α : Type) where
  /-- Every field is as it should be. -/
  | valid (value : α)
  /-- Some fields are not. -/
  | invalid (fields : List FieldProblem)
deriving Repr, DecidableEq

namespace Checked

/-- Apply a function to a value under check. -/
def map {α β : Type} (function : α → β) : Checked α → Checked β
  | .valid value => .valid (function value)
  | .invalid fields => .invalid fields

/-- Apply a function under check to an argument under check, gathering the problems of both. -/
def apply {α β : Type} (function : Checked (α → β)) (argument : Checked α) : Checked β :=
  match function, argument with
  | .valid function, .valid value => .valid (function value)
  | .invalid fields, .valid _ => .invalid fields
  | .valid _, .invalid fields => .invalid fields
  | .invalid first, .invalid second => .invalid (first ++ second)

instance : Applicative Checked where
  pure := .valid
  map := map
  seq function argument := apply function (argument ())

/-- Put a check one step further down the path. -/
def under {α : Type} (step : PathStep) : Checked α → Checked α
  | .valid value => .valid value
  | .invalid fields => .invalid (fields.map fun field => { field with path := step :: field.path })

/-- A check that found one defect. -/
def defect {α : Type} (defect : Defect) : Checked α :=
  .invalid [⟨[], defect⟩]

/-- The outcome of a check, as a fault if there are problems. -/
def outcome {α : Type} : Checked α → Except Fault α
  | .valid value => .ok value
  | .invalid fields => .error (.malformed fields)

/-! ### Fields of one kind -/

/-- A text. -/
def text : Json → Checked String
  | .str value => .valid value
  | _ => defect .notText

/-- A text, or nothing. -/
def optionalText : Json → Checked (Option String)
  | .null => .valid none
  | document => (text document).map some

/-- Whether a number fits into a word of sixty-four bits with a sign. -/
def fitsWord (value : Int) : Bool :=
  -(Nat.pow 2 63 : Nat) ≤ value && value < (Nat.pow 2 63 : Nat)

/-- A truth value as a number: zero or one. A number too large for a word is not even taken for an
attempt at one. -/
def numericFlag (value : Int) : Checked Bool :=
  if value = 0 then .valid false
  else if value = 1 then .valid true
  else if fitsWord value then defect .unreadableFlag
  else defect .notFlag

/-- A truth value: one as such, zero or one, or a word for one. -/
def flag : Json → Checked Bool
  | .bool value => .valid value
  | .int value => numericFlag value
  | .float value =>
    match value.whole? with
    | some value => numericFlag value
    | none => defect .notFlag
  | .str value =>
    match Number.parameterBool? value with
    | some value => .valid value
    | none => defect .unreadableFlag
  | _ => defect .notFlag

/-- The defect of a text that is not accepted as a whole number. -/
def wholeDefect : Number.IntegerProblem → Defect
  | .unreadable => .unreadableWhole
  | .oversized => .oversizedWhole

/-- A whole number as a floating-point number: it must be finite, have no fraction and fit into a
word. -/
def wholeFloat (value : Binary64) : Checked Int :=
  match value.toRat?, value.whole? with
  | none, _ => defect .notFinite
  | some _, none => defect .fractional
  | some _, some value => if fitsWord value then .valid value else defect .unreadableWhole

/-- A whole number: one as such, a floating-point number without a fraction, a truth value, or a
text that spells one. -/
def whole : Json → Checked Int
  | .int value => .valid value
  | .float value => wholeFloat value
  | .bool value => .valid (if value then 1 else 0)
  | .str value =>
    match Number.parameterInteger value with
    | .ok value => .valid value
    | .error problem => defect (wholeDefect problem)
  | _ => defect .notWhole

/-- A whole number, or nothing. -/
def optionalWhole : Json → Checked (Option Int)
  | .null => .valid none
  | document => (whole document).map some

/-- Check each element, from the given index on. -/
def eachFrom {α : Type} (check : Json → Checked α) (position : Nat) : List Json → Checked (List α)
  | [] => .valid []
  | document :: rest =>
    List.cons <$> (check document).under (.index position) <*> eachFrom check (position + 1) rest

/-- A list of texts. -/
def texts (documents : List Json) : Checked (List String) :=
  eachFrom text 0 documents

/-- A list of texts as a document. -/
def textList : Json → Checked (List String)
  | .arr items => texts items
  | _ => defect .notList

/-! ### Members of an object -/

/-- A member of an object, or a default if it has none. -/
def memberOr {α : Type} (name : String) (default : α) (check : Json → Checked α)
    (document : Json) : Checked α :=
  match document.member? name with
  | some value => (check value).under (.field name)
  | none => .valid default

/-- A member that an object must have. -/
def member {α : Type} (name : String) (check : Json → Checked α) (document : Json) : Checked α :=
  match document.member? name with
  | some value => (check value).under (.field name)
  | none => (defect .absent).under (.field name)

end Checked

end UserDirectory
