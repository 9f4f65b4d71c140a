/-
JSON documents, and what can be asked of one whose shape is not known. Stored items, index answers
and token claims arrive as such documents; nothing is known of them but that they are JSON. Whole
numbers are kept apart from those that were written with a fraction or an exponent, yet the two are
compared and added by value. A question that the document at hand cannot answer is a fault, and
which fault it is depends on the kind of the document.
-/

import UserDirectory.Fault

namespace UserDirectory

/-- A JSON document. Objects keep their members in order. -/
inductive Json where
  /-- The null value. -/
  | null
  /-- A truth value. -/
  | bool (value : Bool)
  /-- A whole number. -/
  | int (value : Int)
  /-- A number that is written with a fraction or an exponent, or is not finite. -/
  | float (value : Binary64)
  /-- A text. -/
  | str (value : String)
  /-- A list. -/
  | arr (items : List Json)
  /-- An object. -/
  | obj (members : List (String × Json))
deriving Repr, Inhabited

namespace Json

/-! ### Questions every document answers -/

/-- Whether a document counts as present: null, false, zero and everything empty do not. -/
def isPresent : Json → Bool
  | .null => false
  | .bool value => value
  | .int value => value ≠ 0
  | .float value => !value.isZero
  | .str value => value ≠ ""
  | .arr items => !items.isEmpty
  | .obj members => !members.isEmpty

/-- A document if it counts as present, and another one otherwise. -/
def orElse (document other : Json) : Json :=
  if document.isPresent then document else other

/-- The value of a name among members. -/
def lookup? (members : List (String × Json)) (name : String) : Option Json :=
  (members.find? fun member => member.1 = name).map (·.2)

/-- The value of a member, if the document is an object that has it. -/
def member? (name : String) : Json → Option Json
  | .obj members => lookup? members name
  | _ => none

theorem member?_self (name : String) (value : Json) (rest : List (String × Json)) :
    (Json.obj ((name, value) :: rest)).member? name = some value := by
  rw [member?, lookup?, List.find?_cons_of_pos (by simp), Option.map_some]

theorem member?_of_ne {name other : String} (different : name ≠ other) (value : Json)
    (rest : List (String × Json)) :
    (Json.obj ((name, value) :: rest)).member? other = (Json.obj rest).member? other := by
  rw [member?, lookup?, List.find?_cons_of_neg (by simpa using different)]
  rfl

/-- An object with a value for a member, in place of the one it has. -/
def withMember (document : Json) (name : String) (value : Json) : Json :=
  match document with
  | .obj members => .obj ((members.filter fun member => member.1 ≠ name) ++ [(name, value)])
  | _ => document

/-- The text of a document that is one. -/
def text? : Json → Option String
  | .str value => some value
  | _ => none

/-! ### Questions that only some documents answer -/

/-- The value of a member of an object, or a default if it has none. -/
def memberOr (document : Json) (name : String) (default : Json) : Except Fault Json :=
  match document with
  | .obj members => .ok ((lookup? members name).getD default)
  | _ => .error .lacksMember

/-- The value of a member that an object must have. -/
def required (name : String) : Json → Except Fault Json
  | .obj members =>
    match lookup? members name with
    | some value => .ok value
    | none => .error (.missing name)
  | _ => .error .unsuitable

theorem required_self (name : String) (value : Json) (rest : List (String × Json)) :
    (Json.obj ((name, value) :: rest)).required name = .ok value := by
  have named : lookup? ((name, value) :: rest) name = some value := member?_self name value rest
  rw [required, named]

/-- The elements of a document: the items of a list, the characters of a text, the names of an
object. -/
def elements : Json → Except Fault (List Json)
  | .arr items => .ok items
  | .str value => .ok (value.toList.map fun c => .str c.toString)
  | .obj members => .ok (members.map fun member => .str member.1)
  | _ => .error .unsuitable

/-- How many elements a document has. -/
def size (document : Json) : Except Fault Nat :=
  document.elements.map List.length

/-- A text or a list without its first elements. -/
def dropFirst (count : Nat) : Json → Except Fault Json
  | .str value => .ok (.str (String.ofList (value.toList.drop count)))
  | .arr items => .ok (.arr (items.drop count))
  | _ => .error .unsuitable

/-! ### Numbers -/

/-- The whole number that a whole number or a truth value stands for. -/
def number? : Json → Option Int
  | .int value => some value
  | .bool value => some (if value then 1 else 0)
  | _ => none

/-- Whether a document stands for a number. -/
def isNumeric : Json → Bool
  | .float _ => true
  | document => document.number?.isSome

/-- The point of a document on the line of numbers, if it stands for a number that has one. -/
def point? : Json → Option Binary64.Point
  | .float value => value.point?
  | document => document.number?.map fun value => .exactly value

/-- The floating-point number that is nearest to what a document stands for. -/
def nearestFloat (document : Json) : Except Fault Binary64 :=
  match document, document.number? with
  | .float value, _ => .ok value
  | _, some value =>
    match Binary64.ofInt? value with
    | some value => .ok value
    | none => .error .beyondFloats
  | _, none => .error .unsuitable

/-- Add two numbers. The sum is whole if both are. -/
def plusNumber (first second : Json) : Except Fault Json :=
  match first.number?, second.number? with
  | some first, some second => .ok (.int (first + second))
  | _, _ =>
    if first.isNumeric && second.isNumeric then do
      pure (.float ((← first.nearestFloat).plus (← second.nearestFloat)))
    else .error .unsuitable

/-! ### Running sums -/

/-- Add a document to a running sum: numbers are added, texts joined, and a list takes up the
elements of anything that has some. -/
def plus : Json → Json → Except Fault Json
  | .str first, .str second => .ok (.str (first ++ second))
  | .arr items, other => other.elements.map fun more => .arr (items ++ more)
  | first, second => first.plusNumber second

/-- Append the elements of a document to a list. -/
def extend : Json → Json → Except Fault Json
  | .arr items, more => more.elements.map fun more => .arr (items ++ more)
  | _, _ => .error .lacksMember

/-! ### Equality of values -/

mutual

/-- Whether two documents have the same value. Truth values are the numbers they stand for, numbers
are the same if their values are, what is no number is the same as itself, and the order of members
does not matter. -/
def same : Json → Json → Bool
  | .null, .null => true
  | .str first, .str second => first = second
  | .arr first, .arr second => sameItems first second
  | .obj first, .obj second => first.length = second.length && sameMembers first second
  | .float .nan, .float .nan => true
  | first, second =>
    match first.point?, second.point? with
    | some first, some second => first = second
    | _, _ => false

/-- Whether two lists have the same values. -/
def sameItems : List Json → List Json → Bool
  | [], [] => true
  | first :: firsts, second :: seconds => same first second && sameItems firsts seconds
  | _, _ => false

/-- Whether each member has the same value among other members. -/
def sameMembers : List (String × Json) → List (String × Json) → Bool
  | [], _ => true
  | (name, value) :: rest, others =>
    (match lookup? others name with
      | some other => same value other
      | none => false) && sameMembers rest others

end

/-! ### Order -/

mutual

/-- Whether one document comes strictly before another. Numbers are ordered by value, texts by code
points, lists element by element; nothing else is ordered. -/
def before : Json → Json → Except Fault Bool
  | .str first, .str second => .ok (first < second)
  | .arr first, .arr second => beforeAll first second
  | first, second =>
    match first.point?, second.point? with
    | some first, some second => .ok (first.isBelow second)
    | _, _ => if first.isNumeric && second.isNumeric then .ok false else .error .unsuitable

/-- Whether one list comes strictly before another: the first elements that differ decide. -/
def beforeAll : List Json → List Json → Except Fault Bool
  | [], [] => .ok false
  | [], _ :: _ => .ok true
  | _ :: _, [] => .ok false
  | first :: firsts, second :: seconds =>
    if same first second then beforeAll firsts seconds else before first second

end

/-- Insert a document into a sorted list, in front of those that are equal. -/
def insertSorted (document : Json) : List Json → Except Fault (List Json)
  | [] => .ok [document]
  | first :: rest => do
    if ← before first document then pure (first :: (← insertSorted document rest))
    else pure (document :: first :: rest)

/-- Sort documents; equal ones keep their order. There is no sorted list of documents that cannot be
compared. -/
def sort : List Json → Except Fault (List Json)
  | [] => .ok []
  | first :: rest => do insertSorted first (← sort rest)

end Json

end UserDirectory
