/-
What can go wrong while an answer is put together, by cause. A fault is a value like any other: it
is raised by the reading of a document, by a store that fails, or by a rule of the directory, and
the wording of each is a function of its cause. Messages are worded in one place so that a caller
and a log see the same text.
-/

import UserDirectory.Number.Reading
import UserDirectory.Timestamp.Writer

namespace UserDirectory

/-! ### Failures that come from outside -/

/-- The kinds of failure that a store or another collaborator reports. -/
inductive OutageKind where
  /-- A failure without a narrower kind. -/
  | general
  /-- A failure of the collaborator's own work. -/
  | runtime
  /-- A value it cannot use. -/
  | value
  /-- A key it does not have. -/
  | key
  /-- A connection that could not be made or was lost. -/
  | connection
  /-- The collaborator gave up waiting. -/
  | timeout
  /-- Keys were left unprocessed. -/
  | unprocessed
  /-- The service rejected an operation with an error code. -/
  | client (code operation : String)
deriving Repr, DecidableEq

/-- A failure that comes from outside. -/
structure Outage where
  /-- Its kind. -/
  kind : OutageKind
  /-- What the collaborator said. -/
  message : String
deriving Repr, DecidableEq

/-- The wording of an outage. A key is shown in quotes, and a rejected operation is named. -/
def Outage.text (outage : Outage) : String :=
  match outage.kind with
  | .key => Text.quoted outage.message
  | .client code operation =>
    "An error occurred (" ++ code ++ ") when calling the " ++ operation ++ " operation: "
      ++ outage.message
  | _ => outage.message

/-! ### Fields that are not what they should be -/

/-- What is wrong with a field. -/
inductive Defect where
  /-- It is no text. -/
  | notText
  /-- It is no truth value. -/
  | notFlag
  /-- It does not spell a truth value. -/
  | unreadableFlag
  /-- It is no whole number. -/
  | notWhole
  /-- It does not spell a whole number. -/
  | unreadableWhole
  /-- It spells a whole number with too many digits. -/
  | oversizedWhole
  /-- It is a number with a fraction where a whole one is due. -/
  | fractional
  /-- It is a number that is not finite where a whole one is due. -/
  | notFinite
  /-- It is no object. -/
  | notObject
  /-- It is no list. -/
  | notList
  /-- It is not there. -/
  | absent
deriving Repr, DecidableEq

/-- The code of a defect. -/
def Defect.code : Defect → String
  | .notText => "string_type"
  | .notFlag => "bool_type"
  | .unreadableFlag => "bool_parsing"
  | .notWhole => "int_type"
  | .unreadableWhole => "int_parsing"
  | .oversizedWhole => "int_parsing_size"
  | .fractional => "int_from_float"
  | .notFinite => "finite_number"
  | .notObject => "dict_type"
  | .notList => "list_type"
  | .absent => "missing"

/-- The wording of a defect. -/
def Defect.message : Defect → String
  | .notText => "Input should be a valid string"
  | .notFlag => "Input should be a valid boolean"
  | .unreadableFlag => "Input should be a valid boolean, unable to interpret input"
  | .notWhole => "Input should be a valid integer"
  | .unreadableWhole => "Input should be a valid integer, unable to parse string as an integer"
  | .oversizedWhole => "Unable to parse input string as an integer, exceeded maximum size"
  | .fractional => "Input should be a valid integer, got a number with a fractional part"
  | .notFinite => "Input should be a finite number"
  | .notObject => "Input should be a valid dictionary"
  | .notList => "Input should be a valid list"
  | .absent => "Field required"

/-- A step on the way to a field. -/
inductive PathStep where
  /-- Into the member of that name. -/
  | field (name : String)
  /-- To the element at that index. -/
  | index (position : Nat)
deriving Repr, DecidableEq

/-- A field that is not what it should be. -/
structure FieldProblem where
  /-- Where the field is. -/
  path : List PathStep
  /-- What is wrong with it. -/
  defect : Defect
deriving Repr, DecidableEq

/-! ### Faults -/

/-- The two kinds of keys that are read in batches. -/
inductive KeyKind where
  /-- Keys of user records. -/
  | user
  /-- Keys of provisioning entries. -/
  | provisioning
deriving Repr, DecidableEq

/-- The word for a kind of keys. -/
def KeyKind.word : KeyKind → String
  | .user => "user"
  | .provisioning => "provisioning"

/-- What can go wrong while an answer is put together. -/
inductive Fault where
  /-- A value of a kind that the operation does not take. -/
  | unsuitable
  /-- A value of a kind that does not have the operation. -/
  | lacksMember
  /-- An object lacks a member. -/
  | missing (name : String)
  /-- Fields that are not what they should be. -/
  | malformed (fields : List FieldProblem)
  /-- A text that names no point in time. -/
  | timestamp (problem : Timestamp.Problem)
  /-- Keys that a batch read had to give up on. -/
  | leftUnprocessed (count : Nat) (kind : KeyKind)
  /-- A chain of pages that does not end. -/
  | endless
  /-- A user without an email has no avatar. -/
  | noEmail (login : String)
  /-- A setting that is no number. -/
  | notAFloat (text : String)
  /-- A number with too many digits to be written. -/
  | unwritable
  /-- A whole number beyond the largest floating-point number. -/
  | beyondFloats
  /-- A number of permits below zero. -/
  | negativePermits
  /-- Tokens cannot be checked without a tenant and a client. -/
  | tokensNotConfigured
  /-- A published key is for tokens that are not signed. -/
  | unsignedKey
  /-- A code, as messages show it, that names no error. -/
  | unknownErrorCode (shown : String)
  /-- A failure that comes from outside. -/
  | outage (cause : Outage)
deriving Repr, DecidableEq

/-- How often keys left unprocessed are asked for again. -/
def maxRetries : Nat := 3

/-- The wording of a fault. -/
def Fault.message : Fault → String
  | .unsuitable => "a value of this kind cannot be used here"
  | .lacksMember => "a value of this kind has no such member"
  | .missing name => Text.quoted name
  | .malformed fields => toString fields.length ++ " fields are not valid"
  | .timestamp problem => problem.message
  | .leftUnprocessed count kind =>
    toString count ++ " " ++ kind.word ++ " keys left unprocessed after " ++ toString maxRetries
      ++ " retries"
  | .endless => "the pages do not end"
  | .noEmail login => "User " ++ login ++ " has no email, cannot build an avatar"
  | .notAFloat text => Number.notAFloat text
  | .unwritable => Number.unwritable
  | .beyondFloats => "int too large to convert to float"
  | .negativePermits => "Semaphore initial value must be >= 0"
  | .tokensNotConfigured =>
    "ENTRA_TENANT_ID and ENTRA_CLIENT_ID environment variables are required"
  | .unsignedKey => ""
  | .unknownErrorCode shown => shown ++ " is not a valid ErrorCode"
  | .outage cause => cause.text

/-- Whether a fault says that somebody gave up waiting. -/
def Fault.isTimeout : Fault → Bool
  | .outage cause => cause.kind = .timeout
  | _ => false

end UserDirectory
