/-
The body of an error answer. It names the error by a code and a message, may add a detail, the field
at fault and further data, and repeats the status of the answer. Parts that are absent are left out.
-/

import UserDirectory.Checked
import UserDirectory.Json.Shown

namespace UserDirectory

/-! ### Codes -/

/-- The codes of errors. -/
inductive ErrorCode where
  /-- The request cannot be served as it stands. -/
  | badRequest
  /-- The caller is not who it says it is. -/
  | unauthorized
  /-- The caller may not do this. -/
  | forbidden
  /-- There is no such thing. -/
  | notFound
  /-- A parameter is not what it should be. -/
  | validationError
  /-- The service failed. -/
  | internalError
  /-- A service that this one depends on failed. -/
  | serviceUnavailable
  /-- A service that this one depends on did not answer in time. -/
  | timeout
deriving Repr, DecidableEq

namespace ErrorCode

/-- All codes. -/
def all : List ErrorCode :=
  [.badRequest, .unauthorized, .forbidden, .notFound, .validationError, .internalError,
   .serviceUnavailable, .timeout]

/-- The name of a code. -/
def name : ErrorCode → String
  | .badRequest => "bad_request"
  | .unauthorized => "unauthorized"
  | .forbidden => "forbidden"
  | .notFound => "not_found"
  | .validationError => "validation_error"
  | .internalError => "internal_error"
  | .serviceUnavailable => "service_unavailable"
  | .timeout => "timeout"

/-- The code that a document names. -/
def ofJson (document : Json) : Except Fault ErrorCode :=
  match all.find? fun code => document.text? == some code.name with
  | some code => .ok code
  | none => .error (.unknownErrorCode document.shown)

/-- The code of the errors that are answered with a status. -/
def ofStatus (status : Int) : ErrorCode :=
  if status = 400 then .badRequest
  else if status = 401 then .unauthorized
  else if status = 403 then .forbidden
  else if status = 404 then .notFound
  else if status = 422 then .validationError
  else if status = 503 then .serviceUnavailable
  else if status = 504 then .timeout
  else .internalError

/-- The code for a document in place of a status. Only a number can be a status, and a list or an
object cannot even be compared with one. -/
def ofStatusJson : Json → Except Fault ErrorCode
  | .arr _ | .obj _ => .error .unsuitable
  | .int status => .ok (ofStatus status)
  | .float status => .ok ((status.whole?.map ofStatus).getD .internalError)
  | _ => .ok .internalError

end ErrorCode

/-! ### Bodies -/

/-- What is said of an error. -/
structure ErrorBody where
  /-- The code. -/
  code : ErrorCode
  /-- What happened. -/
  message : String
  /-- What exactly happened. -/
  detail : Option String := none
  /-- The field at fault. -/
  field : Option String := none
  /-- Further data. -/
  metadata : Option (List (String × Json)) := none
deriving Repr

/-- The status of error answers for which none is given. -/
def defaultErrorStatus : Int := 500

namespace ErrorBody

/-- An object, or nothing. -/
def checkMetadata : Json → Checked (Option (List (String × Json)))
  | .null => .valid none
  | .obj members => .valid (some members)
  | _ => Checked.defect .notObject

/-- Check the parts of a body. -/
def check (code : ErrorCode) (message detail field metadata : Json) : Checked ErrorBody :=
  ErrorBody.mk code
    <$> (Checked.text message).under (.field "message")
    <*> (Checked.optionalText detail).under (.field "detail")
    <*> (Checked.optionalText field).under (.field "field")
    <*> (checkMetadata metadata).under (.field "metadata")

/-- A body as it is sent with a status, whatever kind of document the status is. -/
def sentWith (body : ErrorBody) (status : Json) : Json :=
  let optional (name : String) (value : Option Json) : List (String × Json) :=
    (value.map fun value => (name, value)).toList
  .obj [
    ("error", .obj (
      [("code", .str body.code.name), ("message", .str body.message)]
        ++ optional "detail" (body.detail.map .str)
        ++ optional "field" (body.field.map .str)
        ++ optional "metadata" (body.metadata.map .obj))),
    ("status_code", status)]

/-- A body as it is sent with a status. -/
def toJson (body : ErrorBody) (status : Int) : Json :=
  body.sentWith (.int status)

end ErrorBody

end UserDirectory
