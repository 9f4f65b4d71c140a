/-
The parameters of a search as a request spells them, and the answers to requests that are not
served. Each parameter is checked for itself, and all that do not spell a value are reported
together with what they were.
-/

import UserDirectory.Bearer.Claims
import UserDirectory.Criteria
import UserDirectory.ErrorBody
import UserDirectory.Search.Failure
import UserDirectory.Web.Message
import UserDirectory.Web.Query

namespace UserDirectory

/-! ### Parameters -/

/-- The parameters of a search; what a request does not name is absent. -/
structure SearchParameters where
  /-- The text to search for. -/
  query : Option String
  /-- Whether deactivated users are searched. -/
  deactivated : Option Bool
  /-- The page. -/
  page : Option Int
  /-- The size of a page. -/
  pageSize : Option Int
deriving Repr, DecidableEq

namespace SearchParameters

/-- Check a parameter if the request names it. -/
def checkNamed {α : Type} (entries : List (String × String)) (name : String)
    (check : Json → Checked α) : Checked (Option α) :=
  match Query.value? entries name with
  | some spelled => ((check (.str spelled)).under (.field name)).map some
  | none => .valid none

/-- Check the parameters of a request. -/
def check (entries : List (String × String)) : Checked SearchParameters :=
  SearchParameters.mk
    <$> checkNamed entries Parameter.query.name Checked.text
    <*> checkNamed entries "deactivated" Checked.flag
    <*> checkNamed entries Parameter.page.name Checked.whole
    <*> checkNamed entries Parameter.pageSize.name Checked.whole

/-- The criteria of the parameters. -/
def criteria (parameters : SearchParameters) : Except Refusal Criteria :=
  Criteria.ofParameters parameters.query parameters.deactivated parameters.page
    parameters.pageSize

end SearchParameters

/-! ### Answers to requests that are not served -/

/-- An error answer. -/
def ErrorBody.response (body : ErrorBody) (status : Nat) : Response :=
  ⟨status, .document (body.toJson status), []⟩

/-- The answer to a caller whose token is rejected. -/
def TokenComplaint.response (complaint : TokenComplaint) : Response :=
  ErrorBody.response ⟨.ofStatus 401, complaint.message, none, none, none⟩ 401

/-- The answer to a caller who is not known for sure. -/
def TokenFailure.response : TokenFailure → Response
  | .rejected complaint => complaint.response
  | .fault _ => .internalError

/-- A parameter that does not spell a value, with what it was. -/
def FieldProblem.report (entries : List (String × String)) (problem : FieldProblem) : Json :=
  let names := problem.path.filterMap fun
    | .field name => some name
    | .index _ => none
  let spelled := (names.head?.bind (Query.value? entries)).getD ""
  .obj [
    ("type", .str problem.defect.code),
    ("loc", .arr (.str "query" :: names.map .str)),
    ("msg", .str problem.defect.message),
    ("input", .str spelled)]

/-- The answer to parameters that do not spell values. -/
def unreadableParameters (entries : List (String × String)) (problems : List FieldProblem) :
    Response :=
  ⟨422, .document (.obj [("detail", .arr (problems.map (·.report entries)))]), []⟩

/-- The answer to parameters that violate a limit. -/
def Violation.response (violation : Violation) : Response :=
  ErrorBody.response ⟨.ofStatus 400, violation.message, none, some violation.parameter.name,
    some [("limit", .int violation.limit)]⟩ 400

/-- The answer to parameters that are refused. -/
def Refusal.response : Refusal → Response
  | .violation objection => objection.response
  | .fault _ => .internalError

/-- The answer when a service that the search depends on fails. -/
def DependencyFailure.response (failure : DependencyFailure) : Response :=
  let status : Nat := if failure.timedOut then 504 else 503
  ErrorBody.response ⟨.ofStatus status, "A backing service is unavailable, please retry later.",
    some failure.detail, none, some [("dependency", .str failure.dependency.label)]⟩ status

/-- The answer to a search that fails. -/
def SearchFailure.response : SearchFailure → Response
  | .dependency failure => failure.response
  | .assembly _ => .internalError

end UserDirectory
