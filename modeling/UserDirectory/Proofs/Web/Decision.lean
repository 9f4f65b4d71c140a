/-
This file proves in which order a search request is decided. Who asks comes first,
then whether the parameters spell values, then whether they keep the limits, and
only then is anything searched; the first objection is the answer, and up to there
no store is asked. The order is a relation with a way for each objection. Some way
always leads to the answer, and no way leads elsewhere. Each error answer repeats
its status and names the code of it. One objection cannot be put into words: a page
so far behind the limit that the number of its last result has too many digits.
-/

import UserDirectory.Proofs.Search.Limits
import UserDirectory.Proofs.Search.Views
import UserDirectory.Web.Site

namespace UserDirectory

/-! ### Error answers -/

/-- What stands in a document under some names, one inside the other. -/
def Json.at? (document : Json) : List String → Option Json
  | [] => some document
  | name :: rest => (document.member? name).bind fun member => member.at? rest

/-- The body of an error answer: it repeats the status, names the code of it, and lists no users. -/
structure Json.IsError (body : Json) (status : Nat) : Prop where
  repeated : body.at? ["status_code"] = some (.int status)
  code : body.at? ["error", "code"] = some (.str (ErrorCode.ofStatus status).name)
  no_users : body.at? ["users"] = none

namespace ErrorBody

/-- A body whose code is the one of the status that it is sent with is one of an error answer. -/
theorem isError_toJson {body : ErrorBody} {status : Nat} (coded : body.code = .ofStatus status) :
    (body.toJson status).IsError status := by
  refine ⟨rfl, ?_, rfl⟩
  rw [← coded]
  rfl

theorem at?_field (body : ErrorBody) (status : Int) :
    (body.toJson status).at? ["error", "field"] = body.field.map .str := by
  obtain ⟨code, message, detail, field, metadata⟩ := body
  cases detail <;> cases field <;> cases metadata <;> rfl

theorem at?_metadata (body : ErrorBody) (status : Int) (name : String) :
    (body.toJson status).at? ["error", "metadata", name] =
      body.metadata.bind fun members => Json.lookup? members name := by
  obtain ⟨code, message, detail, field, metadata⟩ := body
  cases metadata with
  | none => cases detail <;> cases field <;> rfl
  | some members =>
    have found : (Json.obj members).at? [name] = Json.lookup? members name :=
      Option.bind_fun_some _
    rw [Option.bind_some, ← found]
    cases detail <;> cases field <;> rfl

end ErrorBody

/-! ### Numbers that cannot be written -/

namespace SearchParameters

/-- A whole number that a request names is read from the text it is named with. -/
theorem read_of_checkNamed {entries : List (String × String)} {name : String} {number : Int}
    (checked : checkNamed entries name Checked.whole = .valid (some number)) :
    ∃ text, Number.parameterInteger text = .ok number := by
  unfold checkNamed at checked
  split at checked
  · rename_i text _
    obtain ⟨read, valid, same⟩ := Checked.map_eq_valid_iff.mp checked
    rw [Option.some.injEq] at same
    rw [Checked.under_eq_valid_iff, Checked.whole] at valid
    refine ⟨text, ?_⟩
    cases parsed : Number.parameterInteger text with
    | error problem =>
      rw [parsed] at valid
      cases valid
    | ok other =>
      rw [parsed, Checked.valid.injEq] at valid
      rw [← same, ← valid]
  · cases checked

variable {entries : List (String × String)} {parameters : SearchParameters}

/-- The page and its size, as they are named or as they are by default, can be written. -/
theorem isWritable_of_check (checked : check entries = .valid parameters) :
    Number.isWritable (parameters.page.getD defaultPage) = true ∧
      Number.isWritable (parameters.pageSize.getD defaultPageSize) = true := by
  have named {name : String} {value : Option Int} {default : Int} {spelled : String}
      (found : checkNamed entries name Checked.whole = .valid value)
      (spells : Number.parameterInteger spelled = .ok default) :
      Number.isWritable (value.getD default) = true := by
    cases value with
    | none => exact Number.isWritable_of_parameterInteger spells
    | some number =>
      obtain ⟨_, read⟩ := read_of_checkNamed found
      exact Number.isWritable_of_parameterInteger read
  obtain ⟨_, size, withPage, sized, rfl⟩ := Checked.seq_eq_valid_iff.mp checked
  obtain ⟨_, page, withFlag, paged, rfl⟩ := Checked.seq_eq_valid_iff.mp withPage
  obtain ⟨_, _, withQuery, _, rfl⟩ := Checked.seq_eq_valid_iff.mp withFlag
  obtain ⟨_, _, rfl⟩ := Checked.map_eq_valid_iff.mp withQuery
  exact ⟨named paged (show Number.parameterInteger "1" = .ok defaultPage by rfl),
    named sized (show Number.parameterInteger "50" = .ok defaultPageSize by rfl)⟩

/-- The page is so far behind the limit that the number of its last result cannot be written. -/
structure IsBeyondWords (parameters : SearchParameters) : Prop where
  first : 1 ≤ parameters.page.getD defaultPage
  room : 1 ≤ parameters.pageSize.getD defaultPageSize
  few : parameters.pageSize.getD defaultPageSize ≤ maxPageSize
  unwritable : Number.isWritable (parameters.page.getD defaultPage *
    parameters.pageSize.getD defaultPageSize) = false

/-- A request that names the greatest page there is to read gets beyond words with pages of the
usual size. -/
theorem greatest_isBeyondWords :
    IsBeyondWords ⟨none, none, some (Nat.pow 10 Number.maxIntegerDigits - 1 : Nat), none⟩ := by
  -- Of the bound nothing is needed but that it is two at least.
  have grows (bound : Nat) (least : 2 ≤ bound) :
      1 ≤ ((bound - 1 : Nat) : Int) ∧ ¬ (((bound - 1 : Nat) : Int) * 50).natAbs < bound := by
    omega
  have powers (limit : Nat) (some : 1 ≤ limit) : 2 ≤ Nat.pow 10 limit :=
    Nat.le_trans (show 2 ≤ 10 ^ 1 by decide) (Nat.pow_le_pow_right (by decide) some)
  obtain ⟨first, large⟩ := grows _ (powers Number.maxIntegerDigits (by decide))
  exact ⟨first, by decide, by decide, decide_eq_false large⟩

theorem IsBeyondWords.breaksFirst (beyond : parameters.IsBeyondWords) :
    Criteria.BreaksFirst parameters.query (parameters.page.getD defaultPage)
      (parameters.pageSize.getD defaultPageSize)
      (.tooFar (parameters.page.getD defaultPage * parameters.pageSize.getD defaultPageSize)) "p"
      10000 (parameters.page.getD defaultPage * parameters.pageSize.getD defaultPageSize) := by
  obtain ⟨first, room, few, unwritable⟩ := beyond
  refine .tooFar few room first (Int.not_le.mp fun near => ?_)
  have positive := Int.mul_pos (Int.lt_of_lt_of_le Int.one_pos first)
    (Int.lt_of_lt_of_le Int.one_pos room)
  rw [Number.isWritable_of_lt (show 5 ≤ Number.maxIntegerDigits by decide) (by omega)] at unwritable
  cases unwritable

/-- It is only with a page beyond words that parameters which spell values are refused without
any. -/
theorem criteria_eq_fault_iff (checked : check entries = .valid parameters) {fault : Fault} :
    parameters.criteria = .error (.fault fault) ↔
      fault = .unwritable ∧ parameters.IsBeyondWords := by
  obtain ⟨pageWritable, sizeWritable⟩ := isWritable_of_check checked
  constructor
  · intro refused
    by_cases keeps : Criteria.KeepsLimits parameters.query (parameters.page.getD defaultPage)
        (parameters.pageSize.getD defaultPageSize)
    · cases (Criteria.ofParameters_of_keepsLimits keeps).symm.trans refused
    · obtain ⟨_, _, _, _, breaks⟩ := Criteria.exists_breaksFirst keeps
      have worded := (Criteria.ofParameters_of_breaksFirst breaks).symm.trans refused
      rw [← breaks.isWritable_eq] at worded
      split at worded
      · cases worded
      · rename_i unwritable
        refine ⟨(Refusal.fault.inj (Except.error.inj worded)).symm, ?_⟩
        -- Of the numbers that are shown only that of the last result is not itself asked for.
        cases breaks with
        | tooFar few room first _ => exact ⟨first, room, few, Bool.eq_false_iff.mpr unwritable⟩
        | pageTooSmall _ _ => exact absurd sizeWritable unwritable
        | noSuchPage _ _ _ => exact absurd pageWritable unwritable
        | pageTooLarge _ => exact absurd rfl unwritable
        | queryTooShort _ _ _ _ _ _ => exact absurd rfl unwritable
  · rintro ⟨rfl, beyond⟩
    have refused : parameters.criteria = _ :=
      Criteria.ofParameters_of_breaksFirst beyond.breaksFirst
    rw [refused, beyond.unwritable]
    rfl

end SearchParameters

/-! ### Deciding a request -/

namespace Request

/-- The token that a request presents, if tokens are looked at. -/
def token? (request : Request) (environment : Environment) : Option String :=
  if environment.authenticationEnabled then
    (request.header? "authorization").bind bearerToken?
  else none

theorem token?_eq (request : Request) (environment : Environment) :
    request.token? environment = if environment.authenticationEnabled then
      (request.header? "authorization").bind bearerToken? else none :=
  rfl

/-- What the parameters of a request say. -/
def parameters (request : Request) : Checked SearchParameters :=
  SearchParameters.check (Query.entries request.query)

/-- A request asks for what its parameters come to. -/
def Asks (request : Request) (criteria : Criteria) : Prop :=
  ∃ parameters, request.parameters = .valid parameters ∧ parameters.criteria = .ok criteria

end Request

namespace Site

variable {site : Site} {surroundings : Surroundings} {request : Request}

/-- Whom a site takes for the caller of a request: nobody if it presents no token, and otherwise
whoever the token speaks for. -/
inductive Admits (site : Site) (surroundings : Surroundings) (request : Request) :
    Session → Prop where
  | anonymous (unnamed : request.token? surroundings.environment = none) :
    Admits site surroundings request (.anonymous surroundings.environment)
  | known {token : String} {caller : Caller}
    (presented : request.token? surroundings.environment = some token)
    (identified : (site.identify surroundings token).2.2 = .ok caller) :
    Admits site surroundings request (.forCaller surroundings.environment caller)

/-- A site looks at the parameters of a request once it is settled who asks and how the search is
set up. -/
structure Receives (site : Site) (surroundings : Surroundings) (request : Request)
    (session : Session) (service : Service) : Prop where
  admits : site.Admits surroundings request session
  configured : Service.configure surroundings.environment none = .ok service

/-- How a search request is decided: the status and the content of the answer, and the stores as
they are left. Each way tells which objections there are not and which is the first there is. -/
inductive Decides (site : Site) (surroundings : Surroundings) (request : Request) :
    Nat → Content → Backends → Prop where
  | rejected {token : String} {complaint : TokenComplaint} {body : Json}
    (presented : request.token? surroundings.environment = some token)
    (rejects : (site.identify surroundings token).2.2 = .error (.rejected complaint))
    (isError : body.IsError 401) :
    Decides site surroundings request 401 (.document body) surroundings.backends
  | unidentified {token : String} {fault : Fault}
    (presented : request.token? surroundings.environment = some token)
    (faults : (site.identify surroundings token).2.2 = .error (.fault fault)) :
    Decides site surroundings request 500 Response.internalError.content surroundings.backends
  | unconfigured {session : Session} {fault : Fault}
    (admits : site.Admits surroundings request session)
    (timeout : surroundings.environment.timeout = .error fault) :
    Decides site surroundings request 500 Response.internalError.content surroundings.backends
  | unreadable {session : Session} {service : Service} {problems : List FieldProblem}
    (receives : site.Receives surroundings request session service)
    (problematic : request.parameters = .invalid problems) :
    Decides site surroundings request 422
      (unreadableParameters (Query.entries request.query) problems).content surroundings.backends
  | refused {session : Session} {service : Service} {parameters : SearchParameters}
    {violation : Violation} {body : Json}
    (receives : site.Receives surroundings request session service)
    (readable : request.parameters = .valid parameters)
    (violates : parameters.criteria = .error (.violation violation))
    (isError : body.IsError 400)
    (field : body.at? ["error", "field"] = some (.str violation.parameter.name))
    (limit : body.at? ["error", "metadata", "limit"] = some (.int violation.limit)) :
    Decides site surroundings request 400 (.document body) surroundings.backends
  | unspeakable {session : Session} {service : Service} {parameters : SearchParameters}
    (receives : site.Receives surroundings request session service)
    (readable : request.parameters = .valid parameters)
    (violates : parameters.criteria = .error (.fault .unwritable))
    (beyond : parameters.IsBeyondWords) :
    Decides site surroundings request 500 Response.internalError.content surroundings.backends
  | fails {session : Session} {service : Service} {criteria : Criteria}
    {failure : DependencyFailure} {time : Rat} {backends : Backends} {body : Json}
    (receives : site.Receives surroundings request session service)
    (asks : request.Asks criteria)
    (searched : service.search criteria session surroundings.backends =
      (backends, ⟨time, .error (.dependency failure)⟩))
    (isError : body.IsError (if failure.timedOut then 504 else 503))
    (dependency : body.at? ["error", "metadata", "dependency"] =
      some (.str failure.dependency.label)) :
    Decides site surroundings request (if failure.timedOut then 504 else 503) (.document body)
      backends
  | unassembled {session : Session} {service : Service} {criteria : Criteria} {fault : Fault}
    {time : Rat} {backends : Backends}
    (receives : site.Receives surroundings request session service)
    (asks : request.Asks criteria)
    (searched : service.search criteria session surroundings.backends =
      (backends, ⟨time, .error (.assembly fault)⟩)) :
    Decides site surroundings request 500 Response.internalError.content backends
  | succeeds {session : Session} {service : Service} {criteria : Criteria}
    {page : SearchResponse} {time : Rat} {backends : Backends}
    (receives : site.Receives surroundings request session service)
    (asks : request.Asks criteria)
    (searched : service.search criteria session surroundings.backends =
      (backends, ⟨time, .ok page⟩)) :
    Decides site surroundings request 200 (.document page.toJson) backends

/-- An answer is a decision by what it says and by the stores that it leaves. -/
def DecidesBy (site : Site) (surroundings : Surroundings) (request : Request)
    (answer : Answer) : Prop :=
  site.Decides surroundings request answer.response.status answer.response.content answer.backends

/-! ### Who asks -/

theorem Admits.session {session : Session} (admits : site.Admits surroundings request session) :
    (site.session surroundings request).2.2 = .ok session := by
  unfold Site.session
  simp only [← Request.token?_eq]
  cases admits with
  | anonymous unnamed => rw [unnamed]
  | known presented identified =>
    simp only [presented, identified]
    rfl

theorem failure_or_admits (site : Site) (surroundings : Surroundings) (request : Request) :
    (∃ token failure, request.token? surroundings.environment = some token ∧
      (site.identify surroundings token).2.2 = .error failure) ∨
    ∃ session, site.Admits surroundings request session := by
  cases presented : request.token? surroundings.environment with
  | none => exact .inr ⟨_, .anonymous presented⟩
  | some token =>
    cases identified : (site.identify surroundings token).2.2 with
    | error failure => exact .inl ⟨token, failure, rfl, identified⟩
    | ok caller => exact .inr ⟨_, .known presented identified⟩

/-- Only a timeout that is no number keeps a search from being set up. -/
theorem configure_eq_error_iff {environment : Environment} {fault : Fault} :
    Service.configure environment none = .error fault ↔ environment.timeout = .error fault := by
  unfold Service.configure
  cases parsed : environment.timeout with
  | error problem =>
    simp only
    constructor
    · intro failed
      rw [Except.error.inj failed]
    · intro failed
      rw [Except.error.inj failed]
      rfl
  | ok seconds =>
    simp only
    exact ⟨nofun, nofun⟩

/-! ### Objections -/

theorem settle_of_failure {token : String} {failure : TokenFailure}
    (presented : request.token? surroundings.environment = some token)
    (unknown : (site.identify surroundings token).2.2 = .error failure) :
    settle surroundings.environment request (site.session surroundings request).2.2 =
      .error failure.response := by
  unfold Site.session
  simp only [← Request.token?_eq, presented, unknown]
  rfl

theorem settle_of_unconfigured {session : Session} {fault : Fault}
    (admits : site.Admits surroundings request session)
    (timeout : surroundings.environment.timeout = .error fault) :
    settle surroundings.environment request (site.session surroundings request).2.2 =
      .error .internalError := by
  unfold settle
  rw [admits.session, configure_eq_error_iff.mpr timeout]
  rfl

namespace Receives

variable {session : Session} {service : Service}

theorem settle_of_problems (receives : site.Receives surroundings request session service)
    {problems : List FieldProblem} (problematic : request.parameters = .invalid problems) :
    settle surroundings.environment request (site.session surroundings request).2.2 =
      .error (unreadableParameters (Query.entries request.query) problems) := by
  unfold Request.parameters at problematic
  unfold settle
  rw [receives.admits.session, receives.configured]
  simp only [problematic]
  rfl

theorem settle_of_readable (receives : site.Receives surroundings request session service)
    {parameters : SearchParameters} (readable : request.parameters = .valid parameters) :
    settle surroundings.environment request (site.session surroundings request).2.2 =
      (parameters.criteria.mapError (·.response)).bind fun criteria =>
        .ok (service, criteria, session) := by
  unfold Request.parameters at readable
  unfold settle
  rw [receives.admits.session, receives.configured]
  simp only [readable]
  rfl

theorem settle_of_refusal (receives : site.Receives surroundings request session service)
    {parameters : SearchParameters} (readable : request.parameters = .valid parameters)
    {refusal : Refusal} (refused : parameters.criteria = .error refusal) :
    settle surroundings.environment request (site.session surroundings request).2.2 =
      .error refusal.response := by
  rw [receives.settle_of_readable readable, refused]
  rfl

theorem settle_of_asks (receives : site.Receives surroundings request session service)
    {criteria : Criteria} (asks : request.Asks criteria) :
    settle surroundings.environment request (site.session surroundings request).2.2 =
      .ok (service, criteria, session) := by
  obtain ⟨parameters, readable, accepted⟩ := asks
  rw [receives.settle_of_readable readable, accepted]
  rfl

end Receives

/-- With an objection no store is asked, and the objection is the answer. -/
theorem search_of_objection {response : Response}
    (settled : settle surroundings.environment request (site.session surroundings request).2.2 =
      .error response) :
    site.search surroundings request =
      { site := (site.session surroundings request).1
        backends := surroundings.backends
        downloading := (site.session surroundings request).2.1
        response := response } := by
  unfold Site.search
  simp only [settled]

/-! ### Decisions -/

theorem decides_of_asks {session : Session} {service : Service} {criteria : Criteria}
    (receives : site.Receives surroundings request session service)
    (asks : request.Asks criteria) :
    site.DecidesBy surroundings request (site.search surroundings request) := by
  unfold Site.search
  simp only [receives.settle_of_asks asks]
  rcases searched : service.search criteria session surroundings.backends with
    ⟨backends, time, failure | page⟩
  · cases failure with
    | dependency failure =>
      exact .fails receives asks searched (ErrorBody.isError_toJson rfl)
        (ErrorBody.at?_metadata _ _ _)
    | assembly fault => exact .unassembled receives asks searched
  · exact .succeeds receives asks searched

/-- Every search is decided, and by the first objection to it. -/
theorem search_decides (site : Site) (surroundings : Surroundings) (request : Request) :
    site.DecidesBy surroundings request (site.search surroundings request) := by
  -- The cases follow the order of the objections; each keeps what rules out those before it.
  obtain ⟨token, failure, presented, unknown⟩ | ⟨session, admits⟩ :=
    site.failure_or_admits surroundings request
  · rw [search_of_objection (settle_of_failure presented unknown)]
    cases failure with
    | rejected complaint => exact .rejected presented unknown (ErrorBody.isError_toJson rfl)
    | fault fault => exact .unidentified presented unknown
  cases configured : Service.configure surroundings.environment none with
  | error fault =>
    have timeout := configure_eq_error_iff.mp configured
    rw [search_of_objection (settle_of_unconfigured admits timeout)]
    exact .unconfigured admits timeout
  | ok service =>
    have receives : site.Receives surroundings request session service := ⟨admits, configured⟩
    cases readable : request.parameters with
    | invalid problems =>
      rw [search_of_objection (receives.settle_of_problems readable)]
      exact .unreadable receives readable
    | valid parameters =>
      cases accepted : parameters.criteria with
      | ok criteria => exact decides_of_asks receives ⟨parameters, readable, accepted⟩
      | error refusal =>
        rw [search_of_objection (receives.settle_of_refusal readable accepted)]
        cases refusal with
        | violation violation =>
          exact .refused receives readable accepted (ErrorBody.isError_toJson rfl)
            (ErrorBody.at?_field _ _) (ErrorBody.at?_metadata _ _ _)
        | fault fault =>
          obtain ⟨rfl, beyond⟩ := (SearchParameters.criteria_eq_fault_iff readable).mp accepted
          exact .unspeakable receives readable accepted beyond

/-- No two ways to decide a search lead to different statuses or stores: each is the search. -/
theorem Decides.search_eq {status : Nat} {content : Content} {backends : Backends}
    (decides : site.Decides surroundings request status content backends) :
    (site.search surroundings request).response.status = status ∧
      (site.search surroundings request).backends = backends := by
  have objected (response : Response) (settled : settle surroundings.environment request
      (site.session surroundings request).2.2 = .error response) :
      (site.search surroundings request).response.status = response.status ∧
        (site.search surroundings request).backends = surroundings.backends := by
    rw [search_of_objection settled]
    exact ⟨rfl, rfl⟩
  cases decides with
  | rejected presented rejects _ => exact objected _ (settle_of_failure presented rejects)
  | unidentified presented faults => exact objected _ (settle_of_failure presented faults)
  | unconfigured admits timeout => exact objected _ (settle_of_unconfigured admits timeout)
  | unreadable receives problematic => exact objected _ (receives.settle_of_problems problematic)
  | refused receives readable violates _ _ _ =>
    exact objected _ (receives.settle_of_refusal readable violates)
  | unspeakable receives readable violates _ =>
    exact objected _ (receives.settle_of_refusal readable violates)
  | fails receives asks searched _ _ =>
    unfold Site.search
    simp only [receives.settle_of_asks asks, searched, and_true]
    rfl
  | unassembled receives asks searched =>
    unfold Site.search
    simp only [receives.settle_of_asks asks, searched, and_true]
    rfl
  | succeeds receives asks searched =>
    unfold Site.search
    simp only [receives.settle_of_asks asks, searched, and_self]

/-- What is said about origins changes neither the status nor the content of an answer. A site
decides every search request in one of these ways, and by whichever way a request can be decided,
it is. -/
theorem answer_decides (site : Site) (surroundings : Surroundings) (request : Request)
    (method : request.method = servedMethod) (place : Place.ofPath? request.path = some .search) :
    site.DecidesBy surroundings request (site.answer surroundings request) ∧
      ∀ status content backends, site.Decides surroundings request status content backends →
        (site.answer surroundings request).response.status = status ∧
          (site.answer surroundings request).backends = backends := by
  have served : site.serve surroundings request = site.search surroundings request := by
    unfold Site.serve
    simp only [place, method]
    rfl
  have unquestioned : CrossOrigin.question? request = none := by
    unfold CrossOrigin.question?
    rw [method]
    rfl
  have decided := site.search_decides surroundings request
  unfold Site.answer
  simp only [unquestioned, served]
  split
  · split
    · exact ⟨decided, fun _ _ _ => Decides.search_eq⟩
    · exact ⟨decided, fun _ _ _ => Decides.search_eq⟩
  · exact ⟨decided, fun _ _ _ => Decides.search_eq⟩

/-- Surroundings in which no token can be read. -/
def illiterateSurroundings : Surroundings where
  environment := ⟨[("ENTRA_TENANT_ID", "tid"), ("ENTRA_CLIENT_ID", "cid")]⟩
  publication := .silence
  reader := fun _ => none
  now := 0
  backends := {}

/-- A request with two faults: its token is none, and its page is no number. -/
def faultyRequest : Request :=
  ⟨"testserver", "GET", "/api/users/search", "p=x", [("Authorization", "Bearer token")]⟩

/-- Of two faults the token is the first objection. -/
theorem sample_answer_decides :
    (start none).DecidesBy illiterateSurroundings faultyRequest
        ((start none).answer illiterateSurroundings faultyRequest) ∧
      ((start none).answer illiterateSurroundings faultyRequest).response.status = 401 := by
  obtain ⟨decided, whichever⟩ := answer_decides (start none) illiterateSurroundings faultyRequest
    rfl (by decide +kernel)
  have presented : faultyRequest.token? illiterateSurroundings.environment = some "token" := by
    decide +kernel
  have isError : (ErrorBody.toJson ⟨.unauthorized, "", none, none, none⟩ 401).IsError 401 :=
    ErrorBody.isError_toJson rfl
  have rejection : (start none).Decides illiterateSurroundings faultyRequest 401 _ _ :=
    .rejected presented rfl isError
  exact ⟨decided, (whichever _ _ _ rejection).1⟩

end Site

end UserDirectory
