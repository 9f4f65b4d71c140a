/-
The service as callers reach it. A request is first taken to its place; for a search it is then
settled who asks, how the search is set up, what the parameters say and whether they keep the
limits, in this order, and the first objection is the answer. Stores are asked only when there is
none. Between requests the site remembers nothing but the keys that tokens are checked with.

Before a site can answer it is launched: the index must be there, if there is access to one. How a
site describes itself is not said here; it is taken to describe itself to equal requests equally.
-/

import UserDirectory.Bearer.Validator
import UserDirectory.Search.Service
import UserDirectory.Web.Address
import UserDirectory.Web.CrossOrigin
import UserDirectory.Web.SearchRequest

namespace UserDirectory

/-! ### A site and what it lives in -/

/-- What a running site remembers. -/
structure Site where
  /-- Whether pages of other origins are told what they may do. -/
  informsOrigins : Bool
  /-- How it describes itself. -/
  manual : Manual → Request → Response
  /-- What tokens are checked with, once a token was to be checked. -/
  validator : Option Validator := none

/-- A description that says nothing. -/
def unwritten (_ : Manual) (_ : Request) : Response :=
  ⟨200, .nothing, []⟩

/-- The site that is started in a kind of environment; without one it is for development. -/
def Site.start (kind : Option String) (manual : Manual → Request → Response := unwritten) : Site :=
  { informsOrigins := kind.getD "development" = "development", manual := manual }

/-- What a site lives in. All of it may be different at the next request. -/
structure Surroundings where
  /-- The settings. -/
  environment : Environment
  /-- What is published as keys of tokens. -/
  publication : Publication
  /-- How tokens are read. -/
  reader : TokenReader
  /-- The time in seconds. -/
  now : Int
  /-- The stores. -/
  backends : Backends

/-- What a site does with a request. -/
structure Answer where
  /-- The site as it is left. -/
  site : Site
  /-- The stores as they are left. -/
  backends : Backends
  /-- How long it downloaded keys first, in milliseconds. -/
  downloading : Nat := 0
  /-- How long it took from then on, in milliseconds. -/
  time : Rat := 0
  /-- When the calls end that it made, counted from then on. -/
  callsEnd : List Rat := []
  /-- The response. -/
  response : Response

/-! ### Who asks -/

/-- The token in a header that carries one. The scheme ends at the first blank, any other scheme
than the one of bearer tokens says nothing, and blanks around the token do not belong to it. -/
def bearerToken? (header : String) : Option String :=
  match Text.splitFirst? ' ' header.toList with
  | some (scheme, rest) =>
    let token := Text.trim (String.ofList rest)
    if Text.lower (String.ofList scheme) = "bearer" ∧ token ≠ "" then some token else none
  | none => none

/-- Check a token with what the site remembers. Nothing is remembered as long as the settings do not
say for whom tokens are issued. -/
def Site.identify (site : Site) (surroundings : Surroundings) (token : String) :
    Site × List String × Except TokenFailure Caller :=
  let ready : Except Fault Validator := match site.validator with
    | some validator => .ok validator
    | none => Validator.ofEnvironment surroundings.environment
  match ready with
  | .error fault => (site, [], .error (.fault fault))
  | .ok validator =>
    let verdict := validator.validate surroundings.publication surroundings.now
      (surroundings.reader token)
    ({ site with validator := some verdict.validator }, verdict.downloads, verdict.outcome)

/-- The session of a request, and how long keys were downloaded for it. Without a token, or if
tokens are not looked at, it is anonymous. -/
def Site.session (site : Site) (surroundings : Surroundings) (request : Request) :
    Site × Nat × Except TokenFailure Session :=
  let environment := surroundings.environment
  let token := if environment.authenticationEnabled then
    (request.header? "authorization").bind bearerToken? else none
  match token with
  | none => (site, 0, .ok (.anonymous environment))
  | some token =>
    let (site, downloads, outcome) := site.identify surroundings token
    (site, downloads.length * surroundings.publication.delay,
      outcome.map (Session.forCaller environment))

/-! ### Searching -/

/-- What a request asks for, or the answer if it is not served. -/
def settle (environment : Environment) (request : Request)
    (session : Except TokenFailure Session) :
    Except Response (Service × Criteria × Session) := do
  let session ← session.mapError (·.response)
  let service ← (Service.configure environment none).mapError fun _ => Response.internalError
  let entries := Query.entries request.query
  let parameters ← match SearchParameters.check entries with
    | .valid parameters => .ok parameters
    | .invalid problems => .error (unreadableParameters entries problems)
  let criteria ← parameters.criteria.mapError (·.response)
  pure (service, criteria, session)

/-- Answer a search. -/
def Site.search (site : Site) (surroundings : Surroundings) (request : Request) : Answer :=
  let (site, downloading, session) := site.session surroundings request
  match settle surroundings.environment request session with
  | .error response =>
    { site := site
      backends := surroundings.backends
      downloading := downloading
      response := response }
  | .ok (service, criteria, session) =>
    let (backends, found) := service.search criteria session surroundings.backends
    { site := site
      backends := backends
      downloading := downloading
      time := found.time
      callsEnd := service.searchEnds criteria surroundings.backends
      response := match found.outcome with
        | .ok page => ⟨200, .document page.toJson, []⟩
        | .error failure => failure.response }

/-! ### Answers that need no store -/

/-- The method that every place answers to that is no page of the description. -/
def servedMethod : String := "GET"

/-- The answer to a path at which there is no place. A path with slashes too many leads on to the
path without them, if there is a place at that one. -/
def astray (request : Request) : Response :=
  let shorter := withoutSlashes request.path
  if (Place.ofPath? shorter).isNone then
    ⟨404, .document (.obj [("detail", .str "Not Found")]), []⟩
  else match Address.ofPath? request shorter with
    | some address => ⟨307, .nothing, [("location", address)]⟩
    | none => .internalError

/-- The answer to a method that a place does not answer to. -/
def methodNotAllowed : Response :=
  ⟨405, .document (.obj [("detail", .str "Method Not Allowed")]), [("allow", servedMethod)]⟩

/-- What is said of a healthy site. -/
def healthDocument : Json :=
  .obj [("status", .str "healthy"), ("service", .str "user-directory"), ("version", .str "1.0.0")]

/-- What is said of a site that is there. -/
def pingDocument : Json :=
  .obj [("status", .str "ok")]

/-! ### Answering -/

/-- Answer a request, leaving aside what is said about origins. -/
def Site.serve (site : Site) (surroundings : Surroundings) (request : Request) : Answer :=
  let unmoved (response : Response) : Answer :=
    { site := site, backends := surroundings.backends, response := response }
  let served (answer : Answer) : Answer :=
    if request.method ≠ servedMethod then unmoved methodNotAllowed else answer
  match Place.ofPath? request.path with
  | none => unmoved (astray request)
  | some (.manual page) => unmoved (site.manual page request)
  | some .health => served (unmoved ⟨200, .document healthDocument, []⟩)
  | some .ping => served (unmoved ⟨200, .document pingDocument, []⟩)
  | some .search => served (site.search surroundings request)

/-- Answer a request. An answer to a request that the site could not deal with says nothing about
origins. -/
def Site.answer (site : Site) (surroundings : Surroundings) (request : Request) : Answer :=
  if site.informsOrigins then
    match CrossOrigin.question? request with
    | some (origin, method) =>
      { site := site
        backends := surroundings.backends
        response := CrossOrigin.answer request origin method }
    | none =>
      let answer := site.serve surroundings request
      if answer.response.status = 500 then answer
      else { answer with response := CrossOrigin.inform request answer.response }
  else site.serve surroundings request

/-! ### Starting -/

/-- What has to be done before a site can answer: the index must be there, if there is access to
one. -/
def prepare (environment : Environment) : Call IndexShelf Fault Unit :=
  (IndexAccess.configure environment {}).ensureIndex

/-- Launch a site in some surroundings, with a way to describe itself. If what has to be done first
fails there is no site; otherwise the surroundings are left with the index that is there then. -/
def Surroundings.launch (surroundings : Surroundings) (manual : Manual → Request → Response) :
    Except Fault (Site × Surroundings) :=
  let prepared := (prepare surroundings.environment).run surroundings.backends.index
  prepared.outcome.map fun _ =>
    (Site.start (surroundings.environment.get? "ENVIRONMENT") manual,
      { surroundings with backends := { surroundings.backends with index := prepared.state } })

end UserDirectory
