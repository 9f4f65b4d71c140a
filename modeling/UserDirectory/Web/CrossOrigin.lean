/-
Requests from pages of other origins. Browsers let a page read an answer only if the answer allows
the origin of the page, and before some requests they ask whether these would be allowed. During
development the page of the front end is allowed; otherwise nothing is said about origins at all.
-/

import UserDirectory.Web.Message

namespace UserDirectory.CrossOrigin

/-- The origins whose pages may read answers. -/
def allowedOrigins : List String := ["http://localhost:4200"]

/-- The methods that pages may use. -/
def allowedMethods : List String :=
  ["DELETE", "GET", "HEAD", "OPTIONS", "PATCH", "POST", "PUT", "QUERY"]

/-- How many seconds an answer to a question about allowance stays good. -/
def maxAge : Nat := 600

/-! ### Answers to requests -/

/-- The headers for a page that carries credentials and is of an origin. -/
def originHeaders (origin : String) : List (String × String) :=
  ("access-control-allow-credentials", "true") ::
    if allowedOrigins.contains origin then [("access-control-allow-origin", origin)] else []

/-- An answer with what it says about the origin of the request. -/
def inform (request : Request) (response : Response) : Response :=
  response.withHeaders (("vary", "Origin") :: match request.header? "origin" with
    | some origin => originHeaders origin
    | none => [])

/-! ### Questions whether a request would be allowed -/

/-- The question that a request asks, if it asks one: the origin and the method. -/
def question? (request : Request) : Option (String × String) := do
  if request.method ≠ "OPTIONS" then none
  pure (← request.header? "origin", ← request.header? "access-control-request-method")

/-- What the answers to questions depend on. -/
def questionHeaders : List String :=
  ["Origin", "Access-Control-Request-Method", "Access-Control-Request-Headers",
   "Access-Control-Request-Private-Network"]

/-- What of a question is not allowed. Any header is, and no way into a private network. -/
def refusals (request : Request) (origin method : String) : List String :=
  (if allowedOrigins.contains origin then [] else ["origin"])
    ++ (if allowedMethods.contains method then [] else ["method"])
    ++ (if (request.header? "access-control-request-private-network").isSome then
          ["private-network"] else [])

/-- The answer to a question. -/
def answer (request : Request) (origin method : String) : Response :=
  let refusals := refusals request origin method
  let headers :=
    ("vary", ", ".intercalate questionHeaders)
      :: ("access-control-allow-methods", ", ".intercalate allowedMethods)
      :: ("access-control-max-age", toString maxAge)
      :: originHeaders origin
      ++ ((request.header? "access-control-request-headers").map fun headers =>
          ("access-control-allow-headers", headers)).toList
  if refusals.isEmpty then ⟨200, .text "OK", headers⟩
  else ⟨400, .text ("Disallowed CORS " ++ ", ".intercalate refusals), headers⟩

end UserDirectory.CrossOrigin
