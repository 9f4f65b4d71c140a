/-
Requests and responses of the service. Names of headers are compared without regard to case, and of
several headers of one name the first counts. A response carries a document, a plain text or
nothing.
-/

import UserDirectory.Json
import UserDirectory.Text.LetterCase

namespace UserDirectory

/-- A request. -/
structure Request where
  /-- The name that the server goes by. -/
  server : String
  /-- The method. -/
  method : String
  /-- The path. -/
  path : String
  /-- The query, without the question mark before it; each character stands for a byte. -/
  query : String
  /-- The headers, in order. -/
  headers : List (String × String)
deriving Repr, DecidableEq

/-- The value of a header of a request. The name is given in lower case. -/
def Request.header? (request : Request) (name : String) : Option String :=
  (request.headers.find? fun header => Text.lower header.1 = name).map (·.2)

/-- What a response carries. -/
inductive Content where
  /-- A document. -/
  | document (document : Json)
  /-- A plain text. -/
  | text (text : String)
  /-- Nothing. -/
  | nothing
deriving Repr

/-- The kind of a content, if there is one. -/
def Content.kind? : Content → Option String
  | .document _ => some "application/json"
  | .text _ => some "text/plain; charset=utf-8"
  | .nothing => none

/-- A response. -/
structure Response where
  /-- The status. -/
  status : Nat
  /-- The content. -/
  content : Content
  /-- The headers beyond the kind of the content, with names in lower case. -/
  headers : List (String × String) := []
deriving Repr

namespace Response

/-- A response with more headers. -/
def withHeaders (response : Response) (headers : List (String × String)) : Response :=
  { response with headers := response.headers ++ headers }

/-- All headers of a response. -/
def allHeaders (response : Response) : List (String × String) :=
  (response.content.kind?.map fun kind => ("content-type", kind)).toList ++ response.headers

/-- The answer to a request that the service could not deal with. -/
def internalError : Response :=
  ⟨500, .text "Internal Server Error", []⟩

end Response

end UserDirectory
