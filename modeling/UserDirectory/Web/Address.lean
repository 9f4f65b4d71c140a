/-
Places of the site and their addresses. A request names the host it was sent to, and an answer that
leads elsewhere names the same host again, unless what the request names is no host at all. The
query of a request goes into the address as the text that its bytes write.
-/

import UserDirectory.Text.Quoted
import UserDirectory.Text.Utf8
import UserDirectory.Web.Host
import UserDirectory.Web.Message

namespace UserDirectory

/-! ### Places -/

/-- The pages on which a site describes itself. -/
inductive Manual where
  /-- The description for programs. -/
  | description
  /-- The page on which requests can be tried. -/
  | trial
  /-- Where that page is led back to when its reader has signed in elsewhere. -/
  | signedIn
  /-- The page to read. -/
  | reference
deriving Repr, DecidableEq

/-- The places of the site. -/
inductive Place where
  /-- A page on which the site describes itself. -/
  | manual (page : Manual)
  /-- Whether the site is well. -/
  | health
  /-- Whether the site is there. -/
  | ping
  /-- The search. -/
  | search
deriving Repr, DecidableEq

namespace Place

/-- All places. -/
def all : List Place :=
  [.manual .description, .manual .trial, .manual .signedIn, .manual .reference, .health, .ping,
    .search]

/-- The path of a place. -/
def path : Place → String
  | .manual .description => "/openapi.json"
  | .manual .trial => "/docs"
  | .manual .signedIn => "/docs/oauth2-redirect"
  | .manual .reference => "/redoc"
  | .health => "/health"
  | .ping => "/ping"
  | .search => "/api/users/search"

/-- The place of a path. A line feed at the end of the path is passed over. -/
def ofPath? (path : String) : Option Place :=
  all.find? fun place => path = place.path || path = place.path ++ "\n"

end Place

/-- A path without the slashes at its end. -/
def withoutSlashes (path : String) : String :=
  String.ofList (path.toList.reverse.dropWhile (· = '/')).reverse

namespace Address

/-! ### Addresses -/

/-- The host that a request was sent to: the one it names, or else the name of the server. -/
def host (request : Request) : String :=
  match request.header? "host" with
  | some named => if Host.isHost named.toList then named else request.server
  | none => request.server

/-- The characters of an address that need no escape, letters and digits apart. -/
def marks : List Char := "_.-~:/%#?=@[]!$&'()*+,;".toList

/-- An address with escapes for all characters that need one. -/
def escaped (address : String) : String :=
  String.ofList (address.toList.flatMap fun c =>
    if c.isAlphanum ∨ c ∈ marks then [c]
    else (Text.toUtf8 [c]).flatMap fun byte =>
      '%' :: (Text.hexadecimal 2 byte.toNat).map Char.toUpper)

/-- The text that the bytes of a query write, if they write one. -/
def queryText? (query : String) : Option String := do
  let bytes ← query.toList.mapM fun c =>
    if c.toNat < 256 then some c.toNat.toUInt8 else none
  pure (String.ofList (← Text.ofUtf8? bytes))

/-- The whole address of a path for a request, if its query is a text. -/
def ofPath? (request : Request) (path : String) : Option String := do
  let query ← queryText? request.query
  pure (escaped ("http://" ++ host request ++ path ++ if query = "" then "" else "?" ++ query))

end Address

end UserDirectory
