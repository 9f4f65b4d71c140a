/-
Who is asking. What is known of a caller comes from a token and is carried as it stands there, so
the roles of a caller can be any document. Asking whether a role is among them means a different
thing for each kind: an element of a list, a part of a text, a name of an object.
-/

import UserDirectory.Json
import UserDirectory.Settings

namespace UserDirectory

/-- Somebody who has signed in. -/
structure Caller where
  /-- The identifier. -/
  userId : Json
  /-- The email address. -/
  email : Json
  /-- The display name. -/
  name : Json
  /-- The roles. -/
  roles : Json
  /-- The picture. -/
  picture : Json
deriving Repr

/-- Whether a text occurs in another one as a contiguous part. -/
def occursIn (part : List Char) : List Char → Bool
  | [] => part.isEmpty
  | c :: rest => part.isPrefixOf (c :: rest) || occursIn part rest

/-- Whether a role is among the roles of a caller. -/
def hasRole (roles : Json) (role : String) : Except Fault Bool :=
  match roles with
  | .str text => .ok (occursIn role.toList text.toList)
  | .arr items => .ok (items.any fun item => item.text? == some role)
  | .obj members => .ok ((Json.lookup? members role).isSome)
  | _ => .error .unsuitable

/-- Whether one of the wanted roles is among the roles of a caller, looking at them in order until
one is found. Roles that are absent or empty hold none. -/
def hasAnyRole (roles : Json) (wanted : List String) : Except Fault Bool :=
  if roles.isPresent then search wanted else .ok false
where
  /-- Look at the wanted roles in order. -/
  search : List String → Except Fault Bool
    | [] => .ok false
    | role :: rest => do
      if ← hasRole roles role then pure true else search rest

/-- The caller of a request and the roles that make an administrator. -/
structure Session where
  /-- The caller, unless the request is anonymous. -/
  user : Option Caller
  /-- The roles that make an administrator. -/
  adminRoles : List String
deriving Repr

namespace Session

/-- The session of an anonymous request. -/
def anonymous (environment : Environment) : Session :=
  ⟨none, environment.adminRoles⟩

/-- The session of somebody who has signed in. -/
def forCaller (environment : Environment) (caller : Caller) : Session :=
  ⟨some caller, environment.adminRoles⟩

/-- Whether somebody has signed in. -/
def isLoggedIn (session : Session) : Bool :=
  session.user.isSome

/-- The identifier of the caller; an anonymous one has none. -/
def userId (session : Session) : Json :=
  match session.user with
  | some caller => caller.userId
  | none => .null

/-- Whether the caller is an administrator. -/
def isAdministrator (session : Session) : Except Fault Bool :=
  match session.user with
  | some caller => hasAnyRole caller.roles session.adminRoles
  | none => .ok false

end Session

end UserDirectory
