/-
What a caller may see of a user. Everybody sees the login and the name. Callers who have signed in
also see the fields of the authenticated tier, and administrators and the user in question also
those of the privileged tier. A field that is withheld and a field that has no value look the same.
-/

import UserDirectory.Record
import UserDirectory.Session

namespace UserDirectory

/-! ### Tiers -/

/-- The fields that everybody sees. -/
def baseFields : List String := ["login", "name"]

/-- The fields that callers see who have signed in. -/
def authenticatedFields : List String :=
  ["avatar", "active", "local", "externalProvider", "scmAccounts"]

/-- The fields that administrators see, and users of themselves. -/
def privilegedFields : List String :=
  ["email", "groups", "externalIdentity", "tokensCount", "lastConnectionDate", "managed"]

/-- The tiers of fields that a caller sees beyond the base. -/
structure Tiers where
  /-- The fields for callers who have signed in. -/
  authenticated : Bool
  /-- The fields for administrators and the user in question. -/
  privileged : Bool
deriving Repr, DecidableEq

namespace Tiers

/-- The fields of the tiers. -/
def fields (tiers : Tiers) : List String :=
  baseFields ++ (if tiers.authenticated then authenticatedFields else [])
    ++ (if tiers.privileged then privilegedFields else [])

/-- Whether a field belongs to the tiers. -/
def includes (tiers : Tiers) (field : String) : Bool :=
  tiers.fields.contains field

/-- The tiers that a session has on the user with an identifier. -/
def decide (session : Session) (userId : String) : Except Fault Tiers := do
  let administrator ← session.isAdministrator
  pure ⟨session.isLoggedIn, administrator || session.userId.text? == some userId⟩

end Tiers

/-! ### Users as a caller sees them -/

/-- What other stores know of a user. -/
structure Extras where
  /-- The avatar; an empty one means none. -/
  avatar : Option String
  /-- The names of the groups. -/
  groups : List String
  /-- The number of tokens, if it is known. -/
  tokensCount : Option Int
  /-- Whether an external integration owns the user. -/
  isManaged : Bool
deriving Repr, DecidableEq

/-- A user as a caller sees it; nothing stands for what is withheld or has no value. -/
structure UserView where
  /-- The login. -/
  login : String
  /-- The display name. -/
  name : Option String
  /-- The avatar. -/
  avatar : Option String
  /-- Whether the user is active. -/
  isActive : Option Bool
  /-- Whether the user is kept by this directory alone. -/
  isLocal : Option Bool
  /-- The external provider. -/
  externalProvider : Option String
  /-- The accounts in source control. -/
  scmAccounts : Option (List String)
  /-- The email address. -/
  email : Option String
  /-- The names of the groups. -/
  groups : Option (List String)
  /-- The login at the external provider. -/
  externalIdentity : Option String
  /-- The number of tokens. -/
  tokensCount : Option Int
  /-- When the user was last seen. -/
  lastConnectionDate : Option String
  /-- Whether an external integration owns the user. -/
  isManaged : Option Bool
deriving Repr, DecidableEq

/-- A list, unless it is empty. -/
def nonemptyList {α : Type} (items : List α) : Option (List α) :=
  if items.isEmpty then none else some items

/-- Show a user, keeping of its record and of what other stores know the fields of the tiers. -/
def Record.view (record : Record) (tiers : Tiers) (extras : Extras) : UserView :=
  let keep {α : Type} (field : String) (value : Option α) : Option α :=
    if tiers.includes field then value else none
  { login := record.login
    name := keep "name" record.name
    avatar := keep "avatar" (extras.avatar.filter (· ≠ ""))
    isActive := keep "active" (some record.isActive)
    isLocal := keep "local" (some record.isLocal)
    externalProvider := keep "externalProvider" record.externalIdentityProvider
    scmAccounts := keep "scmAccounts" (nonemptyList record.scmAccounts)
    email := keep "email" record.email
    groups := keep "groups" (nonemptyList extras.groups)
    externalIdentity := keep "externalIdentity" record.externalLogin
    tokensCount := keep "tokensCount" extras.tokensCount
    lastConnectionDate := keep "lastConnectionDate" (record.lastConnection.map (·.served))
    isManaged := keep "managed" (some extras.isManaged) }

/-- The members that have a value. -/
def presentMembers (members : List (String × Option Json)) : List (String × Json) :=
  members.filterMap fun member => member.2.map fun value => (member.1, value)

/-- A user as it is sent: the fields that have a value, under their public names. -/
def UserView.toJson (view : UserView) : Json :=
  let texts (items : List String) : Json := .arr (items.map .str)
  .obj (presentMembers [
    ("login", some (.str view.login)),
    ("name", view.name.map .str),
    ("avatar", view.avatar.map .str),
    ("active", view.isActive.map .bool),
    ("local", view.isLocal.map .bool),
    ("externalProvider", view.externalProvider.map .str),
    ("scmAccounts", view.scmAccounts.map texts),
    ("email", view.email.map .str),
    ("groups", view.groups.map texts),
    ("externalIdentity", view.externalIdentity.map .str),
    ("tokensCount", view.tokensCount.map .int),
    ("lastConnectionDate", view.lastConnectionDate.map .str),
    ("managed", view.isManaged.map .bool)])

end UserDirectory
