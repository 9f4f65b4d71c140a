/-
User records. A record is made from a stored item, a JSON object of which nothing is known for
certain. Parts of the item are looked at in a fixed order, so that of several faults the same one is
always reported: first the two names that identify the user, then the accounts, then the date, and
only then the kinds of all fields together.
-/

import UserDirectory.Checked
import UserDirectory.Timestamp.Reader

namespace UserDirectory

/-- What the directory knows of a user. -/
structure Record where
  /-- The identifier that never changes. -/
  userId : String
  /-- The login. -/
  login : String
  /-- The display name. -/
  name : Option String
  /-- The email address. -/
  email : Option String
  /-- Whether the user is active. -/
  isActive : Bool
  /-- Whether the user is kept by this directory alone. -/
  isLocal : Bool
  /-- The login at the external provider. -/
  externalLogin : Option String
  /-- The external provider. -/
  externalIdentityProvider : Option String
  /-- The accounts in source control. -/
  scmAccounts : List String
  /-- When the user was last seen. -/
  lastConnection : Option Timestamp
deriving Repr, DecidableEq

namespace Record

/-- The elements of the accounts of an item; accounts that are absent or empty are none. -/
def accountsOf (document : Json) : Except Fault (List Json) :=
  if document.isPresent then document.elements else .ok []

/-- The date of the last connection of an item; one that is absent or empty is none. -/
def lastConnectionOf (document : Json) : Except Fault (Option Timestamp) :=
  if document.isPresent then
    match document with
    | .str text => ((Timestamp.parse text).mapError .timestamp).map some
    | _ => .error .lacksMember
  else .ok none

/-- Check the kinds of all fields, in the order in which a record declares them. -/
def check (userId login name email active isLocal externalLogin provider : Json)
    (accounts : List Json) (lastConnection : Option Timestamp) : Checked Record :=
  Record.mk
    <$> (Checked.text userId).under (.field "user_id")
    <*> (Checked.text login).under (.field "login")
    <*> (Checked.optionalText name).under (.field "name")
    <*> (Checked.optionalText email).under (.field "email")
    <*> (Checked.flag active).under (.field "active")
    <*> (Checked.flag isLocal).under (.field "local")
    <*> (Checked.optionalText externalLogin).under (.field "external_login")
    <*> (Checked.optionalText provider).under (.field "external_identity_provider")
    <*> (Checked.texts accounts).under (.field "scm_accounts")
    <*> pure lastConnection

/-- Check the kinds of the members of a record that is written under public names. Flags that are
absent are set. -/
def ofPublic (document : Json) (lastConnection : Option Timestamp) : Checked Record :=
  Record.mk
    <$> Checked.member "userId" Checked.text document
    <*> Checked.member "login" Checked.text document
    <*> Checked.memberOr "name" none Checked.optionalText document
    <*> Checked.memberOr "email" none Checked.optionalText document
    <*> Checked.memberOr "active" true Checked.flag document
    <*> Checked.memberOr "local" true Checked.flag document
    <*> Checked.memberOr "externalLogin" none Checked.optionalText document
    <*> Checked.memberOr "externalIdentityProvider" none Checked.optionalText document
    <*> Checked.memberOr "scmAccounts" [] Checked.textList document
    <*> pure lastConnection

/-- The record of a stored item. Flags that are absent are set. -/
def ofItem (item : Json) : Except Fault Record := do
  let lastConnection ← item.memberOr "lastConnectionDate" .null
  let userId ← item.required "userId"
  let login ← item.required "login"
  let name ← item.memberOr "name" .null
  let email ← item.memberOr "email" .null
  let active ← item.memberOr "active" (.bool true)
  let isLocal ← item.memberOr "local" (.bool true)
  let externalLogin ← item.memberOr "externalLogin" .null
  let provider ← item.memberOr "externalIdentityProvider" .null
  let accounts ← accountsOf (← item.memberOr "scmAccounts" .null)
  let lastConnection ← lastConnectionOf lastConnection
  (check userId login name email active isLocal externalLogin provider accounts
    lastConnection).outcome

end Record

end UserDirectory
