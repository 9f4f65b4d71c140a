/-
Which tables the directory reads. The name of a table comes from the caller or from the settings.
For the table of users an empty name means that there is none; for the others it means that the
settings decide. Opening a table takes a region, and a profile if one is set.
-/

import UserDirectory.Settings

namespace UserDirectory

/-- The tables of the directory. -/
inductive TableRole where
  /-- The records of users. -/
  | users
  /-- The groups of users. -/
  | groups
  /-- The tokens of users. -/
  | tokens
  /-- The users that external integrations own. -/
  | managed
deriving Repr, DecidableEq

namespace TableRole

/-- The variable that names the table. -/
def setting : TableRole → String
  | .users => "DYNAMODB_USERS_TABLE_NAME"
  | .groups => "DYNAMODB_GROUP_MEMBERSHIPS_TABLE_NAME"
  | .tokens => "DYNAMODB_USER_TOKENS_TABLE_NAME"
  | .managed => "DYNAMODB_MANAGED_USERS_TABLE_NAME"

/-- The name of the table, if there is one. -/
def tableName (role : TableRole) (environment : Environment) (chosen : Option String) :
    Option String :=
  match role with
  | .users => (chosen.or (environment.get? role.setting)).filter (· ≠ "")
  | _ => (chosen.filter (· ≠ "")).or (environment.nonempty? role.setting)

/-- Whether the table itself is opened at once; the entries of integrations are read through the
service alone. -/
def isOpened : TableRole → Bool
  | .managed => false
  | _ => true

end TableRole

/-- A connection to the service that keeps the tables. -/
structure TableConnection where
  /-- The region. -/
  region : String
  /-- The profile, if one is set. -/
  profile : Option String
  /-- The table that is opened, if one is. -/
  table : Option String
deriving Repr, DecidableEq

/-- The region when none is configured. -/
def defaultRegion : String := "us-west-2"

/-- The connection that is made for a table, if there is one. -/
def TableRole.connect (role : TableRole) (environment : Environment)
    (chosen region : Option String) : Option TableConnection :=
  (role.tableName environment chosen).map fun name =>
    { region := (region.filter (· ≠ "")).getD ((environment.get? "AWS_REGION").getD defaultRegion)
      profile := environment.nonempty? "AWS_PROFILE"
      table := if role.isOpened then some name else none }

end UserDirectory
