/-
Settings of the service, read from named variables of its environment. A variable that is set to an
empty text is not the same as one that is not set: some settings take the default in both cases and
some only in the second, and each reader below says which.
-/

import UserDirectory.Fault
import UserDirectory.Text.LetterCase

namespace UserDirectory

/-- Named variables. -/
structure Environment where
  /-- The variables that are set, the first of equal names counting. -/
  entries : List (String × String)
deriving Repr, DecidableEq

namespace Environment

/-- The value of a variable that is set. -/
def get? (environment : Environment) (name : String) : Option String :=
  (environment.entries.find? fun entry => entry.1 = name).map (·.2)

/-- The value of a variable that is set and not empty. -/
def nonempty? (environment : Environment) (name : String) : Option String :=
  (environment.get? name).filter (· ≠ "")

/-- Set a variable, or unset it. -/
def set (environment : Environment) (name : String) (value : Option String) : Environment :=
  let others := environment.entries.filter fun entry => entry.1 ≠ name
  match value with
  | some value => ⟨(name, value) :: others⟩
  | none => ⟨others⟩

/-! ### Who is an administrator, and who must sign in -/

/-- The roles that make an administrator when none are configured. -/
def defaultAdminRoles : List String := ["Admin", "SuperAdmin"]

/-- The roles that make an administrator: the non-blank pieces of a comma-separated list. A list
that is not set or empty means the default roles, one of commas and blanks means none. -/
def adminRoles (environment : Environment) : List String :=
  match environment.nonempty? "SYSTEM_ADMIN_ROLES" with
  | some configured => Text.listed configured
  | none => defaultAdminRoles

/-- Whether tokens are looked at. They are, unless the variable is set to anything but `true`. -/
def authenticationEnabled (environment : Environment) : Bool :=
  match environment.get? "ENABLE_AUTHENTICATION" with
  | some value => Text.lower value = "true"
  | none => true

/-! ### How long a backing service may take -/

/-- The deadline of a backing service in seconds when none is configured. -/
def defaultTimeout : Binary64 := .ofDecimal false 10 0

/-- The deadline of a backing service in seconds. -/
def timeout (environment : Environment) : Except Fault Binary64 :=
  match environment.get? "USER_SEARCH_DEPENDENCY_TIMEOUT_SECONDS" with
  | some text =>
    match Number.float? text with
    | some seconds => .ok seconds
    | none => .error (.notAFloat text)
  | none => .ok defaultTimeout

end Environment

end UserDirectory
