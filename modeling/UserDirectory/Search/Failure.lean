/-
How a search fails. Either a service that it depends on does not answer in time or fails, and then
the search says which; or what the services answered cannot be put together.
-/

import UserDirectory.Fault

namespace UserDirectory

/-- The services that a search depends on. -/
inductive Dependency where
  /-- The index of users. -/
  | userIndex
  /-- The store of records. -/
  | userStore
  /-- The store of group memberships. -/
  | groupMemberships
  /-- The store of tokens. -/
  | userTokens
  /-- The integrations that own users. -/
  | managedInstance
  /-- The resolver of avatars. -/
  | avatarResolver
deriving Repr, DecidableEq

/-- The name of a service in messages. -/
def Dependency.label : Dependency → String
  | .userIndex => "user-index"
  | .userStore => "user-store"
  | .groupMemberships => "group-memberships"
  | .userTokens => "user-tokens"
  | .managedInstance => "managed-instance"
  | .avatarResolver => "avatar-resolver"

/-- Why a service did not answer. -/
inductive FailureReason where
  /-- It did not answer within a limit, given in seconds. -/
  | noAnswer (limit : String)
  /-- It failed. -/
  | failed (fault : Fault)
deriving Repr, DecidableEq

/-- The failure of a service. -/
structure DependencyFailure where
  /-- The service. -/
  dependency : Dependency
  /-- Why it did not answer. -/
  reason : FailureReason
deriving Repr, DecidableEq

namespace DependencyFailure

/-- Whether the service was given up. -/
def timedOut (failure : DependencyFailure) : Bool :=
  match failure.reason with
  | .noAnswer _ => true
  | .failed _ => false

/-- What is said of the failure. -/
def detail (failure : DependencyFailure) : String :=
  match failure.reason with
  | .noAnswer limit => "no answer within " ++ limit ++ "s"
  | .failed fault => fault.message

/-- What is said of the failure, with the name of the service. -/
def message (failure : DependencyFailure) : String :=
  failure.dependency.label ++ ": " ++ failure.detail

/-- The failure of a service that reported a fault. A service that itself gave up waiting did not
answer in time. -/
def ofFault (dependency : Dependency) (limit : String) (fault : Fault) : DependencyFailure :=
  ⟨dependency, if fault.isTimeout then .noAnswer limit else .failed fault⟩

end DependencyFailure

/-- How a search fails. -/
inductive SearchFailure where
  /-- A service did not answer. -/
  | dependency (failure : DependencyFailure)
  /-- The answers of the services cannot be put together. -/
  | assembly (fault : Fault)
deriving Repr, DecidableEq

end UserDirectory
