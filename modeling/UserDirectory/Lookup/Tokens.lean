/-
Counting the tokens of users. Tokens are stored under the identifier of a user and counted page by
page, a limited number of users at a time; the result is by login. Users without tokens are absent
from it, and where several users carry a login the last count that is not zero is the one found.
-/

import UserDirectory.Store.Batch
import UserDirectory.Store.Paged

namespace UserDirectory

/-- The query of the number of tokens of an identifier. -/
def tokenQuery (userId : String) : PageQuery :=
  ⟨partitionKey userId, "TOKEN#", true⟩

/-- Count the tokens of an identifier. -/
def countTokens {σ : Type} (store : PagedStore σ) (userId : String) : Call σ Fault Json :=
  readPages store (tokenQuery userId) Json.plus

/-- The counts by login, later ones standing for earlier ones of the same login. -/
def countsByLogin (logins : List String) (counts : List Json) : List (String × Json) :=
  (logins.zip counts).filter fun entry => entry.2.isPresent

/-- The numbers of tokens of users, given as pairs of identifier and login. Without a table there
are none. -/
def tokenCounts {σ : Type} (store : PagedStore σ) (enabled : Bool)
    (users : List (String × String)) (state : σ) : Run σ Fault (List (String × Json)) :=
  if enabled then
    (Run.bounded maxConcurrentCalls (countTokens store) (users.map (·.1)) state).thenCheck
      fun counts => .ok (countsByLogin (users.map (·.2)) counts)
  else .known (.ok [])

/-- The number of tokens of a login in the result of a look-up. -/
def tokensOf (counts : List (String × Json)) (login : String) : Json :=
  match counts.reverse.find? fun entry => entry.1 = login with
  | some (_, count) => count
  | none => .int 0

end UserDirectory
