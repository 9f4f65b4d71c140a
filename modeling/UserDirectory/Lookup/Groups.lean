/-
Looking up the groups of users by their logins. Each login has its own chain of pages, a limited
number of chains is followed at a time, and the names found are sorted. Logins without any group are
absent from the result.
-/

import UserDirectory.Store.Batch
import UserDirectory.Store.Paged

namespace UserDirectory

/-- The number of characters before the name of a group in its sort key. -/
def groupMarkLength : Nat := 6

/-- The name of a group: the one for display, or else the one in the sort key. -/
def groupName (item : Json) : Except Fault Json := do
  let display ← item.memberOr "groupName" .null
  if display.isPresent then pure display
  else (← item.required "SK").dropFirst groupMarkLength

/-- The query of the memberships of a login. -/
def groupQuery (login : String) : PageQuery :=
  ⟨partitionKey login, "GROUP#", false⟩

/-- Read the names of the groups of a login. -/
def readGroups {σ : Type} (store : PagedStore σ) (login : String) : Call σ Fault (List Json) := do
  let items ← readPages store (groupQuery login) Json.extend
  Call.known (items.elements.bind (·.mapM groupName))

/-- Sort the names of each login that has some. -/
def sortedGroups (logins : List String) (names : List (List Json)) :
    Except Fault (List (String × List Json)) :=
  ((logins.zip names).filter fun entry => !entry.2.isEmpty).mapM fun entry => do
    pure (entry.1, ← Json.sort entry.2)

/-- The sorted names of the groups of the given logins. Without a table there are none. -/
def groupsByLogins {σ : Type} (store : PagedStore σ) (enabled : Bool) (logins : List String)
    (state : σ) : Run σ Fault (List (String × List Json)) :=
  if enabled then
    let logins := distinct logins
    (Run.bounded maxConcurrentCalls (readGroups store) logins state).thenCheck (sortedGroups logins)
  else .known (.ok [])

/-- The names of the groups of a login in the result of a look-up. -/
def groupsOf (groups : List (String × List Json)) (login : String) : List Json :=
  Holding.itemsOf groups login

end UserDirectory
