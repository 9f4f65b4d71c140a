/-
Looking up the records of users by their logins. Each login is asked for once, a hundred at a time,
one chunk after another; logins without a stored record are absent from the result, and the order of
the result is the store's.
-/

import UserDirectory.Record
import UserDirectory.Store.Batch

namespace UserDirectory

/-- Read the records of one chunk of logins. The items are turned into records when all of them are
there. -/
def readRecords {σ : Type} (store : BatchStore σ) (table : String) (logins : List String) :
    Call σ Fault (List Record) := do
  let items ← readChunk store ⟨table, .user⟩ .ok logins
  Call.known (items.mapM Record.ofItem)

/-- The records of the given logins. Without a table there are none. -/
def usersByLogins {σ : Type} (store : BatchStore σ) (table : Option String) (logins : List String)
    (state : σ) : Run σ Fault (List Record) :=
  match table with
  | none => .known (.ok [])
  | some table =>
    let chunks := chunks maxBatchKeys (distinct logins)
    (Run.inTurn (readRecords store table) chunks .direct state).thenCheck
      fun records => .ok records.flatten

/-- The records of the logins of a page, in its order. Where several records carry a login the last
of them counts, and logins without a record are dropped. -/
def orderByLogins (records : List Record) (logins : List String) : List Record :=
  logins.filterMap fun login => records.reverse.find? fun record => record.login = login

end UserDirectory
