/-
Deadlines of backing services. An answer counts only if it is there strictly before the deadline. A
deadline that is not after the start lets no call begin; without a finite deadline every answer
counts. Deadlines are configured in seconds as floating-point numbers and kept in milliseconds, to
the nearest such number; one that is no number passes as soon as the first calls have begun.
-/

import UserDirectory.Concurrent.Stage
import UserDirectory.Settings

namespace UserDirectory

/-- When something is given up. -/
inductive Limit where
  /-- Never. -/
  | never
  /-- After a time in milliseconds. -/
  | after (time : Rat)
  /-- At once, after the first calls have begun. -/
  | undefined
deriving Repr, DecidableEq

/-- When a backing service is given up, and how that limit is shown. -/
structure Deadline where
  /-- The limit. -/
  limit : Limit
  /-- The limit in seconds, as it was configured. -/
  text : String
deriving Repr, DecidableEq

namespace Deadline

/-- The deadline of a configured number of seconds. -/
def ofSeconds (seconds : Binary64) : Deadline :=
  let milliseconds := seconds.scaled 1000
  ⟨match milliseconds with
    | .nan => .undefined
    | .infinite negative => if negative then .after 0 else .never
    | .finite .. => .after (milliseconds.toRat?.getD 0),
    seconds.text⟩

/-- The deadline of a whole number of seconds. -/
def ofWholeSeconds (seconds : Int) : Deadline :=
  ⟨.after (1000 * seconds), toString seconds⟩

/-- Whether the deadline has passed at an instant. -/
def hasPassed (deadline : Deadline) (instant : Rat) : Bool :=
  match deadline.limit with
  | .never => false
  | .after limit => limit ≤ instant
  | .undefined => true

/-- The instant at which a service is given up. -/
def instant (deadline : Deadline) : Rat :=
  match deadline.limit with
  | .after limit => if limit ≤ 0 then 0 else limit
  | .never | .undefined => 0

/-- Whether a call with a cue begins before the deadline. -/
def lets (deadline : Deadline) (cue : Cue) : Bool :=
  match deadline.limit with
  | .never => true
  | .after limit => (cue.instant : Rat) < limit
  | .undefined => cue.isStart

end Deadline

end UserDirectory
