/-
Two look-ups that run at the same time under one deadline. The first failure ends both: the other
look-up is stopped, and what it would have begun later does not happen. Of two failures at the same
instant the one comes first whose call had begun first. The deadline is set before any call begins,
so it comes before every end at its instant, and what it cuts off counts as a failure at the
deadline.
-/

import UserDirectory.Concurrent.Run

namespace UserDirectory

/-- What makes the outcome of an awaited look-up known. -/
inductive Halt where
  /-- The end of a call, by the cue it gives. -/
  | ended (cue : Cue)
  /-- The deadline, before which no outcome was known. -/
  | deadline
deriving Repr, DecidableEq

namespace Halt

/-- Whether one halt comes strictly before another. The deadline of two look-ups is the same, and
ends that come after it are not awaited. -/
def precedes : Halt → Halt → Bool
  | .ended first, .ended second => first.precedes second
  | .ended _, .deadline => true
  | .deadline, _ => false

/-- Whether a call with a cue begins although its stage comes to a halt at the end of another. What
the deadline itself lets begin is for the deadline to say. -/
def lets : Halt → Cue → Bool
  | .ended stop, cue => cue.isStart || !stop.precedes cue
  | .deadline, _ => true

end Halt

/-- A look-up as its stage sees it. -/
structure Awaited (ε α : Type) where
  /-- When the outcome is known. -/
  time : Rat
  /-- What makes it known. -/
  halt : Halt
  /-- The value or the failure. -/
  outcome : Except ε α

namespace Awaited

variable {ε α β : Type}

/-- Wait for two look-ups at once. The first failure is reported when it happens; without one both
values are there when the later one is. -/
def both (first : Awaited ε α) (second : Awaited ε β) : Awaited ε (α × β) :=
  match first.outcome, second.outcome with
  | .ok a, .ok b =>
    if first.time ≤ second.time then ⟨second.time, second.halt, .ok (a, b)⟩
    else ⟨first.time, first.halt, .ok (a, b)⟩
  | .error failure, .ok _ => ⟨first.time, first.halt, .error failure⟩
  | .ok _, .error failure => ⟨second.time, second.halt, .error failure⟩
  | .error failure, .error other =>
    if second.halt.precedes first.halt then ⟨second.time, second.halt, .error other⟩
    else ⟨first.time, first.halt, .error failure⟩

/-- Whether a call with a cue begins before a stage is over. Only a failure stops anything. -/
def lets (stage : Awaited ε α) (cue : Cue) : Bool :=
  match stage.outcome with
  | .ok _ => true
  | .error _ => stage.halt.lets cue

end Awaited

end UserDirectory
