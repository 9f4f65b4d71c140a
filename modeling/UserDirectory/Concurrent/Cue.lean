/-
What lets calls begin. A call begins either with its stage or at the end of another call. Ends at
the same instant are dealt with one by one, in the order in which the calls that end had begun, and
whatever an end lets begin is under way before the next end. So cues are ordered by more than their
instants, and the order of two cues settles which of two simultaneous events comes first.
-/

namespace UserDirectory

/-- What lets a call begin. -/
inductive Cue where
  /-- The start of a stage. Calls of a lower rank begin first. -/
  | start (rank : Nat)
  /-- The end, at an instant, of the call that another cue had let begin. -/
  | finish (instant : Nat) (cue : Cue)
deriving Repr, DecidableEq

namespace Cue

/-- The cue of a call that a stage makes itself. -/
def direct : Cue := .start 0

/-- The cue of the first calls that are made for several items at a time. -/
def pooled : Cue := .start 1

/-- When a cue is given. -/
def instant : Cue → Nat
  | .start _ => 0
  | .finish instant _ => instant

/-- Whether a cue is the start of a stage. -/
def isStart : Cue → Bool
  | .start _ => true
  | .finish _ _ => false

/-- Whether a cue is given strictly before another one. -/
def precedes : Cue → Cue → Bool
  | .start first, .start second => first < second
  | .start _, .finish _ _ => true
  | .finish _ _, .start _ => false
  | .finish first cue, .finish second other =>
    first < second || (first == second && cue.precedes other)

/-- The later of two cues, the second one if neither precedes the other. -/
def later (first second : Cue) : Cue :=
  if second.precedes first then first else second

end Cue

end UserDirectory
