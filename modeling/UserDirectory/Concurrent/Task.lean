/-
Tasks, and what comes of several that run from the same instant. If none fails, the values are there
when the last one is. At the first failure the others are cancelled, their cleanups are waited for,
and the failure is reported; what the cleanups report is lost. This is told here at once, for
whoever waits undisturbed. How it comes about, and what happens if whoever waits is cancelled too,
is told step by step by a watch over the tasks.
-/

namespace UserDirectory

/-! ### Results that are known at an instant -/

/-- A value or a failure, and when it is known. -/
structure Timed (τ ε α : Type) where
  /-- When the outcome is known. -/
  time : τ
  /-- The value or the failure. -/
  outcome : Except ε α

/-! ### Tasks and their course -/

/-- Work that takes time and ends with a value or a failure. When it is cancelled it first cleans
up. -/
structure Task (ε α : Type) where
  /-- How long the work takes. -/
  duration : Nat
  /-- How the work ends. -/
  outcome : Except ε α
  /-- How long the cleanup takes. -/
  cleanup : Nat
  /-- What the cleanup reports, if it does not just confirm the cancellation. -/
  cleanupFailure : Option ε

/-- How a task ended. -/
inductive Ending where
  /-- With a value. -/
  | done
  /-- With a failure of its own. -/
  | failed
  /-- Cancelled, its cleanup completed. -/
  | cancelled
  /-- Cancelled, its cleanup cut short. -/
  | abandoned
deriving Repr, DecidableEq

/-- How and when a task ended. -/
structure Course where
  /-- How it ended. -/
  ending : Ending
  /-- When it ended. -/
  time : Nat
deriving Repr, DecidableEq

/-- An instant at which whatever has not ended is cancelled. -/
structure Interruption where
  /-- The instant. -/
  time : Nat
  /-- How many of the first tasks still end by themselves if they end at this very instant. -/
  spared : Nat
deriving Repr, DecidableEq

/-- Whether the task at a position ends before the interruption, given when it begins to wait and
how long. One that does not wait at all cannot be interrupted. -/
def Interruption.misses (interruption : Interruption) (position start wait : Nat) : Bool :=
  wait = 0 || start + wait < interruption.time
    || (start + wait = interruption.time && position < interruption.spared)

namespace Task

variable {ε α : Type}

/-- A task without cleanup. -/
def plain (duration : Nat) (outcome : Except ε α) : Task ε α :=
  ⟨duration, outcome, 0, none⟩

/-- The failure of a task, if it has one. -/
def failure? (task : Task ε α) : Option ε :=
  match task.outcome with
  | .ok _ => none
  | .error failure => some failure

/-- The course of a task that nothing interrupts. -/
def ownCourse (task : Task ε α) : Course :=
  ⟨if task.failure?.isSome then .failed else .done, task.duration⟩

/-- The course of the task at a position that is interrupted. -/
def course (task : Task ε α) (position : Nat) (interruption : Interruption) : Course :=
  if interruption.misses position 0 task.duration then task.ownCourse
  else ⟨.cancelled, interruption.time + task.cleanup⟩

end Task

/-! ### Gathering -/

/-- The failure of one of several tasks. -/
structure Failure (ε : Type) where
  /-- The position of the task. -/
  position : Nat
  /-- When it fails. -/
  time : Nat
  /-- Why it fails. -/
  cause : ε

/-- The interruption that a failure is for the other tasks. -/
def Failure.interruption {ε : Type} (failure : Failure ε) : Interruption :=
  ⟨failure.time, failure.position + 1⟩

namespace Gather

variable {ε α : Type}

/-- The failure that happens first, the earliest task's of several at one instant. -/
def firstFailure : List (Task ε α) → Option (Failure ε)
  | [] => none
  | task :: rest =>
    let later := (firstFailure rest).map fun failure =>
      { failure with position := failure.position + 1 }
    match task.failure? with
    | none => later
    | some cause =>
      match later with
      | none => some ⟨0, task.duration, cause⟩
      | some later =>
        if task.duration ≤ later.time then some ⟨0, task.duration, cause⟩ else some later

/-- The values of the tasks that have one, in their order. -/
def values (tasks : List (Task ε α)) : List α :=
  tasks.filterMap fun task => task.outcome.toOption

/-- The latest of some instants. -/
def latest (instants : List Nat) : Nat :=
  instants.foldr max 0

/-- When the first task fails, or the last one ends if none does. -/
def turning (tasks : List (Task ε α)) : Nat :=
  match firstFailure tasks with
  | some failure => failure.time
  | none => latest (tasks.map (·.duration))

/-- The course of each task when whoever waits is not cancelled: after the first failure the others
are cancelled. -/
def courses (tasks : List (Task ε α)) : List Course :=
  match firstFailure tasks with
  | none => tasks.map (·.ownCourse)
  | some failure => tasks.mapIdx fun position task => task.course position failure.interruption

/-- Wait for all tasks: for the values, or for the first failure and the cleanups that follow it. -/
def awaitAll (tasks : List (Task ε α)) : Timed Nat ε (List α) :=
  let time := latest (turning tasks :: (courses tasks).map (·.time))
  match firstFailure tasks with
  | none => ⟨time, .ok (values tasks)⟩
  | some failure => ⟨time, .error failure.cause⟩

end Gather

end UserDirectory
