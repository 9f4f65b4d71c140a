/-
What all stores of the directory have in common: how long they take to answer, and when they fail. A
failure is set for the n-th call from then on, for every call about one key, or for every call; the
time is taken before the failure is reported.
-/

import UserDirectory.Concurrent.Call
import UserDirectory.Fault

namespace UserDirectory

/-- When a store fails. -/
inductive FailureRule where
  /-- At its n-th call. -/
  | atCall (number : Nat) (cause : Outage)
  /-- At every call about a key. -/
  | forKey (key : String) (cause : Outage)
  /-- At every call. -/
  | always (cause : Outage)
deriving Repr, DecidableEq

/-- How a store answers: how long it takes, and when it fails. -/
structure Desk where
  /-- How long a call takes. -/
  delay : Nat := 0
  /-- How long a call about some keys takes instead. -/
  keyDelays : List (String × Nat) := []
  /-- When it fails, if it does. -/
  failure : Option FailureRule := none
  /-- How many calls it has seen since the failure was set. -/
  seen : Nat := 0
deriving Repr, DecidableEq

namespace Desk

/-- How long a call takes, which may depend on the key it is about. -/
def delayFor (desk : Desk) (key : Option String) : Nat :=
  match desk.keyDelays.find? fun entry => some entry.1 = key with
  | some (_, delay) => delay
  | none => desk.delay

/-- The failure of a call, given its number and the key it is about. -/
def failureOf (desk : Desk) (number : Nat) (key : Option String) : Option Outage :=
  match desk.failure with
  | some (.atCall failing cause) => if number = failing then some cause else none
  | some (.forKey failing cause) => if key = some failing then some cause else none
  | some (.always cause) => some cause
  | none => none

/-- Receive a call about a key: it is counted, takes its time, and may fail. -/
def receive (key : Option String) : Call Desk Fault Unit :=
  fun desk =>
    let number := desk.seen + 1
    ⟨{ desk with seen := number }, desk.delayFor key,
      match desk.failureOf number key with
      | some cause => .error (.outage cause)
      | none => .ok ()⟩

/-- Set when the store fails; calls are counted anew. -/
def setFailure (desk : Desk) (failure : Option FailureRule) : Desk :=
  { desk with failure := failure, seen := 0 }

end Desk

end UserDirectory
