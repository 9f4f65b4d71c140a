/-
Look-ups made of blocking calls. A look-up is observed as if nothing stopped it: which calls it
begins and on which cue, what state each leaves and when each ends, and how and when it ends itself.
If it is stopped, the calls that had begun by then have had their effect and no other has, so the
state it leaves can be read off the history. Nothing stops a call, so those that had begun end when
they would have ended anyway, perhaps after the look-up was given up. Calls are made one after
another, or at the same time as far as there are permits; permits are handed out in the order of the
items.
-/

import UserDirectory.Concurrent.Call
import UserDirectory.Concurrent.Cue
import UserDirectory.Concurrent.Gather

namespace UserDirectory

/-- A look-up observed as if nothing stopped it. -/
structure Run (σ ε α : Type) where
  /-- The cue of each call, in order, and the state the call leaves. -/
  history : List (Cue × σ)
  /-- When each of these calls ends. -/
  ends : List Nat
  /-- The cue that the end of the look-up gives. -/
  closing : Cue
  /-- How the look-up ends. -/
  outcome : Except ε α

namespace Run

variable {σ ε α β ι : Type}

/-- When a look-up ends. -/
def time (run : Run σ ε α) : Nat :=
  run.closing.instant

/-- A look-up that makes no call. -/
def known (outcome : Except ε α) : Run σ ε α :=
  ⟨[], [], .direct, outcome⟩

/-- A look-up that makes a single call. -/
def single (call : Call σ ε α) (state : σ) : Run σ ε α :=
  let served := call.run state
  ⟨[(.direct, served.state)], [served.took], .finish served.took .direct, served.outcome⟩

/-- Work on the value of a look-up when it is there. -/
def thenCheck (run : Run σ ε α) (next : α → Except ε β) : Run σ ε β :=
  ⟨run.history, run.ends, run.closing, run.outcome.bind next⟩

/-- The state after the first calls, as long as a condition holds of their cues. -/
def stateWhile (run : Run σ ε α) (initial : σ) (begins : Cue → Bool) : σ :=
  match (run.history.takeWhile fun entry => begins entry.1).getLast? with
  | some (_, state) => state
  | none => initial

/-- When the first calls end, as long as a condition holds of their cues. -/
def endsWhile (run : Run σ ε α) (begins : Cue → Bool) : List Nat :=
  ((run.history.zip run.ends).takeWhile fun call => begins call.1.1).map (·.2)

/-- The state after all calls. -/
def finalState (run : Run σ ε α) (initial : σ) : σ :=
  run.stateWhile initial fun _ => true

/-! ### One call after another -/

/-- Make a call for each item, one after another from the given cue on, until one fails. -/
def inTurn (call : ι → Call σ ε α) : List ι → Cue → σ → Run σ ε (List α)
  | [], cue, _ => ⟨[], [], cue, .ok []⟩
  | item :: rest, cue, state =>
    let served := (call item).run state
    let ending := Cue.finish (cue.instant + served.took) cue
    match served.outcome with
    | .error failure => ⟨[(cue, served.state)], [ending.instant], ending, .error failure⟩
    | .ok value =>
      let later := inTurn call rest ending served.state
      ⟨(cue, served.state) :: later.history, ending.instant :: later.ends, later.closing,
        later.outcome.map (value :: ·)⟩

/-! ### Several calls at a time -/

/-- A call that was made when a permit was free. -/
structure Occupation (σ ε α : Type) where
  /-- What let the call begin. -/
  cue : Cue
  /-- When the call ended and its permit was free again. -/
  finish : Nat
  /-- The state the call left. -/
  state : σ
  /-- How the call ended. -/
  outcome : Except ε α

namespace Occupation

/-- When a call began. -/
def start (occupation : Occupation σ ε α) : Nat :=
  occupation.cue.instant

/-- The cue that the end of a call gives. -/
def ending (occupation : Occupation σ ε α) : Cue :=
  .finish occupation.finish occupation.cue

/-- The task that a call is for whoever waits for it. -/
def task (occupation : Occupation σ ε α) : Task ε α :=
  .plain occupation.finish occupation.outcome

end Occupation

/-- A permit to make a call. -/
structure Permit where
  /-- The cue on which it is free. -/
  cue : Cue
  /-- Whether it was freed by a failure, so that nothing begins after the call it goes to. -/
  isLast : Bool
deriving Repr, DecidableEq

/-- The permit that is free again when a call ends. -/
def Occupation.permit (occupation : Occupation σ ε α) : Permit :=
  ⟨occupation.ending, match occupation.outcome with
    | .ok _ => false
    | .error _ => true⟩

/-- Put a permit among the others in the order in which they are free, behind those that are free at
the same instant. -/
def release (permit : Permit) : List Permit → List Permit
  | [] => [permit]
  | first :: rest =>
    if permit.cue.instant < first.cue.instant then permit :: first :: rest
    else first :: release permit rest

/-- Make a call for each item in order, each as soon as a permit is free. `free` holds the permits
in the order in which they are free. A failure is known only after its permit has been taken, so the
call that takes it is the last one. -/
def schedule (call : ι → Call σ ε α) :
    List ι → (free : List Permit) → σ → List (Occupation σ ε α)
  | [], _, _ => []
  | _ :: _, [], _ => []
  | item :: rest, permit :: others, state =>
    let served := (call item).run state
    let occupation : Occupation σ ε α :=
      ⟨permit.cue, permit.cue.instant + served.took, served.state, served.outcome⟩
    occupation ::
      if permit.isLast then []
      else schedule call rest (release occupation.permit others) served.state

/-- The calls for items that are made with a number of permits. -/
def occupations (permits : Nat) (call : ι → Call σ ε α) (items : List ι) (state : σ) :
    List (Occupation σ ε α) :=
  schedule call items (List.replicate permits ⟨.pooled, false⟩) state

/-- The cue on which calls have an outcome: the end of the one that fails first, or else the last
end. -/
def closingOf (occupations : List (Occupation σ ε α)) : Cue :=
  match Gather.firstFailure (occupations.map (·.task)) with
  | some failure => ((occupations.map (·.ending))[failure.position]?).getD .pooled
  | none => (occupations.map (·.ending)).foldl Cue.later .pooled

/-- Make a call for each item with a number of permits and wait for all of them. -/
def bounded (permits : Nat) (call : ι → Call σ ε α) (items : List ι) (state : σ) :
    Run σ ε (List α) :=
  let occupations := occupations permits call items state
  ⟨occupations.map fun occupation => (occupation.cue, occupation.state),
    occupations.map (·.finish), closingOf occupations,
    (Gather.awaitAll (occupations.map (·.task))).outcome⟩

/-- How many of some calls are still under way at an instant. -/
def underWay (instant : Nat) (occupations : List (Occupation σ ε α)) : Nat :=
  (occupations.filter fun occupation => instant < occupation.finish).length

/-- The most calls that are under way at the same time, looking at each call together with the
`earlier` ones when it begins. -/
def mostAtOnce (earlier : List (Occupation σ ε α)) : List (Occupation σ ε α) → Nat
  | [] => 0
  | occupation :: rest =>
    max (underWay occupation.start earlier + 1) (mostAtOnce (occupation :: earlier) rest)

end Run

/-- How many calls a look-up for many items makes at the same time. -/
def maxConcurrentCalls : Nat := 16

end UserDirectory
