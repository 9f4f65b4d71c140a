/-
Blocking calls. A call is made against a state, takes some time, leaves the state changed, and ends
with a value or a failure. Calls made one after another inside a single blocking call add up their
times, and the first failure ends them; what has changed until then stays changed. Times are whole
milliseconds.
-/

namespace UserDirectory

/-- How a blocking call ended. -/
structure Served (σ ε α : Type) where
  /-- The state it left. -/
  state : σ
  /-- How long it took. -/
  took : Nat
  /-- The value or the failure. -/
  outcome : Except ε α

/-- A blocking call against a state. -/
def Call (σ ε α : Type) : Type := σ → Served σ ε α

namespace Call

variable {σ ε α β : Type}

/-- Make a call against a state. -/
def run (call : Call σ ε α) (state : σ) : Served σ ε α :=
  call state

/-- A call that takes no time and ends with an outcome that is already known. -/
def known (outcome : Except ε α) : Call σ ε α :=
  fun state => ⟨state, 0, outcome⟩

/-- Change the state without taking any time. -/
def update (change : σ → σ) : Call σ ε Unit :=
  fun state => ⟨change state, 0, .ok ()⟩

/-- Make another call with the value of a first one. -/
def andThen (call : Call σ ε α) (next : α → Call σ ε β) : Call σ ε β :=
  fun state =>
    let first := call state
    match first.outcome with
    | .error failure => ⟨first.state, first.took, .error failure⟩
    | .ok value =>
      let second := next value first.state
      ⟨second.state, first.took + second.took, second.outcome⟩

instance : Monad (Call σ ε) where
  pure value := known (.ok value)
  bind := andThen

/-- Make a call against a part of a larger state. -/
def within {τ : Type} (part : τ → σ) (replace : τ → σ → τ) (call : Call σ ε α) : Call τ ε α :=
  fun whole =>
    let served := call (part whole)
    ⟨replace whole served.state, served.took, served.outcome⟩

end Call

end UserDirectory
