/-
This file says how blocking calls end. A call is described by a property of the
state that it keeps, whatever happens, and by a property of the values that it
ends with. Whether it may also end with a failure is part of the description:
with failures allowed the description only speaks of the values there are, and
without it promises that there is one. Each rule below is stated once for both
readings.
-/

import UserDirectory.Concurrent.Call

namespace UserDirectory

variable {σ τ ε α β : Type}

/-! ### Outcomes -/

/-- An outcome is a value with a property or, if failures are allowed, a failure. -/
def Meets (failing : Prop) (result : α → Prop) : Except ε α → Prop
  | .ok value => result value
  | .error _ => failing

@[simp] theorem meets_ok (failing : Prop) (result : α → Prop) (value : α) :
    Meets failing result (.ok value : Except ε α) ↔ result value := Iff.rfl

@[simp] theorem meets_error (failing : Prop) (result : α → Prop) (failure : ε) :
    Meets failing result (.error failure : Except ε α) ↔ failing := Iff.rfl

theorem Meets.imp {failing : Prop} {result other : α → Prop} {outcome : Except ε α}
    (meets : Meets failing result outcome) (implied : ∀ value, result value → other value) :
    Meets failing other outcome := by
  cases outcome with
  | ok value => exact implied value meets
  | error _ => exact meets

/-- The value of an outcome is known to be its value. -/
theorem Meets.self {failing : Prop} {result : α → Prop} {outcome : Except ε α}
    (meets : Meets failing result outcome) :
    Meets failing (fun value => result value ∧ outcome = .ok value) outcome := by
  cases outcome with
  | ok value => exact ⟨meets, rfl⟩
  | error _ => exact meets

/-- Where failures are not allowed there is a value. -/
theorem Meets.exists_ok {result : α → Prop} {outcome : Except ε α}
    (meets : Meets False result outcome) : ∃ value, outcome = .ok value ∧ result value := by
  cases outcome with
  | ok value => exact ⟨value, rfl, meets⟩
  | error _ => exact meets.elim

theorem Meets.bind {failing : Prop} {result : α → Prop} {other : β → Prop}
    {outcome : Except ε α} {next : α → Except ε β} (meets : Meets failing result outcome)
    (later : ∀ value, result value → Meets failing other (next value)) :
    Meets failing other (outcome.bind next) := by
  cases outcome with
  | ok value => exact later value meets
  | error _ => exact meets

theorem Meets.map {failing : Prop} {result : α → Prop} {other : β → Prop}
    {outcome : Except ε α} {function : α → β} (meets : Meets failing result outcome)
    (implied : ∀ value, result value → other (function value)) :
    Meets failing other (outcome.map function) := by
  cases outcome with
  | ok value => exact implied value meets
  | error _ => exact meets

theorem bind_eq_ok_iff {outcome : Except ε α} {next : α → Except ε β} {result : β} :
    outcome.bind next = .ok result ↔ ∃ value, outcome = .ok value ∧ next value = .ok result := by
  cases outcome <;> simp [Except.bind]

theorem bind_eq_error_iff {outcome : Except ε α} {next : α → Except ε β} {failure : ε} :
    outcome.bind next = .error failure ↔ outcome = .error failure ∨
      ∃ value, outcome = .ok value ∧ next value = .error failure := by
  cases outcome <;> simp [Except.bind]

theorem map_eq_ok_iff {outcome : Except ε α} {function : α → β} {result : β} :
    outcome.map function = .ok result ↔ ∃ value, outcome = .ok value ∧ function value = result := by
  cases outcome <;> simp [Except.map]

theorem mapError_eq_ok_iff {ε' : Type} {outcome : Except ε α} {function : ε → ε'} {result : α} :
    outcome.mapError function = .ok result ↔ outcome = .ok result := by
  cases outcome with
  | error failure => exact ⟨nofun, nofun⟩
  | ok value =>
    show (.ok value : Except ε' α) = .ok result ↔ _
    rw [Except.ok.injEq, Except.ok.injEq]

/-- The values of a list to which a partial function is applied: there are some if and only if
each element has one. -/
theorem mapM_eq_ok_iff {function : α → Except ε β} {items : List α} {values : List β} :
    items.mapM function = .ok values ↔ items.map function = values.map .ok := by
  induction items generalizing values with
  | nil =>
    cases values with
    | nil => simp [pure, Except.pure]
    | cons _ _ => simp [pure, Except.pure]
  | cons item rest inductionHypothesis =>
    rw [List.mapM_cons, List.map_cons]
    cases first : function item with
    | error failure => cases values <;> simp [bind, Except.bind]
    | ok value =>
      cases later : rest.mapM function with
      | error failure =>
        cases values with
        | nil => simp [bind, Except.bind]
        | cons other others =>
          have notLater : rest.map function ≠ others.map .ok := fun equal => by
            rw [inductionHypothesis.mpr equal] at later
            cases later
          simp [bind, Except.bind, notLater]
      | ok more =>
        have laterMap := inductionHypothesis.mp later
        cases values with
        | nil => simp [bind, Except.bind, pure, Except.pure]
        | cons other others =>
          have injective : (more.map (Except.ok : β → Except ε β) = others.map .ok) ↔
              more = others :=
            List.map_inj_right fun _ _ equal => Except.ok.inj equal
          simp [bind, Except.bind, pure, Except.pure, laterMap, injective]

theorem mapM_cons_eq_ok_iff {function : α → Except ε β} {item : α} {rest : List α}
    {values : List β} :
    (item :: rest).mapM function = .ok values ↔ ∃ value others,
      function item = .ok value ∧ rest.mapM function = .ok others ∧ values = value :: others := by
  rw [List.mapM_cons]
  constructor
  · intro mapped
    obtain ⟨value, first, mapped⟩ := bind_eq_ok_iff.mp mapped
    obtain ⟨others, later, mapped⟩ := bind_eq_ok_iff.mp mapped
    exact ⟨value, others, first, later, (Except.ok.inj mapped).symm⟩
  · rintro ⟨value, others, first, later, rfl⟩
    exact bind_eq_ok_iff.mpr ⟨value, first, bind_eq_ok_iff.mpr ⟨others, later, rfl⟩⟩

/-- What can be read off each value as off its element can be read off all of them. -/
theorem map_of_mapM_ok {γ : Type} {function : α → Except ε β} {items : List α} {values : List β}
    {told : β → γ} {known : α → γ} (mapped : items.mapM function = .ok values)
    (agree : ∀ item value, function item = .ok value → told value = known item) :
    values.map told = items.map known := by
  induction items generalizing values with
  | nil =>
    obtain rfl : values = [] := (Except.ok.inj mapped).symm
    rfl
  | cons item rest inductionHypothesis =>
    obtain ⟨value, others, first, later, rfl⟩ := mapM_cons_eq_ok_iff.mp mapped
    rw [List.map_cons, List.map_cons, agree item value first, inductionHypothesis later]

theorem exists_mapM_ok {function : α → Except ε β} {items : List α}
    (each : ∀ item ∈ items, ∃ value, function item = .ok value) :
    ∃ values, items.mapM function = .ok values := by
  induction items with
  | nil => exact ⟨[], rfl⟩
  | cons item rest inductionHypothesis =>
    rw [List.forall_mem_cons] at each
    obtain ⟨value, first⟩ := each.1
    obtain ⟨values, later⟩ := inductionHypothesis each.2
    refine ⟨value :: values, mapM_eq_ok_iff.mpr ?_⟩
    rw [List.map_cons, List.map_cons, first, mapM_eq_ok_iff.mp later]

/-! ### Calls -/

namespace Call

theorem run_bind_of_ok {first : Call σ ε α} {next : α → Call σ ε β} {state : σ} {value : α}
    (outcome : (first.run state).outcome = .ok value) :
    (first >>= next).run state =
      ⟨((next value).run (first.run state).state).state,
        (first.run state).took + ((next value).run (first.run state).state).took,
        ((next value).run (first.run state).state).outcome⟩ := by
  show (first.andThen next) state = _
  unfold andThen
  simp only [run] at outcome
  simp only [outcome, run]

theorem run_bind_of_error {first : Call σ ε α} {next : α → Call σ ε β} {state : σ} {failure : ε}
    (outcome : (first.run state).outcome = .error failure) :
    (first >>= next).run state =
      ⟨(first.run state).state, (first.run state).took, .error failure⟩ := by
  show (first.andThen next) state = _
  unfold andThen
  simp only [run] at outcome
  simp only [outcome, run]

/-- How a call ends: it keeps a property of the state, and its outcome is a value with a property
or, if failures are allowed, a failure. -/
def Ends (failing : Prop) (invariant : σ → Prop) (result : α → Prop) (call : Call σ ε α) : Prop :=
  ∀ state, invariant state →
    invariant (call.run state).state ∧ Meets failing result (call.run state).outcome

variable {failing : Prop} {invariant : σ → Prop}

theorem Ends.imp {result other : α → Prop} {call : Call σ ε α}
    (ends : call.Ends failing invariant result) (implied : ∀ value, result value → other value) :
    call.Ends failing invariant other :=
  fun state start => ⟨(ends state start).1, (ends state start).2.imp implied⟩

theorem ends_known {result : α → Prop} {outcome : Except ε α}
    (meets : Meets failing result outcome) :
    (known outcome : Call σ ε α).Ends failing invariant result :=
  fun _ start => ⟨start, meets⟩

theorem ends_update {change : σ → σ} {result : Unit → Prop}
    (keeps : ∀ state, invariant state → invariant (change state)) (holds : result ()) :
    (update change : Call σ ε Unit).Ends failing invariant result :=
  fun state start => ⟨keeps state start, holds⟩

/-- A call after another one starts from the state and the value that the first one leaves. -/
theorem Ends.bind {first : Call σ ε α} {next : α → Call σ ε β} {middle : α → Prop}
    {result : β → Prop} (ends : first.Ends failing invariant middle)
    (later : ∀ value, middle value → (next value).Ends failing invariant result) :
    (first >>= next).Ends failing invariant result := by
  intro state start
  obtain ⟨kept, meets⟩ := ends state start
  cases outcome : (first.run state).outcome with
  | error failure =>
    rw [outcome] at meets
    rw [run_bind_of_error outcome]
    exact ⟨kept, meets⟩
  | ok value =>
    rw [outcome] at meets
    rw [run_bind_of_ok outcome]
    exact later value meets _ kept

/-- A call after a known outcome starts from the same state. -/
theorem ends_known_bind {outcome : Except ε α} {next : α → Call σ ε β} (middle : α → Prop)
    {result : β → Prop} (meets : Meets failing middle outcome)
    (later : ∀ value, middle value → (next value).Ends failing invariant result) :
    (known outcome >>= next).Ends failing invariant result :=
  Ends.bind (ends_known meets) later

/-- A call after a change of the state starts from the changed state. -/
theorem ends_update_bind {change : σ → σ} {next : Unit → Call σ ε β} {result : β → Prop}
    (keeps : ∀ state, invariant state → invariant (change state))
    (later : (next ()).Ends failing invariant result) :
    (update change >>= next).Ends failing invariant result := by
  have updated : (update change : Call σ ε Unit).Ends failing invariant fun _ => True :=
    ends_update keeps trivial
  exact updated.bind fun _ _ => later

/-- A call on a part of a larger state ends as it does on the part alone. -/
theorem Ends.within {part : τ → σ} {replace : τ → σ → τ} {call : Call σ ε α}
    {result : α → Prop} {whole : τ → Prop} (ends : call.Ends failing invariant result)
    (enter : ∀ state, whole state → invariant (part state))
    (leave : ∀ state inner, whole state → invariant inner → whole (replace state inner)) :
    (call.within part replace).Ends failing whole result := by
  intro state start
  obtain ⟨kept, meets⟩ := ends (part state) (enter state start)
  exact ⟨leave state _ start kept, meets⟩

/-! ### What calls lead to -/

/-- What a call leads to: from every state with a property, to an outcome and a state that fit each
other. Unlike `Ends` this tells failures apart and relates the states before and after. -/
def Leads (before : σ → Prop) (after : Except ε α → σ → Prop) (call : Call σ ε α) : Prop :=
  ∀ state, before state → after (call.run state).outcome (call.run state).state

variable {before : σ → Prop}

theorem leads_known {after : Except ε α → σ → Prop} {outcome : Except ε α}
    (fits : ∀ state, before state → after outcome state) :
    (known outcome : Call σ ε α).Leads before after :=
  fits

/-- A call after another one goes on from where the first one leads, unless that is a failure. -/
theorem Leads.bind {first : Call σ ε α} {next : α → Call σ ε β}
    {middle : Except ε α → σ → Prop} {after : Except ε β → σ → Prop}
    (leads : first.Leads before middle)
    (later : ∀ value, (next value).Leads (middle (.ok value)) after)
    (failed : ∀ failure state, middle (.error failure) state → after (.error failure) state) :
    (first >>= next).Leads before after := by
  intro state start
  have reached := leads state start
  cases outcome : (first.run state).outcome with
  | error failure =>
    rw [outcome] at reached
    rw [run_bind_of_error outcome]
    exact failed failure _ reached
  | ok value =>
    rw [outcome] at reached
    rw [run_bind_of_ok outcome]
    exact later value _ reached

/-- A call after one that is known to succeed goes on from its value. -/
theorem Leads.bind_of_ok {first : Call σ ε α} {next : α → Call σ ε β} {value : α}
    {middle : σ → Prop} {after : Except ε β → σ → Prop}
    (leads : first.Leads before fun outcome state => outcome = .ok value ∧ middle state)
    (later : (next value).Leads middle after) : (first >>= next).Leads before after := by
  intro state start
  obtain ⟨outcome, reached⟩ := leads state start
  rw [run_bind_of_ok outcome]
  exact later _ reached

/-- A call after a known value goes on from the same state. -/
theorem Leads.known_bind {value : α} {next : α → Call σ ε β} {after : Except ε β → σ → Prop}
    (leads : (next value).Leads before after) :
    (known (.ok value) >>= next).Leads before after :=
  (leads_known fun _ start => ⟨rfl, start⟩).bind_of_ok leads

end Call

end UserDirectory
