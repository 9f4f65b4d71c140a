/-
This file says whom a look-up of managed users consults, and that the order in
which it is asked about users does not matter. Of the integrations, whatever they
are, the first active one is asked, once and about all users; it answers as if it
were alone with its store, and its failure is the failure of the look-up. If that
one keeps its users in a table that processes a fixed number of keys at a time,
then users asked about in another order are put into other chunks, and other keys
are left aside; but how many are left aside, how many requests are made, how long
they take and what is told of each user stay the same.
-/

import UserDirectory.Proofs.Lookup.Rationed

namespace UserDirectory

/-! ### Look-ups on a part of the state -/

section Part

variable {σ τ ε α β ι : Type} {part : τ → σ} {replace : τ → σ → τ}

/-- A part of a state can be replaced without touching the rest. -/
structure IsPart (part : τ → σ) (replace : τ → σ → τ) : Prop where
  replace_part : ∀ whole, replace whole (part whole) = whole
  part_replace : ∀ whole inner, part (replace whole inner) = inner
  replace_replace : ∀ whole first second,
    replace (replace whole first) second = replace whole second

theorem Call.run_within (call : Call σ ε α) (whole : τ) :
    (call.within part replace).run whole =
      ⟨replace whole (call.run (part whole)).state, (call.run (part whole)).took,
        (call.run (part whole)).outcome⟩ :=
  rfl

theorem Call.within_known (isPart : IsPart part replace) (outcome : Except ε α) :
    (known outcome : Call σ ε α).within part replace = known outcome := by
  funext whole
  exact congrArg (Served.mk · 0 outcome) (isPart.replace_part whole)

/-- Calls one after another on a part are calls on the part one after another. -/
theorem Call.within_bind (isPart : IsPart part replace) (first : Call σ ε α)
    (next : α → Call σ ε β) :
    (first >>= next).within part replace =
      first.within part replace >>= fun value => (next value).within part replace := by
  funext whole
  change ((first >>= next).within part replace).run whole = Call.run _ whole
  rw [run_within]
  cases outcome : (first.run (part whole)).outcome with
  | error failure =>
    have outside : ((first.within part replace).run whole).outcome = .error failure := outcome
    rw [run_bind_of_error outside, run_bind_of_error outcome, run_within]
  | ok value =>
    have outside : ((first.within part replace).run whole).outcome = .ok value := outcome
    rw [run_bind_of_ok outside, run_bind_of_ok outcome, run_within, run_within,
      isPart.part_replace, isPart.replace_replace]

/-- A look-up on a part of a state, as a look-up on the whole. -/
def Run.inside (replace : τ → σ → τ) (whole : τ) (run : Run σ ε α) : Run τ ε α :=
  ⟨run.history.map fun entry => (entry.1, replace whole entry.2), run.ends, run.closing,
    run.outcome⟩

theorem Run.finalState_inside (isPart : IsPart part replace) (whole : τ) (run : Run σ ε α) :
    (run.inside replace whole).finalState whole =
      replace whole (run.finalState (part whole)) := by
  rw [finalState_eq, finalState_eq, inside, List.getLast?_map]
  cases run.history.getLast? with
  | none => exact (isPart.replace_part whole).symm
  | some entry => rfl

theorem Run.inTurn_within (isPart : IsPart part replace) (call : ι → Call σ ε α) (items : List ι)
    (cue : Cue) (whole : τ) :
    inTurn (fun item => (call item).within part replace) items cue whole =
      (inTurn call items cue (part whole)).inside replace whole := by
  induction items generalizing cue whole with
  | nil => rfl
  | cons item rest inductionHypothesis =>
    simp only [inTurn, Call.run_within]
    cases ((call item).run (part whole)).outcome with
    | error failure => rfl
    | ok value =>
      simp only [inductionHypothesis, inside, isPart.part_replace, isPart.replace_replace,
        List.map_cons]

/-- Reading from a store that is a part of a larger one. -/
theorem readBatch_within (isPart : IsPart part replace) (store : BatchStore σ)
    (table : BatchTable) (accept : Json → Except Fault α) (attempts : Nat)
    (request : BatchRequest) :
    readBatch (fun table request => (store table request).within part replace) table accept attempts
        request =
      (readBatch store table accept attempts request).within part replace := by
  induction attempts generalizing request with
  | zero =>
    simp only [readBatch, Call.within_bind isPart, Call.within_known isPart]
  | succ attempts inductionHypothesis =>
    simp only [readBatch, Call.within_bind isPart, Call.within_known isPart]
    congr 1
    funext reply
    congr 1
    funext found
    cases reply.unprocessed with
    | none => exact (Call.within_known isPart _).symm
    | some rest =>
      simp only [inductionHypothesis, Call.within_bind isPart]
      congr 1
      funext more
      exact (Call.within_known isPart _).symm

end Part

/-! ### Consulting integrations -/

section Consulting

variable {σ : Type}

/-- Put another store into a delegation. -/
def Delegation.withStore (delegation : Delegation σ) (store : σ) : Delegation σ :=
  { delegation with store := store }

theorem Delegation.isPart_store :
    IsPart Delegation.store (withStore : Delegation σ → σ → Delegation σ) :=
  ⟨fun _ => rfl, fun _ _ => rfl, fun _ _ _ => rfl⟩

/-- An integration, whatever it is: whether it is active, and how it answers about users. -/
structure Integration (σ : Type) where
  isActive : Bool
  answer : List String → σ → Run σ Fault (List (String × Bool))

/-- Note at which position an integration is asked about which users. -/
def Delegation.noting (delegation : Delegation σ) (position : Nat) (userIds : List String) :
    Delegation σ :=
  { delegation with asked := delegation.asked ++ [(position, userIds)] }

/-- Ask the first active one of some integrations about users, given the position of the first one.
Nobody is managed if none is active. -/
def consult (userIds : List String) (delegation : Delegation σ) :
    (position : Nat) → List (Integration σ) → Run (Delegation σ) Fault (List (String × Bool))
  | _, [] => .known (.ok (managedMap userIds []))
  | position, integration :: rest =>
    if integration.isActive then
      let noted := delegation.noting position userIds
      let run := (integration.answer userIds delegation.store).inside Delegation.withStore noted
      { run with history := (.direct, noted) :: run.history, ends := 0 :: run.ends }
    else consult userIds delegation (position + 1) rest

theorem consult_append (userIds : List String) (delegation : Delegation σ) (position : Nat)
    {before : List (Integration σ)} (inactive : ∀ other ∈ before, other.isActive = false)
    (rest : List (Integration σ)) :
    consult userIds delegation position (before ++ rest) =
      consult userIds delegation (position + before.length) rest := by
  induction before generalizing position with
  | nil => rfl
  | cons first others inductionHypothesis =>
    rw [List.forall_mem_cons] at inactive
    rw [List.cons_append, consult, inactive.1, if_neg Bool.false_ne_true,
      inductionHypothesis _ inactive.2, List.length_cons, Nat.add_right_comm, Nat.add_assoc]

/-- Whom a look-up of managed users consults. -/
structure ConsultsFirst (integrations : List (Integration σ)) (userIds : List String)
    (delegation : Delegation σ) (run : Run (Delegation σ) Fault (List (String × Bool))) : Prop where
  /-- With no active integration nobody is asked, and everybody is told not to be managed. -/
  nobody : (∀ integration ∈ integrations, integration.isActive = false) →
    run = .known (.ok ((distinct userIds).map fun userId => (userId, false)))
  /-- Otherwise the first active one is asked, once and about all users, and nobody else is; it
  answers as it does by itself, be it with a failure. -/
  first : ∀ before integration after, integrations = before ++ integration :: after →
    (∀ other ∈ before, other.isActive = false) → integration.isActive = true →
      run.outcome = (integration.answer userIds delegation.store).outcome ∧
      run.closing = (integration.answer userIds delegation.store).closing ∧
      run.history.map (fun entry => (entry.1, entry.2.store)) = (.direct, delegation.store) ::
        (integration.answer userIds delegation.store).history ∧
      ∀ entry ∈ run.history, entry.2.asked = delegation.asked ++ [(before.length, userIds)]

theorem consultsFirst_consult (integrations : List (Integration σ)) (userIds : List String)
    (delegation : Delegation σ) :
    ConsultsFirst integrations userIds delegation (consult userIds delegation 0 integrations) := by
  refine ⟨fun inactive => ?_, ?_⟩
  · have skipped := consult_append userIds delegation 0 inactive []
    rw [List.append_nil] at skipped
    rw [skipped, consult, managedMap, List.append_nil]
    simp only [List.contains_nil]
  · rintro before integration after rfl inactive active
    rw [consult_append userIds delegation 0 inactive, Nat.zero_add, consult, if_pos active]
    refine ⟨rfl, rfl, ?_, ?_⟩
    · simp only [List.map_cons, Run.inside, List.map_map]
      exact congrArg _ (List.map_id _)
    · simp only [Run.inside, List.forall_mem_cons, List.forall_mem_map]
      exact ⟨rfl, fun _ _ => rfl⟩

/-! ### The integrations there are -/

/-- How one of the integrations that there are answers, given the store of its table. -/
def Delegate.integration (store : BatchStore σ) (delegate : Delegate) : Integration σ where
  isActive := delegate.isActive
  answer userIds state := match delegate with
    | .table none => .known (.ok (managedMap userIds []))
    | .table (some name) => managedByTable store name userIds state
    | .fixed _ _ managed none =>
      .known (.ok ((distinct userIds).map fun userId => (userId, managed.contains userId)))
    | .fixed _ _ _ (some failure) => .known (.error (.outage failure))

theorem managedByTable_batchStore (store : BatchStore σ) (table : String) (userIds : List String)
    (delegation : Delegation σ) :
    managedByTable (Delegation.batchStore store) table userIds delegation =
      (managedByTable store table userIds delegation.store).inside Delegation.withStore
        delegation := by
  have isPart : IsPart Delegation.store (Delegation.withStore : Delegation σ → σ → _) :=
    Delegation.isPart_store
  have reading : readManaged (Delegation.batchStore store) table = fun chunk =>
      (readManaged store table chunk).within Delegation.store Delegation.withStore := by
    funext chunk
    have batch := readBatch_within isPart store ⟨table, .provisioning⟩ managedSubject
      (maxRetries + 1) (.keys (chunk.map partitionKey))
    simp only [readManaged, readChunk, Call.within_bind isPart, Call.within_known isPart]
    rw [← batch]
    rfl
  rw [managedByTable, reading, Run.inTurn_within isPart]
  rfl

theorem Delegate.ask_eq (delegate : Delegate) (store : BatchStore σ) (userIds : List String)
    (delegation : Delegation σ) :
    delegate.ask store userIds delegation =
      ((delegate.integration store).answer userIds delegation.store).inside Delegation.withStore
        delegation := by
  cases delegate with
  | table name =>
    cases name with
    | none => rfl
    | some table => exact managedByTable_batchStore store table userIds delegation
  | fixed name active managed failure =>
    cases failure with
    | none => rfl
    | some outage => rfl

/-- The look-up of managed users consults the integrations that it is set up with. -/
theorem managedByUserId_eq_consult (delegates : List Delegate) (store : BatchStore σ)
    (userIds : List String) (delegation : Delegation σ) :
    managedByUserId delegates store userIds delegation =
      consult userIds delegation 0 (delegates.map (Delegate.integration store)) := by
  suffices shifted : ∀ position, consult userIds delegation position
      (delegates.map (Delegate.integration store)) =
        (firstActive? delegates).elim (.known (.ok (managedMap userIds []))) fun entry =>
          let noted := delegation.noting (position + entry.1) userIds
          let run := entry.2.ask store userIds noted
          { run with history := (.direct, noted) :: run.history, ends := 0 :: run.ends } by
    rw [shifted, managedByUserId]
    simp only [Nat.zero_add]
    cases firstActive? delegates with
    | none => rfl
    | some entry => rfl
  intro position
  induction delegates generalizing position with
  | nil => rfl
  | cons delegate rest inductionHypothesis =>
    rw [List.map_cons, consult, firstActive?]
    change (if delegate.isActive then _ else _) = _
    by_cases active : delegate.isActive = true
    · rw [if_pos active, if_pos active]
      simp only [Option.elim_some, Nat.add_zero, delegate.ask_eq]
      rfl
    · rw [if_neg active, if_neg active, inductionHypothesis]
      cases firstActive? rest with
      | none => rfl
      | some entry =>
        simp only [Option.elim_some, Option.map_some, Nat.add_assoc, Nat.add_comm 1]

/-- If the first active integration is a table, the look-up ends as asking the table does, and
leaves its store as asking the table leaves it. -/
theorem managedByUserId_of_table {delegates : List Delegate} {position : Nat} {table : String}
    (active : firstActive? delegates = some (position, .table (some table)))
    (store : BatchStore σ) (userIds : List String) (delegation : Delegation σ) :
    (managedByUserId delegates store userIds delegation).outcome =
        (managedByTable store table userIds delegation.store).outcome ∧
      (managedByUserId delegates store userIds delegation).time =
        (managedByTable store table userIds delegation.store).time ∧
      ((managedByUserId delegates store userIds delegation).finalState delegation).store =
        (managedByTable store table userIds delegation.store).finalState delegation.store := by
  rw [managedByUserId, active]
  simp only [Delegate.ask_eq]
  refine ⟨rfl, rfl, ?_⟩
  rw [Run.finalState_cons]
  exact congrArg Delegation.store
    (Run.finalState_inside Delegation.isPart_store (delegation.noting position userIds)
      (managedByTable store table userIds delegation.store))

end Consulting

/-! ### Users in another order -/

namespace Run.MeetsThreshold

variable {σ α : Type} {run : Run (σ × List Exchange) Fault α} {table : BatchTable}
  {subjects : List String} {capacity pace : Nat} {noted : List Exchange}

/-- How many requests are made depends on the number of subjects alone. -/
theorem length_eq (meets : run.MeetsThreshold table subjects capacity pace noted) :
    noted.length =
      if min subjects.toFinset.card 100 ≤ 4 * capacity then
        subjects.toFinset.card / 100 * rationsFor capacity 100 +
          rationsFor capacity (subjects.toFinset.card % 100)
      else 4 := by
  by_cases enough : min subjects.toFinset.card 100 ≤ 4 * capacity
  · rw [if_pos enough]
    exact (meets.enough enough).2
  · rw [if_neg enough]
    exact (meets.short (Nat.lt_of_not_le enough)).2.1

/-- So does whether the look-up fails, and what it then says. -/
theorem outcome_eq_error_iff (meets : run.MeetsThreshold table subjects capacity pace noted)
    {fault : Fault} :
    run.outcome = .error fault ↔ 4 * capacity < min subjects.toFinset.card 100 ∧
      fault = .leftUnprocessed (min subjects.toFinset.card 100 - 4 * capacity) table.kind := by
  constructor
  · intro failed
    have short : 4 * capacity < min subjects.toFinset.card 100 := by
      refine Nat.lt_of_not_le fun enough => ?_
      obtain ⟨value, succeeded⟩ := meets.succeeds.mpr enough
      rw [failed] at succeeded
      cases succeeded
    rw [(meets.short short).1, Except.error.injEq] at failed
    exact ⟨short, failed.symm⟩
  · rintro ⟨short, rfl⟩
    exact (meets.short short).1

end Run.MeetsThreshold

/-- A map tells of each of some users, and of nobody else, whether there is an entry for it. -/
structure TellsEach (find? : String → Option Json) (userIds : List String)
    (told : List (String × Bool)) : Prop where
  once : (told.map (·.1)).Nodup
  keys : ∀ userId, userId ∈ told.map (·.1) ↔ userId ∈ userIds
  each : ∀ entry ∈ told, entry.2 = (entryOf? find? entry.1).isSome

/-- There is only one such map, whatever the order of its entries. -/
theorem TellsEach.perm {find? : String → Option Json} {userIds others : List String}
    {told toldOthers : List (String × Bool)} (perm : others.Perm userIds)
    (tells : TellsEach find? userIds told) (tellsOthers : TellsEach find? others toldOthers) :
    toldOthers.Perm told := by
  have keys : (toldOthers.map (·.1)).Perm (told.map (·.1)) := by
    rw [List.perm_ext_iff_of_nodup tellsOthers.once tells.once]
    intro userId
    rw [tellsOthers.keys, tells.keys, perm.mem_iff]
  have rebuilt {entries : List (String × Bool)}
      (each : ∀ entry ∈ entries, entry.2 = (entryOf? find? entry.1).isSome) :
      (entries.map (·.1)).map (fun userId => (userId, (entryOf? find? userId).isSome)) =
        entries := by
    rw [List.map_map]
    refine (List.map_congr_left fun entry member => ?_).trans (List.map_id entries)
    exact Prod.ext rfl (each entry member).symm
  rw [← rebuilt tells.each, ← rebuilt tellsOthers.each]
  exact keys.map _

section Order

variable {σ : Type} {store : BatchStore σ} {table : String} {find? : String → Option Json}
  {capacity pace : Nat} {invariant : σ → Prop}

/-- The entries for some users are read from a store that throttles, and each of them is about the
user it is stored for. -/
theorem readManaged_reads
    (throttles : store.Throttles ⟨table, .provisioning⟩ find? invariant)
    (keyed : ∀ userId item, entryOf? find? userId = some item →
      item.member? "PK" = some (.str (partitionKey userId)))
    {chunk : List String} (nonempty : 1 ≤ chunk.length) (few : chunk.length ≤ 100)
    (nodup : chunk.Nodup) :
    (readManaged store.noting table chunk).Reads ⟨table, .provisioning⟩ find? invariant
      (maxRetries + 1) (.keys (chunk.map partitionKey))
      (Finds (entryOf? find?) managedName chunk) := by
  refine (readChunk_reads managedSubject throttles nonempty few nodup
    fun userId _ item stored => ⟨_, managedSubject_of_key (keyed userId item stored)⟩).bind _
    fun documents found => ?_
  have named : Meets False (Finds (entryOf? find?) managedName chunk) _ := Finds.names keyed found
  exact named.exists_ok

/-- What a table tells of some users, if it tells anything. -/
theorem tellsEach_of_managedByTable
    (throttles : store.Throttles ⟨table, .provisioning⟩ find? invariant)
    (keyed : ∀ userId item, entryOf? find? userId = some item →
      item.member? "PK" = some (.str (partitionKey userId)))
    {userIds : List String} {state : σ} (start : invariant state) {told : List (String × Bool)}
    (answered : (managedByTable store.noting table userIds (state, [])).outcome = .ok told) :
    TellsEach find? userIds told := by
  have reads : (managedByTable store.noting table userIds (state, [])).ReadsAlongPlan
      ⟨table, .provisioning⟩ find? userIds
      (fun asked told => told = asked.map fun userId => (userId, (entryOf? find? userId).isSome))
      state :=
    readsAlongPlan_inTurn managedName userIds
      (fun _ nonempty few nodup => readManaged_reads throttles keyed nonempty few nodup)
      (fun _ finds => managedMap_of_finds keyed (nodup_distinct userIds) finds) start
  obtain ⟨plan, _, _, follows⟩ := reads
  rw [follows.exact told answered]
  refine ⟨?_, fun userId => ?_, ?_⟩
  · rw [List.map_map]
    exact (List.map_id _).symm ▸ follows.isPlan.nodup
  · rw [List.map_map]
    exact (List.map_id _).symm ▸ follows.isPlan.members userId
  · intro entry member
    obtain ⟨userId, _, rfl⟩ := List.mem_map.mp member
    rfl

theorem managedByTable_meetsThreshold
    (rations : store.Rations ⟨table, .provisioning⟩ find? capacity pace invariant)
    (keyed : ∀ userId item, entryOf? find? userId = some item →
      item.member? "PK" = some (.str (partitionKey userId)))
    (userIds : List String) {state : σ} (start : invariant state) :
    (managedByTable store.noting table userIds (state, [])).MeetsThreshold ⟨table, .provisioning⟩
      userIds capacity pace
      ((managedByTable store.noting table userIds (state, [])).finalState (state, [])).2 :=
  meetsThreshold_inTurn userIds (Finds (entryOf? find?) managedName)
    (fun _ => (keepsPace_readBatch rations _ _ _).bind fun _ => keepsPace_known _)
    (fun _ nonempty few nodup => readManaged_reads rations.throttles keyed nonempty few nodup) start

/-- Two look-ups of managed users, beside which the exchanges with a store are noted, cannot be told
apart by how they end, what they tell, how many requests they make and how long they take. -/
structure AnswersAlike (find? : String → Option Json) (userIds : List String) (state : σ)
    (first second : Run (Delegation (σ × List Exchange)) Fault (List (String × Bool))) : Prop where
  fails : ∀ fault, first.outcome = .error fault ↔ second.outcome = .error fault
  left : ∀ fault, first.outcome = .error fault →
    ∃ left, 0 < left ∧ fault = .leftUnprocessed left .provisioning
  tells : ∀ told, first.outcome = .ok told → TellsEach find? userIds told ∧
    ∃ others, second.outcome = .ok others ∧ others.Perm told
  requests : (first.finalState ⟨(state, []), []⟩).store.2.length =
    (second.finalState ⟨(state, []), []⟩).store.2.length
  time : first.time = second.time

/-- Asked about users in two orders, a table that processes a fixed number of keys at a time answers
alike. -/
theorem answersAlike_of_perm
    (rations : store.Rations ⟨table, .provisioning⟩ find? capacity pace invariant)
    (keyed : ∀ userId item, entryOf? find? userId = some item →
      item.member? "PK" = some (.str (partitionKey userId)))
    {delegates : List Delegate} {position : Nat}
    (active : firstActive? delegates = some (position, .table (some table)))
    {userIds others : List String} (perm : others.Perm userIds) {state : σ}
    (start : invariant state) :
    AnswersAlike find? userIds state
      (managedByUserId delegates store.noting userIds ⟨(state, []), []⟩)
      (managedByUserId delegates store.noting others ⟨(state, []), []⟩) := by
  obtain ⟨outcome, time, final⟩ :=
    managedByUserId_of_table active store.noting userIds ⟨(state, []), []⟩
  obtain ⟨outcomeOthers, timeOthers, finalOthers⟩ :=
    managedByUserId_of_table active store.noting others ⟨(state, []), []⟩
  have meets := managedByTable_meetsThreshold rations keyed userIds start
  have meetsOthers := managedByTable_meetsThreshold rations keyed others start
  have same : others.toFinset = userIds.toFinset := List.toFinset_eq_of_perm others userIds perm
  have requests := meets.length_eq.trans (same ▸ meetsOthers.length_eq.symm)
  refine ⟨fun fault => ?_, fun fault failed => ?_, fun told answered => ?_, ?_, ?_⟩
  · rw [outcome, outcomeOthers]
    exact meets.outcome_eq_error_iff.trans (same ▸ meetsOthers.outcome_eq_error_iff.symm)
  · rw [outcome] at failed
    obtain ⟨short, rfl⟩ := meets.outcome_eq_error_iff.mp failed
    exact ⟨_, Nat.sub_pos_of_lt short, rfl⟩
  · rw [outcome] at answered
    have enough := meets.succeeds.mp ⟨told, answered⟩
    rw [← same] at enough
    obtain ⟨toldOthers, answeredOthers⟩ := meetsOthers.succeeds.mpr enough
    have tells := tellsEach_of_managedByTable rations.throttles keyed start answered
    exact ⟨tells, toldOthers, outcomeOthers.trans answeredOthers,
      tells.perm perm (tellsEach_of_managedByTable rations.throttles keyed start answeredOthers)⟩
  · rw [final, finalOthers]
    exact requests
  · rw [time, timeOthers]
    exact meets.time.trans ((congrArg (pace * ·) requests).trans meetsOthers.time.symm)

end Order

/-- A look-up of managed users consults the first active integration and no other one, once and
about all users. If that is a table which processes a fixed number of keys at a time, it does not
matter in which order it is asked about users. -/
theorem managedByUserId_consults_unordered {σ : Type} :
    (∀ (integrations : List (Integration σ)) userIds delegation,
      ConsultsFirst integrations userIds delegation (consult userIds delegation 0 integrations)) ∧
    (∀ delegates (store : BatchStore σ) userIds delegation,
      managedByUserId delegates store userIds delegation =
        consult userIds delegation 0 (delegates.map (Delegate.integration store))) ∧
    ∀ (store : BatchStore σ) table find? capacity pace invariant,
      store.Rations ⟨table, .provisioning⟩ find? capacity pace invariant →
      (∀ userId item, entryOf? find? userId = some item →
        item.member? "PK" = some (.str (partitionKey userId))) →
      ∀ delegates position, firstActive? delegates = some (position, .table (some table)) →
      ∀ userIds others : List String, others.Perm userIds → ∀ state, invariant state →
        AnswersAlike find? userIds state
          (managedByUserId delegates store.noting userIds ⟨(state, []), []⟩)
          (managedByUserId delegates store.noting others ⟨(state, []), []⟩) :=
  ⟨consultsFirst_consult, managedByUserId_eq_consult,
    fun _ _ _ _ _ _ rations keyed _ _ active _ _ perm _ start =>
      answersAlike_of_perm rations keyed active perm start⟩

theorem keyed_onlyAda (userId : String) (item : Json)
    (stored : entryOf? onlyAda userId = some item) :
    item.member? "PK" = some (.str (partitionKey userId)) := by
  rw [entryOf?, onlyAda] at stored
  split at stored
  · rename_i isAda
    cases stored
    rw [isAda]
    rfl
  · cases stored

/-- Ask about users, of whom Ada alone is managed. The first integration is not active, and the
table of the second one processes so many keys at a time. -/
def askAda (capacity : Nat) (userIds : List String) :
    Run (Delegation (BatchShelf × List Exchange)) Fault (List (String × Bool)) :=
  managedByUserId [.fixed "directory" false [] none, .table (some "managed")]
    BatchShelf.serve.noting userIds ⟨(adaShelf capacity, []), []⟩

/-- Five users in two orders, one of them twice, some with names that look like keys. With one key
at a time a key is left, with two everybody is told about. -/
theorem askAda_unordered :
    (AnswersAlike onlyAda ["USER#ada", "b#b", "ada", "b#b", "cyd", "USER#"] (adaShelf 1)
        (askAda 1 ["USER#ada", "b#b", "ada", "b#b", "cyd", "USER#"])
        (askAda 1 ["cyd", "ada", "USER#", "b#b", "b#b", "USER#ada"]) ∧
      (askAda 1 ["USER#ada", "b#b", "ada", "b#b", "cyd", "USER#"]).outcome =
        .error (.leftUnprocessed 1 .provisioning)) ∧
    AnswersAlike onlyAda ["USER#ada", "b#b", "ada", "b#b", "cyd", "USER#"] (adaShelf 2)
        (askAda 2 ["USER#ada", "b#b", "ada", "b#b", "cyd", "USER#"])
        (askAda 2 ["cyd", "ada", "USER#", "b#b", "b#b", "USER#ada"]) ∧
      (askAda 2 ["USER#ada", "b#b", "ada", "b#b", "cyd", "USER#"]).outcome =
        .ok [("USER#ada", false), ("b#b", false), ("ada", true), ("cyd", false),
          ("USER#", false)] := by
  have rations (capacity : Nat) :
      BatchStore.Rations BatchShelf.serve ⟨"managed", .provisioning⟩ onlyAda capacity 7 _ :=
    find?_adaShelf capacity ▸ (BatchShelf.rations_serve rfl rfl _ : BatchStore.Rations
      BatchShelf.serve _ (adaShelf capacity).find? capacity (adaShelf capacity).desk.delay _)
  have alike (capacity : Nat) :
      AnswersAlike onlyAda ["USER#ada", "b#b", "ada", "b#b", "cyd", "USER#"] (adaShelf capacity)
        (askAda capacity ["USER#ada", "b#b", "ada", "b#b", "cyd", "USER#"])
        (askAda capacity ["cyd", "ada", "USER#", "b#b", "b#b", "USER#ada"]) :=
    managedByUserId_consults_unordered.2.2 _ _ _ capacity _ _ (rations capacity) keyed_onlyAda _ 1
      rfl _ _ (by decide) _ ⟨⟨rfl, rfl, rfl, rfl⟩, rfl⟩
  exact ⟨⟨alike 1, by decide +kernel⟩, alike 2, by decide +kernel⟩

end UserDirectory
