/-
This file tells in closed form when looking up by keys succeeds with a store of a
fixed ration, how many requests it makes and how long it takes. All chunks but the
last one are full, so no chunk is larger than the first one. If the four rounds of
the first chunk are enough, those of every other chunk are; and if they are not,
there is no other chunk to read.
-/

import Mathlib.Data.Finset.Card
import UserDirectory.Proofs.Lookup.Throttled
import UserDirectory.Proofs.Store.Rationing

namespace UserDirectory

/-! ### The sizes of chunks -/

section Chunks

variable {α : Type}

/-- A sum over the sizes of chunks, all of which are full but for the remainder. -/
theorem sum_cut {size : Nat} (positive : 0 < size) (cost : Nat → Nat) (free : cost 0 = 0)
    (count : Nat) (items : List α) (enough : items.length ≤ count * size)
    (needed : count * size < items.length + size) :
    ((cut size count items).map fun chunk => cost chunk.length).sum =
      items.length / size * cost size + cost (items.length % size) := by
  induction count generalizing items with
  | zero =>
    have nothing : items.length = 0 := by omega
    rw [nothing, Nat.zero_div, Nat.zero_mod, Nat.zero_mul, free]
    rfl
  | succ count inductionHypothesis =>
    rw [Nat.succ_mul] at enough needed
    rw [cut, List.map_cons, List.sum_cons, List.length_take]
    by_cases full : size ≤ items.length
    · have rest := inductionHypothesis (items.drop size)
        (by rw [List.length_drop]; omega) (by rw [List.length_drop]; omega)
      rw [rest, Nat.min_eq_left full, List.length_drop, ← Nat.mod_eq_sub_mod full,
        Nat.div_eq_sub_div positive full, Nat.succ_mul]
      omega
    · -- A chunk that is not full is the last one.
      have last : count = 0 := by
        refine Nat.eq_zero_of_not_pos fun more => ?_
        have atLeast := Nat.le_mul_of_pos_left size more
        omega
      rw [last, Nat.min_eq_right (by omega), Nat.div_eq_of_lt (by omega),
        Nat.mod_eq_of_lt (by omega), Nat.zero_mul, Nat.zero_add]
      rfl

theorem sum_chunks {size : Nat} (positive : 0 < size) (cost : Nat → Nat) (free : cost 0 = 0)
    (items : List α) :
    ((chunks size items).map fun chunk => cost chunk.length).sum =
      items.length / size * cost size + cost (items.length % size) := by
  have remainder := Nat.mod_lt (items.length + size - 1) positive
  have division := Nat.div_add_mod (items.length + size - 1) size
  rw [Nat.mul_comm] at division
  exact sum_cut positive cost free _ items (by omega) (by omega)

theorem exists_chunks_eq_cons {size : Nat} (positive : 0 < size) {items : List α}
    (some_items : items ≠ []) : ∃ rest, chunks size items = items.take size :: rest := by
  have nonempty := List.length_pos_iff.mpr some_items
  have some_chunk : 0 < (items.length + size - 1) / size :=
    Nat.div_pos (by omega) positive
  obtain ⟨count, equal⟩ := Nat.exists_eq_succ_of_ne_zero (Nat.ne_of_gt some_chunk)
  rw [chunks, equal]
  exact ⟨_, rfl⟩

end Chunks

theorem length_distinct (subjects : List String) :
    (distinct subjects).length = subjects.toFinset.card := by
  rw [← List.toFinset_card_of_nodup (nodup_distinct subjects)]
  refine congrArg Finset.card (Finset.ext fun subject => ?_)
  rw [List.mem_toFinset, List.mem_toFinset, mem_distinct]

/-! ### Walks with rations -/

namespace Walks

variable {table : BatchTable} {find? : String → Option Json} {capacity : Nat}
  {plan : List (List String)} {reads : List (List Exchange)} {left : List String}

/-- Chunks that are small enough are all read, each in as many rounds as it takes. -/
theorem length_of_enough (walks : Walks table find? plan reads left)
    (rationed : ∀ exchange ∈ reads.flatten, exchange.IsRation find? capacity)
    (enough : ∀ chunk ∈ plan, chunk.length ≤ 4 * capacity) :
    left = [] ∧
      reads.flatten.length = (plan.map fun chunk => rationsFor capacity chunk.length).sum := by
  induction walks with
  | done => exact ⟨rfl, rfl⟩
  | on rounds _ inductionHypothesis =>
    rw [List.flatten_cons, List.forall_mem_append] at rationed
    rw [List.forall_mem_cons] at enough
    obtain ⟨-, length⟩ := rounds.length_eq (BatchRequest.holds_keys table _) rationed.1
    obtain ⟨nothing, rest⟩ := inductionHypothesis rationed.2 enough.2
    rw [List.length_map, if_pos enough.1] at length
    rw [List.flatten_cons, List.length_append, length, rest, List.map_cons, List.sum_cons]
    exact ⟨nothing, rfl⟩
  | stops rounds remain =>
    rw [List.flatten_singleton] at rationed
    obtain ⟨size, -⟩ := rounds.length_eq (BatchRequest.holds_keys table _) rationed
    rw [List.length_map, Nat.sub_eq_zero_of_le (enough _ List.mem_cons_self)] at size
    exact absurd (List.eq_nil_of_length_eq_zero size) remain

/-- A chunk that is too large for four rounds is the last one of a walk. -/
theorem length_of_short {chunk : List String} (walks : Walks table find? (chunk :: plan) reads left)
    (rationed : ∀ exchange ∈ reads.flatten, exchange.IsRation find? capacity)
    (short : 4 * capacity < chunk.length) :
    left.length = chunk.length - 4 * capacity ∧ reads.flatten.length = 4 ∧
      ∀ exchange ∈ reads.flatten,
        exchange.request.partitions table ⊆ chunk.map partitionKey := by
  have holds := BatchRequest.holds_keys table (chunk.map partitionKey)
  cases walks with
  | on rounds _ =>
    rw [List.flatten_cons, List.forall_mem_append] at rationed
    obtain ⟨size, -⟩ := rounds.length_eq holds rationed.1
    rw [List.length_map, List.length_nil] at size
    omega
  | stops rounds remain =>
    rw [List.flatten_singleton] at rationed ⊢
    obtain ⟨size, length⟩ := rounds.length_eq holds rationed
    rw [List.length_map] at size length
    rw [if_neg (Nat.not_le_of_gt short)] at length
    exact ⟨size, length, rounds.subset holds⟩

end Walks

/-! ### The threshold -/

/-- A look-up by keys about some subjects succeeds just up to the most keys that four rounds of a
chunk can process, and makes as many requests as that takes. -/
structure Run.MeetsThreshold {σ α : Type} (run : Run (σ × List Exchange) Fault α)
    (table : BatchTable) (subjects : List String) (capacity pace : Nat) (noted : List Exchange) :
    Prop where
  succeeds : (∃ value, run.outcome = .ok value) ↔ min subjects.toFinset.card 100 ≤ 4 * capacity
  proper : ∀ exchange ∈ noted, exchange.IsProper table
  time : run.time = pace * noted.length
  /-- On success the rounds of every chunk are made. -/
  enough : min subjects.toFinset.card 100 ≤ 4 * capacity →
    noted.length = ((chunks maxBatchKeys (distinct subjects)).map fun chunk =>
        rationsFor capacity chunk.length).sum ∧
      noted.length = subjects.toFinset.card / 100 * rationsFor capacity 100 +
        rationsFor capacity (subjects.toFinset.card % 100)
  /-- On failure all four rounds of the first chunk are made, and no others. -/
  short : 4 * capacity < min subjects.toFinset.card 100 →
    run.outcome =
        .error (.leftUnprocessed (min subjects.toFinset.card 100 - 4 * capacity) table.kind) ∧
      noted.length = 4 ∧ ∀ exchange ∈ noted, exchange.request.partitions table ⊆
        ((distinct subjects).take 100).map partitionKey

section Rationing

variable {σ α β : Type} {store : BatchStore σ} {table : BatchTable} {find? : String → Option Json}
  {capacity pace : Nat} {invariant : σ → Prop}

theorem length_of_mem_plan {subjects chunk : List String}
    (member : chunk ∈ chunks maxBatchKeys (distinct subjects)) :
    chunk.length ≤ min subjects.toFinset.card 100 := by
  have positive : 0 < maxBatchKeys := by decide
  have part := (List.sublist_flatten_of_mem member).length_le
  rw [flatten_chunks positive, length_distinct] at part
  exact Nat.le_min.mpr ⟨part, (length_of_mem_chunks positive member).2⟩

theorem exists_plan_eq_cons (subjects : List String) (some_subject : 0 < subjects.toFinset.card) :
    ∃ rest, chunks maxBatchKeys (distinct subjects) = (distinct subjects).take 100 :: rest ∧
      ((distinct subjects).take 100).length = min subjects.toFinset.card 100 := by
  have nonempty : distinct subjects ≠ [] :=
    List.length_pos_iff.mp (length_distinct subjects ▸ some_subject)
  obtain ⟨rest, plan⟩ := exists_chunks_eq_cons (by decide : 0 < maxBatchKeys) nonempty
  exact ⟨rest, plan, by rw [List.length_take, length_distinct, Nat.min_comm]⟩

/-- Whoever walks along the chunks of a list with a store that rations meets the threshold. -/
theorem meetsThreshold_of_walks {run : Run (σ × List Exchange) Fault α} {subjects : List String}
    {noted : List Exchange} {reads : List (List Exchange)} {left : List String}
    (found : α → Prop) (time : run.time = pace * noted.length) (log : noted = reads.flatten)
    (rationed : ∀ exchange ∈ noted, exchange.IsRation find? capacity)
    (walks : Walks table find? (chunks maxBatchKeys (distinct subjects)) reads left)
    (concludes : Concludes table.kind found left run.outcome) :
    run.MeetsThreshold table subjects capacity pace noted := by
  subst log
  have goesOn (enough : min subjects.toFinset.card 100 ≤ 4 * capacity) :=
    walks.length_of_enough rationed fun chunk member =>
      Nat.le_trans (length_of_mem_plan member) enough
  have stops (short : 4 * capacity < min subjects.toFinset.card 100) :
      left.length = min subjects.toFinset.card 100 - 4 * capacity ∧ reads.flatten.length = 4 ∧
        ∀ exchange ∈ reads.flatten, exchange.request.partitions table ⊆
          ((distinct subjects).take 100).map partitionKey := by
    obtain ⟨rest, plan, size⟩ := exists_plan_eq_cons subjects (by omega)
    rw [plan] at walks
    rw [← size] at short ⊢
    exact walks.length_of_short rationed short
  refine ⟨?_, fun exchange member => ?_, time, fun enough => ?_, fun short => ?_⟩
  · rw [concludes.ok_iff]
    refine ⟨fun nothing => Nat.le_of_not_gt fun short => ?_, fun enough => (goesOn enough).1⟩
    have remain := (stops short).1
    rw [nothing, List.length_nil] at remain
    omega
  · obtain ⟨exchanges, inReads, inExchanges⟩ := List.mem_flatten.mp member
    obtain ⟨_, _, rounds⟩ := walks.rounds exchanges inReads
    exact rounds.isProper exchange inExchanges
  · refine ⟨(goesOn enough).2, (goesOn enough).2.trans ?_⟩
    rw [← length_distinct]
    exact sum_chunks (by decide : 0 < maxBatchKeys) (rationsFor capacity)
      (rationsFor_zero capacity) (distinct subjects)
  · obtain ⟨remain, length, only⟩ := stops short
    have someLeft : left ≠ [] := fun nothing => by
      rw [nothing, List.length_nil] at remain
      omega
    rw [← remain]
    exact ⟨concludes.eq_error someLeft, length, only⟩

/-- Calls for the chunks of the distinct subjects, one after another, meet the threshold. -/
theorem meetsThreshold_inTurn {call : List String → Call (σ × List Exchange) Fault α}
    {next : List α → β} (subjects : List String) (found : List String → α → Prop)
    (paced : ∀ chunk, (call chunk).KeepsPace find? capacity pace invariant)
    (each : ∀ chunk, 1 ≤ chunk.length → chunk.length ≤ 100 → chunk.Nodup →
      (call chunk).Reads table find? invariant (maxRetries + 1) (.keys (chunk.map partitionKey))
        (found chunk))
    {state : σ} (start : invariant state) :
    ((Run.inTurn call (chunks maxBatchKeys (distinct subjects)) .direct (state, [])).thenCheck
      fun founds => .ok (next founds)).MeetsThreshold table subjects capacity pace
        ((Run.inTurn call (chunks maxBatchKeys (distinct subjects)) .direct (state, [])).finalState
          (state, [])).2 := by
  have isPlan := isPlan_chunks subjects
  obtain ⟨reads, left, log, walks, concludes⟩ := inTurn_walks (fun chunk member =>
    each chunk (isPlan.sizes chunk member).1 (isPlan.sizes chunk member).2
      (isPlan.nodup_chunk member)) .direct (state, []) start
  obtain ⟨took, time, -, exchanges, sameLog, duration, rationed⟩ :=
    advances_inTurn paced (chunks maxBatchKeys (distinct subjects)) .direct (state, []) start
  rw [List.nil_append] at log sameLog
  refine meetsThreshold_of_walks (fun _ => True) ?_ log ?_ walks
    (concludes.bind fun founds _ => ⟨_, rfl, trivial⟩)
  · rw [sameLog, ← duration]
    exact time.trans (Nat.zero_add _)
  · rwa [sameLog]

/-- Looking up records, and asking a table who is managed, meets the threshold of a store that takes
the same time for each call and processes a fixed number of the keys of each request. -/
theorem lookUps_meetThreshold {userTable managedTable : String}
    {users managed : String → Option Json}
    (usersRation : store.Rations ⟨userTable, .user⟩ users capacity pace invariant)
    (managedRation : store.Rations ⟨managedTable, .provisioning⟩ managed capacity pace invariant)
    (records : ∀ login item, entryOf? users login = some item →
      ∃ record, Record.ofItem item = .ok record)
    (keyed : ∀ userId item, entryOf? managed userId = some item →
      item.member? "PK" = some (.str (partitionKey userId)))
    (subjects : List String) {state : σ} (start : invariant state) :
    (usersByLogins store.noting (some userTable) subjects (state, [])).MeetsThreshold
        ⟨userTable, .user⟩ subjects capacity pace
        ((usersByLogins store.noting (some userTable) subjects (state, [])).finalState
          (state, [])).2 ∧
      (managedByTable store.noting managedTable subjects (state, [])).MeetsThreshold
        ⟨managedTable, .provisioning⟩ subjects capacity pace
        ((managedByTable store.noting managedTable subjects (state, [])).finalState
          (state, [])).2 := by
  refine ⟨?_, ?_⟩
  · refine meetsThreshold_inTurn subjects (Finds (entryOf? users) Record.ofItem) (fun chunk =>
      (keepsPace_readBatch usersRation _ _ _).bind fun _ => keepsPace_known _)
      (fun chunk nonempty few nodup => ?_) start
    refine (readChunk_reads .ok usersRation.throttles nonempty few nodup
      fun _ _ item _ => ⟨item, rfl⟩).bind _ fun items found => ?_
    have recorded : Meets False (Finds (entryOf? users) Record.ofItem chunk) _ :=
      Finds.records found (Or.inr fun login _ => records login)
    exact recorded.exists_ok
  · refine meetsThreshold_inTurn subjects (Finds (entryOf? managed) managedName) (fun chunk =>
      (keepsPace_readBatch managedRation _ _ _).bind fun _ => keepsPace_known _)
      (fun chunk nonempty few nodup => ?_) start
    refine (readChunk_reads managedSubject managedRation.throttles nonempty few nodup
      fun userId _ item stored => ⟨_, managedSubject_of_key (keyed userId item stored)⟩).bind _
      fun documents found => ?_
    have named : Meets False (Finds (entryOf? managed) managedName chunk) _ :=
      Finds.names keyed found
    exact named.exists_ok

end Rationing

/-- A shelf with the entry of a single user, and a capacity. Each call takes it the same time. -/
def adaShelf (capacity : Nat) : BatchShelf where
  items := [("USER#ada",
    .obj [("PK", .str "USER#ada"), ("userId", .str "ada"), ("login", .str "ada")])]
  capacity := some capacity
  desk := { delay := 7 }

theorem find?_adaShelf (capacity : Nat) : (adaShelf capacity).find? = onlyAda := by
  funext key
  rw [BatchShelf.find?, adaShelf, Json.lookup?, onlyAda, List.find?_singleton]
  by_cases isAda : key = "USER#ada"
  · rw [isAda]
    rfl
  · rw [if_neg isAda, if_neg (by simpa using fun same => isAda same.symm)]
    rfl

/-- Five users, one of them asked for twice. With one key for each call a key is left after four of
them; with two keys for each call three are enough. -/
theorem sample_meetsThreshold :
    ((usersByLogins BatchShelf.serve.noting (some "users")
          ["bob", "ada", "bob", "cyd", "dee", "eve"] (adaShelf 1, [])).time = 28 ∧
      (usersByLogins BatchShelf.serve.noting (some "users")
          ["bob", "ada", "bob", "cyd", "dee", "eve"] (adaShelf 1, [])).outcome =
        .error (.leftUnprocessed 1 .user)) ∧
    ((managedByTable BatchShelf.serve.noting "managed"
          ["bob", "ada", "bob", "cyd", "dee", "eve"] (adaShelf 2, [])).time = 21 ∧
      ∃ managed, (managedByTable BatchShelf.serve.noting "managed"
          ["bob", "ada", "bob", "cyd", "dee", "eve"] (adaShelf 2, [])).outcome = .ok managed) := by
  have records : ∀ login item, entryOf? onlyAda login = some item →
      ∃ record, Record.ofItem item = .ok record := by
    intro login item stored
    rw [entryOf?, onlyAda] at stored
    split at stored
    · cases stored
      exact ⟨_, rfl⟩
    · cases stored
  have keyed : ∀ userId item, entryOf? onlyAda userId = some item →
      item.member? "PK" = some (.str (partitionKey userId)) := by
    intro userId item stored
    rw [entryOf?, onlyAda] at stored
    split at stored
    · rename_i isAda
      cases stored
      rw [isAda]
      rfl
    · cases stored
  have few : ["bob", "ada", "bob", "cyd", "dee", "eve"].toFinset.card = 5 := by decide
  have rations (capacity : Nat) (table : BatchTable) :
      BatchStore.Rations BatchShelf.serve table onlyAda capacity 7 _ :=
    find?_adaShelf capacity ▸ (BatchShelf.rations_serve rfl rfl table : BatchStore.Rations
      BatchShelf.serve table (adaShelf capacity).find? capacity (adaShelf capacity).desk.delay _)
  have meet (capacity : Nat) :
      (usersByLogins BatchShelf.serve.noting (some "users")
          ["bob", "ada", "bob", "cyd", "dee", "eve"] (adaShelf capacity, [])).MeetsThreshold _ _
            capacity 7 _ ∧
        (managedByTable BatchShelf.serve.noting "managed"
          ["bob", "ada", "bob", "cyd", "dee", "eve"] (adaShelf capacity, [])).MeetsThreshold _ _
            capacity 7 _ :=
    lookUps_meetThreshold (rations capacity _) (rations capacity _) records keyed
      ["bob", "ada", "bob", "cyd", "dee", "eve"] ⟨⟨rfl, rfl, rfl, rfl⟩, rfl⟩
  refine ⟨?_, ?_⟩
  · have meets := (meet 1).1
    obtain ⟨outcome, calls, -⟩ := meets.short (by rw [few]; decide)
    exact ⟨by rw [meets.time, calls], outcome.trans (by rw [few]; rfl)⟩
  · have meets := (meet 2).2
    obtain ⟨-, calls⟩ := meets.enough (by rw [few]; decide)
    refine ⟨?_, meets.succeeds.mpr (by rw [few]; decide)⟩
    rw [meets.time, calls, few]
    decide

end UserDirectory
