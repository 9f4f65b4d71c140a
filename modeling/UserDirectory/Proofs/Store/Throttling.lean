/-
This file proves what reading by keys asks of a store that is throttled. At each
call such a store processes any part of the keys, hands out their entries in any
order, and hands back the other keys in its own words, which become the next
request. To say what is asked, every exchange with a store is noted beside its
state.

Reading one chunk is a series of rounds. Each round asks for exactly the keys that
the round before left, so what is left only shrinks, and no key is asked for again
once it is processed. Reading several chunks walks along them and stops at the
first one of which something is left after the last round.
-/

import Mathlib.Data.List.Nodup
import UserDirectory.Proofs.Concurrent.Runs
import UserDirectory.Proofs.Store.KeyedReading

namespace UserDirectory

/-! ### Requests that hold keys -/

/-- A request asks for some keys, whether in the words of whoever reads or in a store's own. -/
structure BatchRequest.Holds (request : BatchRequest) (table : BatchTable) (keys : List String) :
    Prop where
  partitions : request.partitions table = keys
  count : request.keyCount table = .ok keys.length

theorem BatchRequest.holds_keys (table : BatchTable) (keys : List String) :
    (BatchRequest.keys keys).Holds table keys :=
  ⟨partitions_keys table keys, keyCount_keys table keys⟩

/-- Keys that may be asked for in one request. -/
structure Askable (keys : List String) : Prop where
  nonempty : 1 ≤ keys.length
  few : keys.length ≤ 100
  nodup : keys.Nodup

/-- What is left of askable keys is askable, if anything is left. -/
theorem Askable.left {keys processed left : List String} (askable : Askable keys)
    (parted : (processed ++ left).Perm keys) (remain : left ≠ []) : Askable left := by
  have length := parted.length_eq
  rw [List.length_append] at length
  have nodup : (processed ++ left).Nodup := parted.nodup_iff.mpr askable.nodup
  have few := askable.few
  exact ⟨List.length_pos_iff.mpr remain, by omega, (List.nodup_append.mp nodup).2.1⟩

/-! ### Stores that hand keys back -/

/-- A reply to a request for some keys: the entries of those that are processed, in any order, and
a request for exactly those that are left, unless there are none. -/
structure BatchReply.Parts (reply : BatchReply) (table : BatchTable)
    (find? : String → Option Json) (keys processed left : List String) : Prop where
  parted : (processed ++ left).Perm keys
  items : reply.items.Perm (processed.filterMap find?)
  none_left : left = [] → reply.unprocessed = none
  some_left : left ≠ [] → ∃ rest, reply.unprocessed = some rest ∧ rest.Holds table left

/-- A store processes any part of the keys that it may be asked for, and hands back the others. -/
def BatchStore.Throttles {σ : Type} (store : BatchStore σ) (table : BatchTable)
    (find? : String → Option Json) (invariant : σ → Prop) : Prop :=
  ∀ request keys, request.Holds table keys → Askable keys →
    (store table request).Leads invariant fun outcome state => invariant state ∧
      ∃ reply processed left, outcome = .ok reply ∧ reply.Parts table find? keys processed left

/-- An exchange with a store. -/
structure Exchange where
  table : BatchTable
  request : BatchRequest
  outcome : Except Fault BatchReply

/-- A store beside which every exchange with it is noted. -/
def BatchStore.noting {σ : Type} (store : BatchStore σ) : BatchStore (σ × List Exchange) :=
  fun table request (state, noted) =>
    let served := store table request state
    ⟨(served.state, noted ++ [⟨table, request, served.outcome⟩]), served.took, served.outcome⟩

/-! ### Rounds -/

/-- Rounds of asking for the keys of a request, at most so many: what is exchanged in them, and
which keys are left in the end. -/
inductive Rounds (table : BatchTable) (find? : String → Option Json) :
    (attempts : Nat) → BatchRequest → List Exchange → (left : List String) → Prop where
  /-- No attempt remains. -/
  | exhausted {request : BatchRequest} {left : List String} (holds : request.Holds table left)
      (remain : left ≠ []) : Rounds table find? 0 request [] left
  /-- Everything that was asked for is processed. -/
  | complete {attempts : Nat} {request : BatchRequest} {keys processed : List String}
      {reply : BatchReply} (holds : request.Holds table keys) (askable : Askable keys)
      (parts : reply.Parts table find? keys processed []) :
      Rounds table find? (attempts + 1) request [⟨table, request, .ok reply⟩] []
  /-- What was handed back is asked for in the rounds that remain. -/
  | again {attempts : Nat} {request rest : BatchRequest}
      {keys processed handedBack left : List String} {reply : BatchReply}
      {exchanges : List Exchange} (holds : request.Holds table keys)
      (askable : Askable keys) (parts : reply.Parts table find? keys processed handedBack)
      (asked : reply.unprocessed = some rest)
      (later : Rounds table find? attempts rest exchanges left) :
      Rounds table find? (attempts + 1) request (⟨table, request, .ok reply⟩ :: exchanges) left

/-- An exchange about keys that may be asked for, of the table they are kept in. -/
def Exchange.IsProper (exchange : Exchange) (table : BatchTable) : Prop :=
  exchange.table = table ∧ ∃ keys, exchange.request.Holds table keys ∧ Askable keys

namespace Rounds

variable {table : BatchTable} {find? : String → Option Json} {attempts : Nat}
  {request : BatchRequest} {exchanges : List Exchange} {left : List String}

theorem length_le (rounds : Rounds table find? attempts request exchanges left) :
    exchanges.length ≤ attempts := by
  induction rounds with
  | exhausted _ _ => exact Nat.le_refl 0
  | complete _ _ _ => exact Nat.succ_le_succ (Nat.zero_le _)
  | again _ _ _ _ _ inductionHypothesis => exact Nat.succ_le_succ inductionHypothesis

/-- What is left after some rounds shows in what was exchanged in them. -/
theorem left_unique {other : List String}
    (rounds : Rounds table find? attempts request exchanges left)
    (others : Rounds table find? attempts request exchanges other) : left = other := by
  induction rounds with
  | exhausted holds _ =>
    cases others with
    | exhausted holdsOther _ => rw [← holds.partitions, ← holdsOther.partitions]
  | complete _ _ parts =>
    cases others with
    | complete _ _ _ => rfl
    | again _ _ _ asked _ =>
      rw [parts.none_left rfl] at asked
      cases asked
  | again _ _ _ asked _ inductionHypothesis =>
    cases others with
    | complete _ _ parts =>
      rw [parts.none_left rfl] at asked
      cases asked
    | again _ _ _ askedOther later =>
      rw [asked, Option.some.injEq] at askedOther
      rw [← askedOther] at later
      exact inductionHypothesis later

theorem isProper (rounds : Rounds table find? attempts request exchanges left) :
    ∀ exchange ∈ exchanges, exchange.IsProper table := by
  induction rounds with
  | exhausted _ _ => exact fun _ member => absurd member List.not_mem_nil
  | complete holds askable _ =>
    intro exchange member
    rw [List.mem_singleton.mp member]
    exact ⟨rfl, _, holds, askable⟩
  | again holds askable _ _ _ inductionHypothesis =>
    rw [List.forall_mem_cons]
    exact ⟨⟨rfl, _, holds, askable⟩, inductionHypothesis⟩

end Rounds

/-- How reading concludes that leaves some keys: with a value if there are none, and otherwise with
their number. -/
inductive Concludes {α : Type} (kind : KeyKind) (found : α → Prop) :
    (left : List String) → Except Fault α → Prop where
  | complete {value : α} (holds : found value) : Concludes kind found [] (.ok value)
  | givesUp {left : List String} (remain : left ≠ []) :
      Concludes kind found left (.error (.leftUnprocessed left.length kind))

namespace Concludes

variable {α β : Type} {kind : KeyKind} {found : α → Prop} {left : List String}
  {outcome : Except Fault α}

theorem ok_iff (concludes : Concludes kind found left outcome) :
    (∃ value, outcome = .ok value) ↔ left = [] := by
  cases concludes with
  | complete _ => exact ⟨fun _ => rfl, fun _ => ⟨_, rfl⟩⟩
  | givesUp remain => exact ⟨nofun, fun nothing => absurd nothing remain⟩

theorem of_ok {value : α} (concludes : Concludes kind found left (.ok value)) : found value := by
  cases concludes with
  | complete holds => exact holds

theorem eq_error (concludes : Concludes kind found left outcome) (remain : left ≠ []) :
    outcome = .error (.leftUnprocessed left.length kind) := by
  cases concludes with
  | complete _ => exact absurd rfl remain
  | givesUp _ => rfl

theorem bind {other : β → Prop} {next : α → Except Fault β}
    (concludes : Concludes kind found left outcome)
    (later : ∀ value, found value → ∃ result, next value = .ok result ∧ other result) :
    Concludes kind other left (outcome.bind next) := by
  cases concludes with
  | complete holds =>
    obtain ⟨result, equal, holds⟩ := later _ holds
    show Concludes kind other [] (next _)
    rw [equal]
    exact .complete holds
  | givesUp remain => exact .givesUp remain

end Concludes

section Reading

variable {σ α β : Type} {store : BatchStore σ} {table : BatchTable} {find? : String → Option Json}
  {invariant : σ → Prop}

/-- The keys of a request have been read: behind the earlier notes stand the exchanges of its
rounds, and the outcome is what these conclude. -/
def HasRead (table : BatchTable) (find? : String → Option Json) (invariant : σ → Prop)
    (attempts : Nat) (request : BatchRequest) (found : α → Prop) (noted : List Exchange)
    (outcome : Except Fault α) (state : σ × List Exchange) : Prop :=
  invariant state.1 ∧ ∃ exchanges left, state.2 = noted ++ exchanges ∧
    Rounds table find? attempts request exchanges left ∧ Concludes table.kind found left outcome

/-- A call reads the keys of a request, whatever has been noted before. -/
def Call.Reads (table : BatchTable) (find? : String → Option Json) (invariant : σ → Prop)
    (attempts : Nat) (request : BatchRequest) (found : α → Prop)
    (call : Call (σ × List Exchange) Fault α) : Prop :=
  ∀ noted, call.Leads (fun state => invariant state.1 ∧ state.2 = noted)
    (HasRead table find? invariant attempts request found noted)

/-- Working on what was read changes nothing about how it was read. -/
theorem Call.Reads.bind {attempts : Nat} {request : BatchRequest} {found : α → Prop}
    {other : β → Prop} {call : Call (σ × List Exchange) Fault α}
    (reads : call.Reads table find? invariant attempts request found) (next : α → Except Fault β)
    (later : ∀ value, found value → ∃ result, next value = .ok result ∧ other result) :
    (call >>= fun value => .known (next value)).Reads table find? invariant attempts request
      other := by
  intro noted
  refine (reads noted).bind (fun value => Call.leads_known ?_) ?_
  · rintro state ⟨kept, exchanges, left, log, rounds, concludes⟩
    exact ⟨kept, exchanges, left, log, rounds, concludes.bind later⟩
  · rintro failure state ⟨kept, exchanges, left, log, rounds, concludes⟩
    exact ⟨kept, exchanges, left, log, rounds, concludes.bind later⟩

/-- One call of a throttled store is noted. -/
theorem leads_noting (throttles : store.Throttles table find? invariant) {request : BatchRequest}
    {keys : List String} (holds : request.Holds table keys) (askable : Askable keys)
    (noted : List Exchange) :
    (store.noting table request).Leads (fun state => invariant state.1 ∧ state.2 = noted)
      fun outcome state => invariant state.1 ∧ ∃ reply processed left, outcome = .ok reply ∧
        reply.Parts table find? keys processed left ∧
        state.2 = noted ++ [⟨table, request, .ok reply⟩] := by
  rintro ⟨state, _⟩ ⟨start, rfl⟩
  obtain ⟨kept, reply, processed, left, outcome, parts⟩ :=
    throttles request keys holds askable state start
  refine ⟨kept, reply, processed, left, outcome, parts, ?_⟩
  rw [← outcome]
  rfl

variable {accept : Json → Except Fault α}

/-- After a reply the entries in it are looked at, and what it hands back is read in the rounds that
remain. -/
theorem leads_after_reply {attempts : Nat} {request : BatchRequest} {reply : BatchReply}
    {keys processed left : List String} (holds : request.Holds table keys)
    (askable : Askable keys) (parts : reply.Parts table find? keys processed left)
    (acceptable : ∀ key ∈ keys, ∀ item, find? key = some item → ∃ value, accept item = .ok value)
    (later : ∀ rest, rest.Holds table left → Askable left →
      (readBatch store.noting table accept attempts rest).Reads table find? invariant attempts rest
        (Finds find? accept left)) (noted : List Exchange) :
    (Call.known (reply.items.mapM accept) >>= fun found =>
        match reply.unprocessed with
        | none => pure found
        | some rest => readBatch store.noting table accept attempts rest >>= fun more =>
            pure (found ++ more)).Leads
      (fun state => invariant state.1 ∧ state.2 = noted ++ [⟨table, request, .ok reply⟩])
      (HasRead table find? invariant (attempts + 1) request (Finds find? accept keys) noted) := by
  have all_ok : ∀ item ∈ reply.items, ∃ value, accept item = .ok value := by
    intro item member
    obtain ⟨key, inProcessed, stored⟩ := List.mem_filterMap.mp (parts.items.mem_iff.mp member)
    exact acceptable key (parts.parted.mem_iff.mp (List.mem_append_left _ inProcessed)) item stored
  obtain ⟨found, accepted⟩ := exists_mapM_ok all_ok
  have processedFound : Finds find? accept processed found := by
    show List.Perm _ _
    rw [← mapM_eq_ok_iff.mp accepted]
    exact parts.items.map accept
  rw [accepted]
  refine Call.Leads.known_bind ?_
  -- Either this was the last round, or what it leaves is read in the rounds that remain.
  by_cases nothing_left : left = []
  · cases nothing_left
    have parted := parts.parted
    rw [List.append_nil] at parted
    rw [parts.none_left rfl]
    exact Call.leads_known fun state ⟨kept, log⟩ => ⟨kept, _, _, log,
      .complete holds askable parts, .complete (processedFound.of_perm parted)⟩
  · obtain ⟨rest, asked, holdsRest⟩ := parts.some_left nothing_left
    have reads := (later rest holdsRest (askable.left parts.parted nothing_left)).bind
      (fun more => .ok (found ++ more)) fun more moreFound =>
        ⟨_, rfl, (processedFound.append moreFound).of_perm parts.parted⟩
    rw [asked]
    intro state start
    obtain ⟨kept, exchanges, finallyLeft, log, rounds, concludes⟩ := reads _ state start
    rw [List.append_assoc] at log
    exact ⟨kept, _, finallyLeft, log, .again holds askable parts asked rounds, concludes⟩

/-- Asking again for what was handed back goes through its rounds, and finds the entry of every key
that has one, if in the end nothing is left. -/
theorem readBatch_reads (throttles : store.Throttles table find? invariant) (attempts : Nat)
    {request : BatchRequest} {keys : List String} (holds : request.Holds table keys)
    (askable : Askable keys)
    (acceptable : ∀ key ∈ keys, ∀ item, find? key = some item → ∃ value, accept item = .ok value) :
    (readBatch store.noting table accept attempts request).Reads table find? invariant attempts
      request (Finds find? accept keys) := by
  -- The keys that a round leaves are askable again, so the next round starts like this one.
  induction attempts generalizing request keys with
  | zero =>
    intro noted
    have remain : keys ≠ [] := List.length_pos_iff.mp askable.nonempty
    rw [readBatch, holds.count]
    refine Call.Leads.known_bind (Call.leads_known ?_)
    rintro state ⟨kept, log⟩
    exact ⟨kept, [], keys, by rw [log, List.append_nil], .exhausted holds remain, .givesUp remain⟩
  | succ attempts inductionHypothesis =>
    intro noted
    rw [readBatch]
    refine (leads_noting throttles holds askable noted).bind ?_ ?_
    · rintro reply state ⟨kept, _, processed, left, same, parts, log⟩
      cases same
      refine leads_after_reply holds askable parts acceptable (fun rest holdsRest askableRest => ?_)
        noted state ⟨kept, log⟩
      exact inductionHypothesis holdsRest askableRest fun key member =>
        acceptable key (parts.parted.mem_iff.mp (List.mem_append_right _ member))
    · rintro failure state ⟨_, _, _, _, impossible, _⟩
      cases impossible

/-- Reading a chunk asks for the keys of its subjects. -/
theorem readChunk_reads (accept : Json → Except Fault α)
    (throttles : store.Throttles table find? invariant) {chunk : List String}
    (nonempty : 1 ≤ chunk.length) (few : chunk.length ≤ 100) (nodup : chunk.Nodup)
    (acceptable : ∀ subject ∈ chunk, ∀ item, find? (partitionKey subject) = some item →
      ∃ value, accept item = .ok value) :
    (readChunk store.noting table accept chunk).Reads table find? invariant (maxRetries + 1)
      (.keys (chunk.map partitionKey))
      (Finds (fun subject => find? (partitionKey subject)) accept chunk) := by
  have askable : Askable (chunk.map partitionKey) := by
    refine ⟨?_, ?_, List.Nodup.map (fun _ _ => partitionKey_injective) nodup⟩
    · rwa [List.length_map]
    · rwa [List.length_map]
  rw [← Finds.map_subjects]
  refine readBatch_reads throttles (maxRetries + 1) (BatchRequest.holds_keys table _) askable ?_
  intro key member
  obtain ⟨subject, inChunk, rfl⟩ := List.mem_map.mp member
  exact acceptable subject inChunk

end Reading

/-! ### Chunk by chunk -/

/-- A walk along the chunks of a plan: one chunk after another is read in at most four rounds, and
the first of which something is left is the last one. -/
inductive Walks (table : BatchTable) (find? : String → Option Json) :
    (plan : List (List String)) → (reads : List (List Exchange)) → (left : List String) → Prop where
  | done : Walks table find? [] [] []
  | on {chunk : List String} {plan : List (List String)} {exchanges : List Exchange}
      {reads : List (List Exchange)} {left : List String}
      (rounds : Rounds table find? 4 (.keys (chunk.map partitionKey)) exchanges [])
      (later : Walks table find? plan reads left) :
      Walks table find? (chunk :: plan) (exchanges :: reads) left
  | stops {chunk : List String} {plan : List (List String)} {exchanges : List Exchange}
      {left : List String}
      (rounds : Rounds table find? 4 (.keys (chunk.map partitionKey)) exchanges left)
      (remain : left ≠ []) : Walks table find? (chunk :: plan) [exchanges] left

namespace Walks

variable {table : BatchTable} {find? : String → Option Json} {plan : List (List String)}
  {reads : List (List Exchange)} {left : List String}

theorem rounds (walks : Walks table find? plan reads left) : ∀ exchanges ∈ reads,
    ∃ request finallyLeft, Rounds table find? 4 request exchanges finallyLeft := by
  induction walks with
  | done => exact fun _ member => absurd member List.not_mem_nil
  | on rounds _ inductionHypothesis =>
    rw [List.forall_mem_cons]
    exact ⟨⟨_, _, rounds⟩, inductionHypothesis⟩
  | stops rounds _ =>
    intro exchanges member
    rw [List.mem_singleton.mp member]
    exact ⟨_, _, rounds⟩

/-- Nothing is left in the end if and only if nothing is left of any chunk of the plan. -/
theorem left_eq_nil_iff (walks : Walks table find? plan reads left) : left = [] ↔
    List.Forall₂ (fun chunk exchanges =>
      Rounds table find? 4 (.keys (chunk.map partitionKey)) exchanges []) plan reads := by
  induction walks with
  | done => exact ⟨fun _ => .nil, fun _ => rfl⟩
  | on rounds _ inductionHypothesis =>
    rw [inductionHypothesis, List.forall₂_cons]
    exact (and_iff_right rounds).symm
  | stops rounds remain =>
    refine ⟨fun nothing => absurd nothing remain, fun all => ?_⟩
    exact rounds.left_unique (List.forall₂_cons.mp all).1

end Walks

section Walking

variable {σ α : Type} {table : BatchTable} {find? : String → Option Json} {invariant : σ → Prop}
  {call : List String → Call (σ × List Exchange) Fault α} {result : List String → α → Prop}

/-- Calls that read one chunk each walk along their plan, and succeed together. -/
theorem inTurn_walks {plan : List (List String)}
    (each : ∀ chunk ∈ plan, (call chunk).Reads table find? invariant (maxRetries + 1)
      (.keys (chunk.map partitionKey)) (result chunk)) (cue : Cue)
    (state : σ × List Exchange) (start : invariant state.1) :
    ∃ reads left,
      ((Run.inTurn call plan cue state).finalState state).2 = state.2 ++ reads.flatten ∧
      Walks table find? plan reads left ∧
      Concludes table.kind (List.Forall₂ result plan) left
        (Run.inTurn call plan cue state).outcome := by
  induction plan generalizing cue state with
  | nil => exact ⟨[], [], (List.append_nil _).symm, .done, .complete .nil⟩
  | cons chunk plan inductionHypothesis =>
    rw [List.forall_mem_cons] at each
    obtain ⟨kept, exchanges, left, log, rounds, concludes⟩ := each.1 state.2 state ⟨start, rfl⟩
    simp only [Run.inTurn]
    generalize ((call chunk).run state).outcome = outcome at concludes
    cases concludes with
    | givesUp remain =>
      refine ⟨[exchanges], left, ?_, .stops rounds remain, .givesUp remain⟩
      rw [List.flatten_singleton]
      exact log
    | @complete value holds =>
      obtain ⟨reads, left, laterLog, walks, concludes⟩ := inductionHypothesis each.2
        (Cue.finish (cue.instant + ((call chunk).run state).took) cue) _ kept
      refine ⟨exchanges :: reads, left, ?_, .on rounds walks, ?_⟩
      · rw [Run.finalState_cons, List.flatten_cons, ← List.append_assoc, ← log]
        exact laterLog
      · exact concludes.bind fun values found => ⟨_, rfl, .cons holds found⟩

end Walking

end UserDirectory
