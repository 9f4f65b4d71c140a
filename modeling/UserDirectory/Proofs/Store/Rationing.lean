/-
This file counts what reading by keys asks of a store with a fixed ration: at each
call it takes the same time and processes the same number of keys, whichever these
are. Every exchange with such a store can be told from its request, and the time
that reading takes is told by the number of exchanges. A chunk of keys is then read
in as many rounds as rations fit into it, if so many rounds are allowed, and
otherwise in all that are allowed.

A shelf of limited capacity is such a store as long as nothing fails on it, for what
it hands back holds just the keys beyond its capacity, whoever worded the request.
-/

import Mathlib.Algebra.Order.Floor.Div
import UserDirectory.Proofs.Json.Checking
import UserDirectory.Proofs.Store.Throttling

namespace UserDirectory

/-! ### Rations -/

theorem BatchRequest.Holds.unique {request : BatchRequest} {table : BatchTable}
    {keys others : List String} (holds : request.Holds table keys)
    (otherHolds : request.Holds table others) : keys = others :=
  holds.partitions.symm.trans otherHolds.partitions

/-- What a reply leaves can be told from the reply. -/
theorem BatchReply.Parts.left_unique {reply : BatchReply} {table : BatchTable}
    {find? : String → Option Json} {keys processed others left otherLeft : List String}
    (parts : reply.Parts table find? keys processed left)
    (otherParts : reply.Parts table find? keys others otherLeft) : left = otherLeft := by
  by_cases nothing : left = []
  · by_contra different
    obtain ⟨rest, asked, _⟩ := otherParts.some_left fun otherNothing =>
      different (nothing.trans otherNothing.symm)
    rw [parts.none_left nothing] at asked
    cases asked
  · obtain ⟨rest, asked, holds⟩ := parts.some_left nothing
    by_cases otherNothing : otherLeft = []
    · rw [otherParts.none_left otherNothing] at asked
      cases asked
    · obtain ⟨otherRest, otherAsked, otherHolds⟩ := otherParts.some_left otherNothing
      cases asked.symm.trans otherAsked
      exact holds.unique otherHolds

/-- In an exchange about keys that may be asked for, a fixed number of them is processed. -/
def Exchange.IsRation (exchange : Exchange) (find? : String → Option Json) (capacity : Nat) :
    Prop :=
  ∀ keys, exchange.request.Holds exchange.table keys → Askable keys →
    ∃ reply processed left, exchange.outcome = .ok reply ∧
      reply.Parts exchange.table find? keys processed left ∧ left.length = keys.length - capacity

/-- A store takes the same time for each call, and processes a fixed number of the keys of each
request. -/
def BatchStore.Rations {σ : Type} (store : BatchStore σ) (table : BatchTable)
    (find? : String → Option Json) (capacity pace : Nat) (invariant : σ → Prop) : Prop :=
  ∀ request state, invariant state →
    invariant ((store table request).run state).state ∧
      ((store table request).run state).took = pace ∧
      (⟨table, request, ((store table request).run state).outcome⟩ : Exchange).IsRation find?
        capacity

theorem BatchStore.Rations.throttles {σ : Type} {store : BatchStore σ} {table : BatchTable}
    {find? : String → Option Json} {capacity pace : Nat} {invariant : σ → Prop}
    (rations : store.Rations table find? capacity pace invariant) :
    store.Throttles table find? invariant := by
  intro request keys holds askable state start
  obtain ⟨kept, -, ration⟩ := rations request state start
  obtain ⟨reply, processed, left, outcome, parts, -⟩ := ration keys holds askable
  exact ⟨kept, reply, processed, left, outcome, parts⟩

/-! ### The time that exchanges take -/

section Pace

variable {σ ι α β : Type} {store : BatchStore σ} {table : BatchTable}
  {find? : String → Option Json} {capacity pace : Nat} {invariant : σ → Prop}

/-- Exchanges with a store that rations have taken place in some time. -/
def Advances (find? : String → Option Json) (capacity pace : Nat) (invariant : σ → Prop)
    (before after : σ × List Exchange) (took : Nat) : Prop :=
  invariant after.1 ∧ ∃ exchanges, after.2 = before.2 ++ exchanges ∧
    took = pace * exchanges.length ∧ ∀ exchange ∈ exchanges, exchange.IsRation find? capacity

theorem Advances.refl {state : σ × List Exchange} (start : invariant state.1) :
    Advances find? capacity pace invariant state state 0 :=
  ⟨start, [], (List.append_nil _).symm, rfl, fun _ member => absurd member List.not_mem_nil⟩

theorem Advances.trans {before middle after : σ × List Exchange} {took more : Nat}
    (first : Advances find? capacity pace invariant before middle took)
    (second : Advances find? capacity pace invariant middle after more) :
    Advances find? capacity pace invariant before after (took + more) := by
  obtain ⟨-, exchanges, log, duration, rationed⟩ := first
  obtain ⟨kept, others, otherLog, otherDuration, otherRationed⟩ := second
  refine ⟨kept, exchanges ++ others, ?_, ?_, ?_⟩
  · rw [otherLog, log, List.append_assoc]
  · rw [duration, otherDuration, List.length_append, Nat.mul_add]
  · exact List.forall_mem_append.mpr ⟨rationed, otherRationed⟩

/-- A call makes exchanges with a store that rations, and takes no other time. -/
def Call.KeepsPace (find? : String → Option Json) (capacity pace : Nat) (invariant : σ → Prop)
    (call : Call (σ × List Exchange) Fault α) : Prop :=
  ∀ state, invariant state.1 →
    Advances find? capacity pace invariant state (call.run state).state (call.run state).took

theorem keepsPace_known (outcome : Except Fault α) :
    (Call.known outcome : Call (σ × List Exchange) Fault α).KeepsPace find? capacity pace
      invariant :=
  fun _ start => Advances.refl start

theorem Call.KeepsPace.bind {first : Call (σ × List Exchange) Fault α}
    {next : α → Call (σ × List Exchange) Fault β}
    (keeps : first.KeepsPace find? capacity pace invariant)
    (later : ∀ value, (next value).KeepsPace find? capacity pace invariant) :
    (first >>= next).KeepsPace find? capacity pace invariant := by
  intro state start
  have advances := keeps state start
  cases outcome : (first.run state).outcome with
  | ok value =>
    rw [Call.run_bind_of_ok outcome]
    exact advances.trans (later value _ advances.1)
  | error failure =>
    rw [Call.run_bind_of_error outcome]
    exact advances

theorem keepsPace_noting (rations : store.Rations table find? capacity pace invariant)
    (request : BatchRequest) :
    (store.noting table request).KeepsPace find? capacity pace invariant := by
  rintro ⟨state, noted⟩ start
  obtain ⟨kept, took, ration⟩ := rations request state start
  exact ⟨kept, _, rfl, took.trans (Nat.mul_one pace).symm, List.forall_mem_singleton.mpr ration⟩

theorem keepsPace_readBatch (rations : store.Rations table find? capacity pace invariant)
    (accept : Json → Except Fault α) (attempts : Nat) (request : BatchRequest) :
    (readBatch store.noting table accept attempts request).KeepsPace find? capacity pace
      invariant := by
  induction attempts generalizing request with
  | zero => exact (keepsPace_known _).bind fun _ => keepsPace_known _
  | succ attempts inductionHypothesis =>
    refine (keepsPace_noting rations request).bind fun reply => (keepsPace_known _).bind
      fun found => ?_
    cases reply.unprocessed with
    | none => exact keepsPace_known _
    | some rest => exact (inductionHypothesis rest).bind fun _ => keepsPace_known _

theorem advances_inTurn {call : ι → Call (σ × List Exchange) Fault α}
    (each : ∀ item, (call item).KeepsPace find? capacity pace invariant) (items : List ι)
    (cue : Cue) (state : σ × List Exchange) (start : invariant state.1) :
    ∃ took, (Run.inTurn call items cue state).time = cue.instant + took ∧
      Advances find? capacity pace invariant state
        ((Run.inTurn call items cue state).finalState state) took := by
  induction items generalizing cue state with
  | nil => exact ⟨0, rfl, Advances.refl start⟩
  | cons item rest inductionHypothesis =>
    have first := each item state start
    simp only [Run.inTurn]
    cases ((call item).run state).outcome with
    | error failure => exact ⟨_, rfl, first⟩
    | ok value =>
      obtain ⟨took, time, later⟩ := inductionHypothesis
        (Cue.finish (cue.instant + ((call item).run state).took) cue) _ first.1
      refine ⟨((call item).run state).took + took, time.trans (Nat.add_assoc _ _ _), ?_⟩
      rw [Run.finalState_cons]
      exact first.trans later

end Pace

/-! ### The number of rounds -/

/-- How many rations it takes to process so many keys. -/
def rationsFor (capacity size : Nat) : Nat :=
  size ⌈/⌉ capacity

theorem rationsFor_zero (capacity : Nat) : rationsFor capacity 0 = 0 :=
  zero_ceilDiv capacity

theorem rationsFor_of_le {capacity size : Nat} (positive : 0 < size) (enough : size ≤ capacity) :
    rationsFor capacity size = 1 := by
  rw [rationsFor, Nat.ceilDiv_eq_add_pred_div]
  exact Nat.div_eq_of_lt_le (by omega) (by omega)

theorem rationsFor_of_lt {capacity size : Nat} (positive : 0 < capacity) (more : capacity < size) :
    rationsFor capacity size = rationsFor capacity (size - capacity) + 1 := by
  rw [rationsFor, rationsFor, Nat.ceilDiv_eq_add_pred_div, Nat.ceilDiv_eq_add_pred_div,
    ← Nat.add_div_right _ positive]
  congr 1
  omega

namespace Rounds

variable {table : BatchTable} {find? : String → Option Json} {attempts capacity : Nat}
  {request : BatchRequest} {exchanges : List Exchange} {keys left : List String}

/-- Only keys of the first request are ever asked for. -/
theorem subset (rounds : Rounds table find? attempts request exchanges left)
    (holds : request.Holds table keys) :
    ∀ exchange ∈ exchanges, exchange.request.partitions table ⊆ keys := by
  induction rounds generalizing keys with
  | exhausted _ _ => exact fun _ member => absurd member List.not_mem_nil
  | complete _ _ _ =>
    rw [List.forall_mem_singleton, holds.partitions]
    exact List.Subset.refl _
  | again holdsKeys _ parts asked _ inductionHypothesis =>
    obtain rfl := holds.unique holdsKeys
    rw [List.forall_mem_cons, holds.partitions]
    refine ⟨List.Subset.refl _, fun exchange member => ?_⟩
    obtain ⟨rest, sameAsked, holdsRest⟩ := parts.some_left fun nothing => by
      rw [parts.none_left nothing] at asked
      cases asked
    cases asked.symm.trans sameAsked
    exact fun key inRequest => parts.parted.mem_iff.mp
      (List.mem_append_right _ (inductionHypothesis holdsRest exchange member inRequest))

/-- Each round takes a ration off the keys that are left. There are as many rounds as it takes until
none is left, or else as many as there may be. -/
theorem length_eq (rounds : Rounds table find? attempts request exchanges left)
    (holds : request.Holds table keys)
    (rationed : ∀ exchange ∈ exchanges, exchange.IsRation find? capacity) :
    left.length = keys.length - attempts * capacity ∧
      exchanges.length =
        if keys.length ≤ attempts * capacity then rationsFor capacity keys.length
        else attempts := by
  induction rounds generalizing keys with
  | exhausted holdsLeft remain =>
    obtain rfl := holds.unique holdsLeft
    rw [Nat.zero_mul, if_neg fun none_left => remain (List.eq_nil_of_length_eq_zero
      (Nat.le_zero.mp none_left))]
    exact ⟨rfl, rfl⟩
  | @complete attempts _ _ processed reply holdsKeys askable parts =>
    obtain rfl := holds.unique holdsKeys
    obtain ⟨_, others, otherLeft, outcome, otherParts, shrunk⟩ :=
      List.forall_mem_singleton.mp rationed keys holds askable
    cases outcome
    rw [← parts.left_unique otherParts, List.length_nil] at shrunk
    have once := rationsFor_of_le askable.nonempty (by omega : keys.length ≤ capacity)
    have enough : capacity ≤ (attempts + 1) * capacity := Nat.le_mul_of_pos_left _ (Nat.succ_pos _)
    rw [if_pos (by omega), once, List.length_nil]
    exact ⟨by omega, rfl⟩
  | @again attempts _ _ _ processed handedBack _ reply _ holdsKeys askable parts asked _
      inductionHypothesis =>
    obtain rfl := holds.unique holdsKeys
    rw [List.forall_mem_cons] at rationed
    obtain ⟨_, others, otherLeft, outcome, otherParts, shrunk⟩ := rationed.1 keys holds askable
    cases outcome
    rw [← parts.left_unique otherParts] at shrunk
    have remain : handedBack ≠ [] := fun nothing => by
      rw [parts.none_left nothing] at asked
      cases asked
    obtain ⟨rest, sameAsked, holdsRest⟩ := parts.some_left remain
    cases asked.symm.trans sameAsked
    obtain ⟨leftLength, length⟩ := inductionHypothesis holdsRest rationed.2
    have some_left := List.length_pos_iff.mpr remain
    rw [shrunk] at leftLength length some_left
    rw [Nat.succ_mul, List.length_cons, length]
    refine ⟨by omega, ?_⟩
    by_cases fits : keys.length ≤ attempts * capacity + capacity
    · have restFits : keys.length - capacity ≤ attempts * capacity := by omega
      have positive : 0 < capacity := by
        refine Nat.pos_of_ne_zero fun zero => ?_
        rw [zero, Nat.mul_zero] at fits
        omega
      rw [if_pos fits, if_pos restFits,
        rationsFor_of_lt positive (Nat.lt_of_sub_ne_zero (Nat.ne_of_gt some_left))]
    · have restMore : ¬ keys.length - capacity ≤ attempts * capacity := by omega
      rw [if_neg fits, if_neg restMore]

end Rounds

/-! ### Shelves -/

theorem Json.member?_withMember {document value : Json} {name : String}
    (isObject : document.member? name = some value) (other : Json) :
    (document.withMember name other).member? name = some other := by
  cases document with
  | obj members =>
    have dropped : ((members.filter fun member => member.1 ≠ name).find? fun member =>
        member.1 = name) = none := by
      refine List.find?_eq_none.mpr fun member inRest => ?_
      simpa using (List.mem_filter.mp inRest).2
    rw [Json.withMember, Json.member?, Json.lookup?, List.find?_append, dropped]
    simp
  | _ => cases isObject

/-- Where every element is kept, the first ones can be left out before or after. -/
theorem filterMap_drop {α β : Type} {function : α → Option β} {items : List α} (count : Nat)
    (kept : (items.filterMap function).length = items.length) :
    (items.drop count).filterMap function = (items.filterMap function).drop count := by
  induction items generalizing count with
  | nil => rw [List.drop_nil, List.filterMap_nil, List.drop_nil]
  | cons item rest inductionHypothesis =>
    cases count with
    | zero => rfl
    | succ count =>
      cases value : function item with
      | none =>
        rw [List.filterMap_cons_none value, List.length_cons] at kept
        have fewer := List.length_filterMap_le function rest
        omega
      | some result =>
        rw [List.filterMap_cons_some value, List.length_cons, List.length_cons] at kept
        rw [List.filterMap_cons_some value, List.drop_succ_cons, List.drop_succ_cons]
        exact inductionHypothesis count (Nat.succ_inj.mp kept)

/-- A request in a store's own words names each of the keys it holds once, in their order. -/
theorem BatchRequest.Holds.wantedIn {document : Json} {table : BatchTable} {keys : List String}
    (holds : (verbatim document).Holds table keys) :
    (∃ body wanted, document.member? table.name = some body ∧ body.member? "Keys" = some wanted) ∧
      (BatchRequest.wantedIn table document).length = keys.length := by
  obtain ⟨body, isBody, keyCount⟩ := bind_eq_ok_iff.mp holds.count
  obtain ⟨wanted, isWanted, size⟩ := bind_eq_ok_iff.mp keyCount
  rw [Json.required_eq_ok_iff] at isBody isWanted
  rw [toJson] at isBody
  refine ⟨⟨body, wanted, isBody, isWanted⟩, ?_⟩
  have partitions := congrArg List.length holds.partitions
  rw [partitions_verbatim] at partitions
  rw [BatchRequest.wantedIn, isBody, Option.bind_some, isWanted] at partitions ⊢
  cases wanted with
  | arr words => exact Except.ok.inj size
  | _ => exact partitions

/-- A request without its first keys holds the others, in whatever words it is made. -/
theorem BatchRequest.Holds.dropFirst {request : BatchRequest} {table : BatchTable}
    {keys : List String} (holds : request.Holds table keys) (count : Nat) :
    (request.dropFirst table count).Holds table (keys.drop count) := by
  cases request with
  | keys asked =>
    rw [← holds.partitions, partitions_keys]
    exact BatchRequest.holds_keys table _
  | verbatim document =>
    obtain ⟨⟨body, wanted, isBody, isWanted⟩, length⟩ := holds.wantedIn
    have partitions := holds.partitions
    let rest : Json := .arr ((BatchRequest.wantedIn table document).drop count)
    let shorter : Json := .obj [(table.name, body.withMember "Keys" rest)]
    have dropped : (verbatim document).dropFirst table count = verbatim shorter := by
      rw [BatchRequest.dropFirst, isBody]
      rfl
    have hasBody : shorter.member? table.name = some (body.withMember "Keys" rest) := by
      simp [shorter, Json.member?, Json.lookup?]
    have hasKeys := Json.member?_withMember isWanted rest
    have words : BatchRequest.wantedIn table shorter =
        (BatchRequest.wantedIn table document).drop count := by
      rw [BatchRequest.wantedIn, hasBody, Option.bind_some, hasKeys]
    rw [dropped]
    refine ⟨?_, ?_⟩
    · rw [← partitions, partitions_verbatim, words, partitions_verbatim]
      refine filterMap_drop count ?_
      rw [length, ← partitions, partitions_verbatim]
    · refine bind_eq_ok_iff.mpr ⟨_, Json.required_eq_ok_iff.mpr hasBody,
        bind_eq_ok_iff.mpr ⟨_, Json.required_eq_ok_iff.mpr hasKeys, ?_⟩⟩
      rw [List.length_drop, ← length, ← List.length_drop]
      rfl

/-- A desk on which nothing fails receives every call about no key in the same time. -/
theorem Desk.run_receive {desk : Desk} (unset : desk.failure = none) :
    (receive none).run desk = ⟨{ desk with seen := desk.seen + 1 }, desk.delay, .ok ()⟩ := by
  have unkeyed : (desk.keyDelays.find? fun entry => some entry.1 = none) = none :=
    List.find?_eq_none.mpr fun _ _ => by simp
  simp only [Call.run, receive, delayFor, unkeyed, failureOf, unset]

namespace BatchShelf

/-- A shelf processes the first keys of a request, and hands back the others. -/
theorem answer_parts (shelf : BatchShelf) {table : BatchTable} {request : BatchRequest}
    {keys : List String} (holds : request.Holds table keys) :
    (shelf.answer table request).Parts table shelf.find? keys
      (keys.take (shelf.capacity.getD keys.length))
      (keys.drop (shelf.capacity.getD keys.length)) := by
  rw [answer, holds.partitions]
  refine ⟨?_, List.reverse_perm _, fun nothing => ?_, fun remain => ⟨_, ?_, holds.dropFirst _⟩⟩
  · rw [List.take_append_drop]
  · exact if_pos (List.drop_eq_nil_iff.mp nothing)
  · exact if_neg fun fits => remain (List.drop_eq_nil_iff.mpr fits)

theorem isRation_answer {shelf : BatchShelf} {capacity : Nat}
    (limited : shelf.capacity = some capacity) (table : BatchTable) (request : BatchRequest) :
    (⟨table, request, .ok (shelf.answer table request)⟩ : Exchange).IsRation shelf.find?
      capacity := by
  intro keys holds _
  refine ⟨_, _, _, rfl, shelf.answer_parts holds, ?_⟩
  rw [List.length_drop, limited, Option.getD_some]

/-- A shelf on which nothing fails answers from its entries, in the time that its desk takes. -/
theorem run_serve {shelf : BatchShelf} (unset : shelf.desk.failure = none)
    (unscripted : shelf.prepared = []) (table : BatchTable) (request : BatchRequest) :
    (serve table request).run shelf =
      ⟨{ shelf with
          desk := { shelf.desk with seen := shelf.desk.seen + 1 }
          seen := shelf.seen ++ [(table, request)] },
        shelf.desk.delay, .ok (shelf.answer table request)⟩ := by
  have received := Desk.run_receive unset
  simp only [Call.run] at received
  simp only [Call.run, serve, bind, Call.andThen, Call.update, Call.within, received, respond,
    unscripted, Nat.zero_add, Nat.add_zero]
  rfl

/-- A shelf of limited capacity on which nothing fails has a fixed ration. -/
theorem rations_serve {original : BatchShelf} {capacity : Nat}
    (unset : original.desk.failure = none) (limited : original.capacity = some capacity)
    (table : BatchTable) :
    BatchStore.Rations serve table original.find? capacity original.desk.delay fun shelf =>
      original.Keeps shelf ∧ shelf.desk.delay = original.desk.delay := by
  rintro request shelf ⟨kept, delay⟩
  have sameEntries : shelf.find? = original.find? := by
    funext partition
    rw [find?, find?, kept.items]
  have served := run_serve (kept.failure.trans unset) kept.unscripted table request
  rw [served, ← sameEntries]
  exact ⟨⟨⟨kept.items, kept.capacity, kept.failure, kept.unscripted⟩, delay⟩, delay,
    isRation_answer (kept.capacity.trans limited) table request⟩

end BatchShelf

end UserDirectory
