/-
This file proves that reading by keys loses nothing and repeats nothing. A store
may leave keys unprocessed and may hand out entries in any order; what it owes is
that every key is either processed or handed back. Asking again for what was
handed back then finds, up to order, the entry of every key that has one, and a
store that processes enough keys at a time runs out of keys before whoever reads
runs out of attempts. The shelves in memory are such stores: their content is
never changed by reading it.
-/

import Mathlib.Data.List.Forall2
import UserDirectory.Proofs.Concurrent.Calls
import UserDirectory.Store.Entries

namespace UserDirectory

/-! ### Distinct elements and chunks -/

section Lists

variable {α : Type}

theorem mem_distinct [BEq α] [LawfulBEq α] {item : α} {items : List α} :
    item ∈ distinct items ↔ item ∈ items := by
  induction items with
  | nil => rfl
  | cons first rest inductionHypothesis =>
    rw [distinct, List.mem_cons, List.mem_filter, inductionHypothesis, List.mem_cons]
    by_cases same : item = first
    · simp [same]
    · simp [same]

theorem nodup_distinct [BEq α] [LawfulBEq α] (items : List α) : (distinct items).Nodup := by
  induction items with
  | nil => exact List.nodup_nil
  | cons first rest inductionHypothesis =>
    rw [distinct, List.nodup_cons]
    refine ⟨fun member => ?_, inductionHypothesis.filter _⟩
    simpa using (List.mem_filter.mp member).2

/-- The distinct elements of a list without repeats are its elements. -/
theorem distinct_of_nodup [BEq α] [LawfulBEq α] {items : List α} (nodup : items.Nodup) :
    distinct items = items := by
  induction items with
  | nil => rfl
  | cons first rest inductionHypothesis =>
    obtain ⟨notMember, restNodup⟩ := List.nodup_cons.mp nodup
    rw [distinct, inductionHypothesis restNodup, List.filter_eq_self.mpr]
    intro item member
    simpa using fun same : item = first => notMember (same ▸ member)

/-- Behind the distinct elements of a list stand those of another one that are new. -/
theorem distinct_append [BEq α] [LawfulBEq α] (items others : List α) :
    distinct (items ++ others) =
      distinct items ++ (distinct others).filter (!items.contains ·) := by
  induction items with
  | nil =>
    rw [List.nil_append, distinct, List.nil_append, List.filter_eq_self.mpr]
    exact fun _ _ => rfl
  | cons item rest inductionHypothesis =>
    rw [List.cons_append, distinct, distinct, inductionHypothesis, List.filter_append,
      List.filter_filter, List.cons_append]
    refine congrArg (fun more => item :: (_ ++ more)) (List.filter_congr fun other _ => ?_)
    rw [List.contains_cons, Bool.not_or]

/-- The distinct elements of a list stand in the order in which they first occur in it. -/
theorem pairwise_distinct [BEq α] [LawfulBEq α] (items : List α) :
    (distinct items).Pairwise fun first second => items.idxOf first < items.idxOf second := by
  induction items with
  | nil => exact List.Pairwise.nil
  | cons item rest inductionHypothesis =>
    have other {element : α} (member : element ∈ (distinct rest).filter (!· == item)) :
        (item :: rest).idxOf element = rest.idxOf element + 1 := by
      have different : ¬ item = element := fun same => by
        simpa [same] using (List.mem_filter.mp member).2
      exact List.idxOf_cons_ne rest different
    rw [distinct, List.pairwise_cons]
    refine ⟨fun element member => ?_, ?_⟩
    · rw [List.idxOf_cons_self, other member]
      exact Nat.succ_pos _
    · refine (inductionHypothesis.filter _).imp_of_mem fun first second order => ?_
      rw [other first, other second]
      exact Nat.succ_lt_succ order

theorem flatten_cut (size count : Nat) (items : List α) (enough : items.length ≤ count * size) :
    (cut size count items).flatten = items := by
  induction count generalizing items with
  | zero =>
    rw [Nat.zero_mul, Nat.le_zero] at enough
    rw [List.eq_nil_of_length_eq_zero enough]
    rfl
  | succ count inductionHypothesis =>
    rw [cut, List.flatten_cons, inductionHypothesis, List.take_append_drop]
    rw [List.length_drop]
    rw [Nat.succ_mul] at enough
    omega

theorem flatten_chunks {size : Nat} (positive : 0 < size) (items : List α) :
    (chunks size items).flatten = items := by
  refine flatten_cut _ _ _ ?_
  have remainder := Nat.mod_lt (items.length + size - 1) positive
  have division := Nat.div_add_mod (items.length + size - 1) size
  rw [Nat.mul_comm] at division
  omega

theorem length_of_mem_cut {size count : Nat} (positive : 0 < size) {items chunk : List α}
    (needed : count * size < items.length + size) (member : chunk ∈ cut size count items) :
    1 ≤ chunk.length ∧ chunk.length ≤ size := by
  induction count generalizing items with
  | zero => exact absurd member List.not_mem_nil
  | succ count inductionHypothesis =>
    rw [Nat.succ_mul] at needed
    rw [cut, List.mem_cons] at member
    rcases member with rfl | inRest
    · rw [List.length_take]
      omega
    · refine inductionHypothesis ?_ inRest
      rw [List.length_drop]
      -- Where the first chunk is not full no other one is needed.
      cases count with
      | zero => exact absurd inRest List.not_mem_nil
      | succ count =>
        rw [Nat.succ_mul] at needed ⊢
        omega

theorem length_of_mem_chunks {size : Nat} (positive : 0 < size) {items chunk : List α}
    (member : chunk ∈ chunks size items) : 1 ≤ chunk.length ∧ chunk.length ≤ size := by
  refine length_of_mem_cut positive ?_ member
  have whole := Nat.div_mul_le_self (items.length + size - 1) size
  omega

end Lists

/-! ### Answers to requests by keys -/

/-- A reply answers a request for some keys: each of them is either processed, and then its entry
is among the items, or handed back. -/
structure BatchReply.Answers (reply : BatchReply) (find? : String → Option Json)
    (partitions processed left : List String) : Prop where
  parted : (processed ++ left).Perm partitions
  items : reply.items.Perm (processed.filterMap find?)
  unprocessed : reply.unprocessed = if left = [] then none else some (.keys left)

/-- A store answers every request by keys from a collection of entries, and processes at least so
many keys at a time. -/
def BatchStore.Serves {σ : Type} (store : BatchStore σ) (table : BatchTable)
    (find? : String → Option Json) (capacity : Nat) (failing : Prop) (invariant : σ → Prop) :
    Prop :=
  ∀ partitions, (store table (.keys partitions)).Ends failing invariant fun reply =>
    ∃ processed left, reply.Answers find? partitions processed left ∧
      left.length ≤ partitions.length - capacity

/-- What is found for some subjects: the value of the entry of each subject that has one, in any
order. -/
def Finds {κ α : Type} (item? : κ → Option Json) (accept : Json → Except Fault α)
    (subjects : List κ) (found : List α) : Prop :=
  (found.map .ok).Perm ((subjects.filterMap item?).map accept)

/-- The value of the entry of a subject. -/
def valueOf? {κ α : Type} (item? : κ → Option Json) (accept : Json → Except Fault α)
    (subject : κ) : Option α :=
  (item? subject).bind fun item => (accept item).toOption

namespace Finds

variable {κ α : Type} {item? : κ → Option Json} {accept : Json → Except Fault α}

theorem perm {subjects : List κ} {found : List α} (finds : Finds item? accept subjects found) :
    found.Perm (subjects.filterMap (valueOf? item? accept)) := by
  have values := finds.filterMap Except.toOption
  rw [List.filterMap_map, List.filterMap_map, List.filterMap_filterMap] at values
  have all_kept : found.filterMap (Except.toOption ∘ (Except.ok : α → Except Fault α)) = found := by
    exact List.filterMap_some
  rwa [all_kept] at values

/-- The entry of each subject is acceptable. -/
theorem accepted {subjects : List κ} {found : List α} (finds : Finds item? accept subjects found)
    {subject : κ} (member : subject ∈ subjects) {item : Json} (stored : item? subject = some item) :
    ∃ value, accept item = .ok value := by
  have reached : accept item ∈ (subjects.filterMap item?).map accept :=
    List.mem_map_of_mem (List.mem_filterMap.mpr ⟨subject, member, stored⟩)
  obtain ⟨value, _, equal⟩ := List.mem_map.mp (finds.mem_iff.mpr reached)
  exact ⟨value, equal.symm⟩

theorem append {subjects others : List κ} {found more : List α}
    (first : Finds item? accept subjects found) (second : Finds item? accept others more) :
    Finds item? accept (subjects ++ others) (found ++ more) := by
  unfold Finds at first second ⊢
  rw [List.map_append, List.filterMap_append, List.map_append]
  exact List.Perm.append first second

theorem of_perm {subjects others : List κ} {found : List α}
    (finds : Finds item? accept subjects found) (same : subjects.Perm others) :
    Finds item? accept others found :=
  List.Perm.trans finds ((same.filterMap item?).map accept)

/-- To find something for named subjects is to find it for their names. -/
theorem map_subjects {κ' : Type} (name : κ' → κ) (subjects : List κ') :
    Finds item? accept (subjects.map name) = Finds (fun subject => item? (name subject)) accept
      subjects := by
  funext found
  unfold Finds
  rw [List.filterMap_map]
  rfl

theorem flatten {chunks : List (List κ)} {founds : List (List α)}
    (each : List.Forall₂ (Finds item? accept) chunks founds) :
    Finds item? accept chunks.flatten founds.flatten := by
  induction each with
  | nil => exact List.Perm.refl _
  | cons head _ inductionHypothesis =>
    rw [List.flatten_cons, List.flatten_cons]
    exact head.append inductionHypothesis

end Finds

section Reading

variable {σ α : Type} {store : BatchStore σ} {table : BatchTable} {find? : String → Option Json}
  {capacity : Nat} {failing : Prop} {invariant : σ → Prop}

/-- Asking again for what was handed back finds the entry of every key that has one. Whoever reads
succeeds if the attempts suffice and every entry is acceptable. -/
theorem readBatch_ends (accept : Json → Except Fault α)
    (serves : BatchStore.Serves store table find? capacity failing invariant)
    (attempts : Nat) (partitions : List String)
    (enough : failing ∨ 0 < attempts ∧ partitions.length ≤ attempts * capacity)
    (acceptable : failing ∨ ∀ partition ∈ partitions, ∀ item, find? partition = some item →
      ∃ value, accept item = .ok value) :
    (readBatch store table accept attempts (.keys partitions)).Ends failing invariant
      (Finds find? accept partitions) := by
  -- Every attempt leaves at least `capacity` keys fewer, so the bound shrinks with the attempts.
  induction attempts generalizing partitions with
  | zero =>
    rcases enough with allowed | ⟨impossible, _⟩
    · refine Call.ends_known_bind (fun _ => True) ?_ fun _ _ => Call.ends_known allowed
      rw [BatchRequest.keyCount_keys]
      trivial
    · exact absurd impossible (Nat.lt_irrefl 0)
  | succ attempts inductionHypothesis =>
    rw [readBatch]
    refine Call.Ends.bind (serves partitions) fun reply ⟨processed, left, answers, fewer⟩ => ?_
    refine Call.ends_known_bind (Finds find? accept processed) ?_ fun found processedFound => ?_
    · cases accepted : reply.items.mapM accept with
      | ok found =>
        show List.Perm _ _
        rw [← mapM_eq_ok_iff.mp accepted]
        exact answers.items.map accept
      | error fault =>
        rcases acceptable with allowed | acceptable
        · exact allowed
        · have all_ok : ∀ item ∈ reply.items, ∃ value, accept item = .ok value := by
            intro item member
            obtain ⟨partition, inProcessed, stored⟩ :=
              List.mem_filterMap.mp (answers.items.mem_iff.mp member)
            exact acceptable partition
              (answers.parted.mem_iff.mp (List.mem_append_left _ inProcessed)) item stored
          obtain ⟨values, equal⟩ := exists_mapM_ok all_ok
          rw [accepted] at equal
          cases equal
    · rw [answers.unprocessed]
      by_cases nothing_left : left = []
      · rw [if_pos nothing_left]
        have parted := answers.parted
        rw [nothing_left, List.append_nil] at parted
        exact Call.ends_known (processedFound.of_perm parted)
      · rw [if_neg nothing_left]
        refine Call.Ends.bind (inductionHypothesis left ?_ ?_) fun more leftFound =>
          Call.ends_known ((processedFound.append leftFound).of_perm answers.parted)
        · refine enough.imp_right fun ⟨_, within⟩ => ?_
          have remaining : 0 < left.length := List.length_pos_iff.mpr nothing_left
          rw [Nat.succ_mul] at within
          have bound : left.length ≤ attempts * capacity := by omega
          refine ⟨Nat.pos_of_ne_zero fun none_remain => ?_, bound⟩
          rw [none_remain, Nat.zero_mul] at bound
          omega
        · exact acceptable.imp_right fun each partition member =>
            each partition (answers.parted.mem_iff.mp (List.mem_append_right _ member))

/-- Different subjects have different keys. -/
theorem partitionKey_injective {first second : String}
    (same : partitionKey first = partitionKey second) : first = second := by
  have characters : "USER#".toList ++ first.toList = "USER#".toList ++ second.toList := by
    rw [← String.toList_append, ← String.toList_append]
    exact congrArg String.toList same
  exact String.toList_inj.mp (List.append_cancel_left characters)

/-- Reading the entries of subjects finds the entry of each subject that has one. -/
theorem readChunk_ends (accept : Json → Except Fault α)
    (serves : BatchStore.Serves store table find? capacity failing invariant)
    (subjects : List String) (enough : failing ∨ subjects.length ≤ (maxRetries + 1) * capacity)
    (acceptable : failing ∨ ∀ subject ∈ subjects, ∀ item, find? (partitionKey subject) = some item →
      ∃ value, accept item = .ok value) :
    (readChunk store table accept subjects).Ends failing invariant
      (Finds (fun subject => find? (partitionKey subject)) accept subjects) := by
  rw [← Finds.map_subjects]
  refine readBatch_ends accept serves (maxRetries + 1) (subjects.map partitionKey)
    (enough.imp_right fun within => ⟨Nat.succ_pos _, by rwa [List.length_map]⟩)
    (acceptable.imp_right fun each partition member => ?_)
  obtain ⟨subject, inSubjects, rfl⟩ := List.mem_map.mp member
  exact each subject inSubjects

end Reading

/-! ### Shelves -/

/-- A call that a desk receives ends with a failure only if one is set. -/
theorem Desk.ends_receive (key : Option String) (rule : Option FailureRule) {failing : Prop}
    (unset : failing ∨ rule = none) :
    (Desk.receive key).Ends failing (fun desk => desk.failure = rule) fun _ => True := by
  intro desk kept
  refine ⟨kept, ?_⟩
  simp only [Call.run, Desk.receive]
  rcases unset with allowed | rfl
  · cases desk.failureOf (desk.seen + 1) key with
    | some cause => exact allowed
    | none => trivial
  · rw [Desk.failureOf, kept]
    trivial

namespace BatchShelf

/-- A shelf still holds what it held, and answers from it. -/
structure Keeps (original shelf : BatchShelf) : Prop where
  items : shelf.items = original.items
  capacity : shelf.capacity = original.capacity
  failure : shelf.desk.failure = original.desk.failure
  unscripted : shelf.prepared = []

theorem answer_keys (shelf : BatchShelf) (table : BatchTable) (partitions : List String) :
    shelf.answer table (.keys partitions) =
      ⟨((partitions.take (shelf.capacity.getD partitions.length)).filterMap shelf.find?).reverse,
        if partitions.length ≤ shelf.capacity.getD partitions.length then none
        else some (.keys (partitions.drop (shelf.capacity.getD partitions.length)))⟩ := by
  rw [answer, BatchRequest.partitions_keys]
  rfl

theorem answer_answers (shelf : BatchShelf) (table : BatchTable) (partitions : List String) :
    (shelf.answer table (.keys partitions)).Answers shelf.find? partitions
      (partitions.take (shelf.capacity.getD partitions.length))
      (partitions.drop (shelf.capacity.getD partitions.length)) := by
  rw [answer_keys]
  refine ⟨?_, List.reverse_perm _, ?_⟩
  · rw [List.take_append_drop]
  · simp only
    by_cases fits : partitions.length ≤ shelf.capacity.getD partitions.length
    · rw [if_pos fits, if_pos (List.drop_eq_nil_iff.mpr fits)]
    · rw [if_neg fits, if_neg fun nothing => fits (List.drop_eq_nil_iff.mp nothing)]

/-- A shelf answers from what it holds. -/
theorem ends_serve (original : BatchShelf) (table : BatchTable) (request : BatchRequest)
    {failing : Prop} (unset : failing ∨ original.desk.failure = none) :
    (serve table request).Ends failing original.Keeps fun reply =>
      reply = original.answer table request := by
  unfold serve
  refine Call.ends_update_bind
    (fun shelf kept => ⟨kept.items, kept.capacity, kept.failure, kept.unscripted⟩) ?_
  refine Call.Ends.bind ((Desk.ends_receive none original.desk.failure unset).within
    (fun shelf kept => kept.failure)
    fun shelf desk kept rule => ⟨kept.items, kept.capacity, rule, kept.unscripted⟩) fun _ _ => ?_
  intro shelf kept
  simp only [Call.run, respond, kept.unscripted]
  refine ⟨kept, ?_⟩
  rw [meets_ok, answer, answer, kept.capacity]
  have sameEntries : shelf.find? = original.find? := by
    funext partition
    rw [find?, find?, kept.items]
  rw [sameEntries]

end BatchShelf

namespace Entries

/-- Both shelves still hold what they held. -/
structure Keeps (original entries : Entries) : Prop where
  users : original.users.Keeps entries.users
  managed : original.managed.Keeps entries.managed

/-- The shelf of a kind of entries. -/
def shelf (entries : Entries) : KeyKind → BatchShelf
  | .user => entries.users
  | .provisioning => entries.managed

/-- The entries of a kind are served from their shelf. -/
theorem serves (original : Entries) (table : BatchTable) {failing : Prop}
    (unset : failing ∨ (original.shelf table.kind).desk.failure = none) {capacity : Nat}
    (roomy : ∀ limit, (original.shelf table.kind).capacity = some limit → capacity ≤ limit) :
    BatchStore.Serves serve table (original.shelf table.kind).find? capacity failing
      original.Keeps := by
  intro partitions
  have fromShelf := (original.shelf table.kind).ends_serve table (.keys partitions) unset
  have answered : (BatchShelf.serve table (.keys partitions)).Ends failing
      (original.shelf table.kind).Keeps fun reply => ∃ processed left,
        reply.Answers (original.shelf table.kind).find? partitions processed left ∧
          left.length ≤ partitions.length - capacity := by
    refine fromShelf.imp fun reply equal => ?_
    rw [equal]
    refine ⟨_, _, (original.shelf table.kind).answer_answers table partitions, ?_⟩
    rw [List.length_drop]
    cases limited : (original.shelf table.kind).capacity with
    | none => simp
    | some limit =>
      have := roomy limit limited
      simp only [Option.getD_some]
      omega
  unfold serve
  rw [BatchRequest.kind_keys]
  obtain ⟨name, kind⟩ := table
  cases kind with
  | user =>
    exact answered.within (fun entries kept => kept.users)
      fun entries shelf kept inner => ⟨inner, kept.managed⟩
  | provisioning =>
    exact answered.within (fun entries kept => kept.managed)
      fun entries shelf kept inner => ⟨kept.users, inner⟩

end Entries

end UserDirectory
