/-
This file proves that reading page by page loses nothing and repeats nothing. The
pages of a key are cut from what is stored under it, each one starting where the
last one stopped, so joining them as they arrive always gives the part from the
beginning up to the last stop. Each page moves the stop on, and the chain ends when
the stop is the end of what is stored.
-/

import UserDirectory.Proofs.Store.KeyedReading
import UserDirectory.Store.Paged

namespace UserDirectory

/-! ### Parts of what is stored -/

namespace Holding

/-- Joining the part up to a position and the part from there on to a later one gives the part up to
the later one. -/
def JoinsParts (holding : Holding) (key : String) (join : Json → Json → Except Fault Json) : Prop :=
  ∀ (start : Nat) (stop : Int), (start : Int) ≤ stop → stop ≤ holding.size key →
    join (holding.slice key 0 start) (holding.slice key start stop) = .ok (holding.slice key 0 stop)

theorem joinsParts_items (entries : List (String × List Json)) (key : String) :
    (Holding.items entries).JoinsParts key Json.extend := by
  intro start stop order _
  have cut : (stop - start).toNat = stop.toNat - start := by omega
  have later : start + (stop.toNat - start) = stop.toNat := by omega
  have joined : (itemsOf entries key).take start ++
      ((itemsOf entries key).drop start).take (stop - start).toNat =
      (itemsOf entries key).take stop.toNat := by
    rw [cut, ← later, List.take_add, Nat.add_sub_cancel_left]
  simpa [slice, Json.extend, Json.elements, Except.map] using joined

theorem joinsParts_counts (entries : List (String × Int)) (key : String) :
    (Holding.counts entries).JoinsParts key Json.plus := by
  intro start stop _ _
  have sum : (start : Int) - (0 : Nat) + (stop - start) = stop - (0 : Nat) := by omega
  simp only [slice, Json.plus, Json.plusNumber, Json.number?, sum]

/-! ### Queries -/

/-- The query of what is kept of a subject. -/
def query (holding : Holding) (key : String) : PageQuery :=
  ⟨partitionKey key, holding.mark, holding.selection?.isSome⟩

/-- A store makes out of a request for what it keeps which subject it is about. -/
theorem subject?_query (holding : Holding) (key : String) (start : Option Position) :
    holding.subject? ((holding.query key).toJson start) = some key := by
  have subject : String.ofList ((partitionKey key).toList.drop partitionMarkLength) = key := by
    rw [partitionKey, String.toList_append,
      show partitionMarkLength = "USER#".toList.length from rfl, List.drop_left,
      String.ofList_toList]
  refine Eq.trans ?_ (congrArg some subject)
  cases holding with
  | items entries =>
    cases start with
    | none => rfl
    | some position => rfl
  | counts entries =>
    cases start with
    | none => rfl
    | some position => rfl

end Holding

/-- A store makes out of a request where the page starts. -/
theorem PageQuery.placeIn_toJson (query : PageQuery) (start : Option Position) :
    (((query.toJson start).member? "ExclusiveStartKey").map placeIn).getD 0 =
      (start.map (·.count)).getD 0 := by
  obtain ⟨partition, mark, isCount⟩ := query
  cases isCount with
  | false =>
    cases start with
    | none => rfl
    | some position => rfl
  | true =>
    cases start with
    | none => rfl
    | some position => rfl

/-! ### Pages of a shelf -/

namespace PagedShelf

/-- A shelf still holds what it held, and answers from it. -/
structure Keeps (original shelf : PagedShelf) : Prop where
  holding : shelf.holding = original.holding
  pageSize : shelf.pageSize = original.pageSize
  failure : shelf.desk.failure = original.desk.failure
  unscripted : shelf.prepared = []

/-- Where the page that starts behind a number of items stops. -/
def stop (shelf : PagedShelf) (key : String) (start : Nat) : Int :=
  match shelf.pageSize with
  | some length => min (start + max length 1 : Nat) (shelf.holding.size key)
  | none => shelf.holding.size key

/-- What follows a stop. -/
def following (shelf : PagedShelf) (key : String) (stop : Int) : Option Position :=
  if stop < shelf.holding.size key then some (.offset stop.toNat) else none

theorem page_eq (shelf : PagedShelf) (key : String) (start : Nat) :
    shelf.page key start =
      ⟨shelf.holding.slice key start (shelf.stop key start),
        shelf.following key (shelf.stop key start)⟩ := rfl

theorem stop_le_size (shelf : PagedShelf) (key : String) (start : Nat) :
    shelf.stop key start ≤ shelf.holding.size key := by
  unfold stop
  split
  · exact Int.min_le_right _ _
  · exact Int.le_refl _

theorem le_stop (shelf : PagedShelf) (key : String) {start : Nat}
    (within : (start : Int) ≤ shelf.holding.size key) : (start : Int) ≤ shelf.stop key start := by
  unfold stop
  split
  · omega
  · exact within

/-- A page holds at least one item, so it moves the stop on. -/
theorem lt_stop (shelf : PagedShelf) (key : String) {start : Nat}
    (within : (start : Int) < shelf.holding.size key) : (start : Int) < shelf.stop key start := by
  unfold stop
  split
  · omega
  · exact within

/-- Every stop is a position in what is stored, or its end. -/
theorem stop_nonneg_or_eq (shelf : PagedShelf) (key : String) (start : Nat) :
    0 ≤ shelf.stop key start ∨ shelf.stop key start = shelf.holding.size key := by
  unfold stop
  split
  · omega
  · exact Or.inr rfl

/-- A shelf serves the queries of what it holds. -/
theorem run_ask {shelf : PagedShelf} {holding : Holding} (holds : shelf.holding = holding)
    (key : String) (start : Option Position) :
    (ask (holding.query key) start).run shelf =
      (serve key start ((holding.query key).toJson start)).run shelf := by
  rw [Call.run, ask, holds, holding.subject?_query]

theorem pageBound_query (shelf : PagedShelf) (key : String) :
    shelf.pageBound (shelf.holding.query key) =
      (Holding.itemsOf shelf.prepared key).length + (shelf.holding.size key).toNat + 1 := by
  rw [pageBound, shelf.holding.subject?_query]

variable {failing : Prop}

/-- A shelf hands out the pages of what it holds. -/
theorem ends_ask (original : PagedShelf) (key : String) (start : Option Position)
    (unset : failing ∨ original.desk.failure = none) :
    (ask (original.holding.query key) start).Ends failing original.Keeps fun page =>
      page = original.page key ((start.map (·.count)).getD 0) := by
  have served : (serve key start ((original.holding.query key).toJson start)).Ends failing
      original.Keeps fun page => page = original.page key ((start.map (·.count)).getD 0) := by
    unfold serve
    refine Call.ends_update_bind
      (fun shelf kept => ⟨kept.holding, kept.pageSize, kept.failure, kept.unscripted⟩) ?_
    refine Call.Ends.bind ((Desk.ends_receive (some key) original.desk.failure unset).within
      (fun shelf kept => kept.failure) fun shelf desk kept rule =>
        ⟨kept.holding, kept.pageSize, rule, kept.unscripted⟩) fun _ _ => ?_
    intro shelf kept
    simp only [Call.run, respond, kept.unscripted, takePrepared, PageQuery.placeIn_toJson]
    refine ⟨kept, ?_⟩
    rw [meets_ok, page, page, kept.holding, kept.pageSize]
  intro shelf kept
  rw [run_ask kept.holding]
  exact served shelf kept

/-- Reading on from a stop gives everything that is stored, if enough pages may follow. -/
theorem readOn_ends (original : PagedShelf) (key : String) {join : Json → Json → Except Fault Json}
    (joins : original.holding.JoinsParts key join) (unset : failing ∨ original.desk.failure = none)
    (bound : Nat) (stop : Int) (within : stop ≤ original.holding.size key)
    (position : 0 ≤ stop ∨ stop = original.holding.size key)
    (enough : failing ∨ (original.holding.size key - stop).toNat ≤ bound) :
    (readOn store (original.holding.query key) join bound (original.holding.slice key 0 stop)
      (original.following key stop)).Ends failing original.Keeps fun total =>
        total = original.holding.slice key 0 (original.holding.size key) := by
  -- What has been read is the slice up to `stop`, and every page that is not empty moves it on.
  induction bound generalizing stop with
  | zero =>
    unfold following
    split
    · rename_i more
      rcases enough with allowed | enough
      · exact Call.ends_known allowed
      · omega
    · rename_i no_more
      rw [show stop = original.holding.size key by omega]
      exact Call.ends_known rfl
  | succ bound inductionHypothesis =>
    unfold following
    split
    · rename_i more
      obtain ⟨start, rfl⟩ := Int.eq_ofNat_of_zero_le (show 0 ≤ stop by omega)
      rw [readOn]
      refine Call.Ends.bind (original.ends_ask key _ unset) fun page equal => ?_
      have joined := joins start (original.stop key start) (original.le_stop key within)
        (original.stop_le_size key start)
      rw [equal, page_eq]
      refine Call.ends_known_bind (fun total =>
        total = original.holding.slice key 0 (original.stop key start)) ?_ fun total whole => ?_
      · exact joined ▸ rfl
      · rw [whole]
        refine inductionHypothesis _ (original.stop_le_size key start)
          (original.stop_nonneg_or_eq key start) ?_
        rcases enough with allowed | enough
        · exact Or.inl allowed
        · have progress := original.lt_stop key more
          exact Or.inr (by omega)
    · rename_i no_more
      rw [show stop = original.holding.size key by omega]
      exact Call.ends_known rfl

/-- Reading the pages of a key gives everything that is stored under it. -/
theorem readPages_ends (original : PagedShelf) (key : String)
    {join : Json → Json → Except Fault Json} (joins : original.holding.JoinsParts key join)
    (unset : failing ∨ original.desk.failure = none) :
    (readPages store (original.holding.query key) join).Ends failing original.Keeps fun total =>
      total = original.holding.slice key 0 (original.holding.size key) := by
  intro shelf kept
  have bound : (original.holding.size key - original.stop key 0).toNat ≤
      store.pageBound shelf (original.holding.query key) := by
    have position := original.stop_nonneg_or_eq key 0
    have bounded := shelf.pageBound_query key
    rw [kept.holding] at bounded
    show _ ≤ shelf.pageBound _
    omega
  have reading : (do
      let page ← store.ask (original.holding.query key) none
      readOn store (original.holding.query key) join
        (store.pageBound shelf (original.holding.query key)) page.body page.continuation).Ends
        failing original.Keeps fun total =>
          total = original.holding.slice key 0 (original.holding.size key) := by
    refine Call.Ends.bind (original.ends_ask key none unset) fun page equal => ?_
    rw [equal, page_eq]
    exact original.readOn_ends key joins unset _ _ (original.stop_le_size key 0)
      (original.stop_nonneg_or_eq key 0) (Or.inr bound)
  exact reading shelf kept

end PagedShelf

end UserDirectory
