/-
This file proves that pages come to an end. A page of what is kept either is the
last one or moves on by at least one item, and an answer that is prepared is given
once. So the answers that may still follow are bounded by what is prepared and
what is left of the items, and whoever reads is never stopped by the bound on the
pages of a query, whatever a store keeps or has prepared.
-/

import UserDirectory.Lookup.Groups
import UserDirectory.Lookup.Tokens
import UserDirectory.Proofs.Concurrent.Bounded
import UserDirectory.Proofs.Store.PagedReading

namespace UserDirectory

variable {σ α β : Type}

/-! ### Outcomes that come about -/

/-- An outcome comes about: it does not say that pages never end. -/
def ComesAbout (outcome : Except Fault α) : Prop :=
  outcome ≠ .error .endless

theorem comesAbout_ok (value : α) : ComesAbout (.ok value) :=
  nofun

theorem comesAbout_error {fault : Fault} (other : fault ≠ .endless) :
    ComesAbout (.error fault : Except Fault α) :=
  fun same => other (Except.error.inj same)

theorem ComesAbout.bind {outcome : Except Fault α} {next : α → Except Fault β}
    (first : ComesAbout outcome) (later : ∀ value, outcome = .ok value → ComesAbout (next value)) :
    ComesAbout (outcome.bind next) := by
  cases outcome with
  | error fault => exact fun same => first (congrArg Except.error (Except.error.inj same))
  | ok value => exact later value rfl

theorem ComesAbout.map {outcome : Except Fault α} (comes : ComesAbout outcome) (change : α → β) :
    ComesAbout (outcome.map change) := by
  cases outcome with
  | error fault => exact fun same => comes (congrArg Except.error (Except.error.inj same))
  | ok value => exact comesAbout_ok _

theorem comesAbout_mapM {function : α → Except Fault β} (items : List α)
    (each : ∀ item, ComesAbout (function item)) : ComesAbout (items.mapM function) := by
  induction items with
  | nil => exact comesAbout_ok []
  | cons item rest inductionHypothesis =>
    rw [List.mapM_cons]
    exact (each item).bind fun _ _ => inductionHypothesis.bind fun _ _ => comesAbout_ok _

theorem Call.comesAbout_bind {first : Call σ Fault α} {next : α → Call σ Fault β} {state : σ}
    (comes : ComesAbout (first.run state).outcome)
    (later : ∀ value, (first.run state).outcome = .ok value →
      ComesAbout ((next value).run (first.run state).state).outcome) :
    ComesAbout ((first >>= next).run state).outcome := by
  cases outcome : (first.run state).outcome with
  | error fault =>
    rw [run_bind_of_error outcome]
    exact fun same => comes (outcome.trans (congrArg Except.error (Except.error.inj same)))
  | ok value =>
    rw [run_bind_of_ok outcome]
    exact later value outcome

namespace Json

theorem comesAbout_memberOr (document : Json) (name : String) (default : Json) :
    ComesAbout (document.memberOr name default) := by
  cases document with
  | obj members => exact comesAbout_ok _
  | _ => exact comesAbout_error (by simp)

theorem comesAbout_elements (document : Json) : ComesAbout document.elements := by
  cases document with
  | arr items => exact comesAbout_ok _
  | str text => exact comesAbout_ok _
  | obj members => exact comesAbout_ok _
  | _ => exact comesAbout_error (by simp)

theorem comesAbout_extend (total more : Json) : ComesAbout (total.extend more) := by
  cases total with
  | arr items => exact (comesAbout_elements more).map _
  | _ => exact comesAbout_error (by simp)

theorem comesAbout_nearestFloat (document : Json) : ComesAbout document.nearestFloat := by
  unfold nearestFloat
  split
  · exact comesAbout_ok _
  · split
    · exact comesAbout_ok _
    · exact comesAbout_error (by simp)
  · exact comesAbout_error (by simp)

theorem comesAbout_plusNumber (first second : Json) : ComesAbout (first.plusNumber second) := by
  unfold plusNumber
  split
  · exact comesAbout_ok _
  · split
    · exact (comesAbout_nearestFloat first).bind fun _ _ =>
        (comesAbout_nearestFloat second).bind fun _ _ => comesAbout_ok _
    · exact comesAbout_error (by simp)

theorem comesAbout_plus (total more : Json) : ComesAbout (total.plus more) := by
  unfold plus
  split
  · exact comesAbout_ok _
  · exact (comesAbout_elements _).map _
  · exact comesAbout_plusNumber _ _

/-- Comparing documents that are neither two texts nor two lists compares numbers, if anything. -/
theorem comesAbout_before_of_mixed {first second : Json}
    (notTexts : ∀ one other, first = .str one → second = .str other → False)
    (notLists : ∀ one other, first = .arr one → second = .arr other → False) :
    ComesAbout (first.before second) := by
  rw [before.eq_3 _ _ notTexts notLists]
  split
  · exact comesAbout_ok _
  · split
    · exact comesAbout_ok _
    · exact comesAbout_error (by simp)

theorem comesAbout_before (first second : Json) : ComesAbout (first.before second) := by
  refine before.induct (fun first second => ComesAbout (first.before second))
    (fun firsts seconds => ComesAbout (beforeAll firsts seconds)) ?_ ?_
    (fun _ _ notTexts notLists _ _ _ _ => comesAbout_before_of_mixed notTexts notLists)
    (fun _ _ notTexts notLists _ _ => comesAbout_before_of_mixed notTexts notLists)
    (fun _ _ notTexts notLists _ _ => comesAbout_before_of_mixed notTexts notLists)
    ?_ ?_ ?_ ?_ ?_ first second
  · intro first second
    rw [before]
    exact comesAbout_ok _
  · intro firsts seconds compared
    rwa [before]
  · rw [beforeAll]
    exact comesAbout_ok _
  · intro head tail
    rw [beforeAll]
    exact comesAbout_ok _
  · intro head tail
    rw [beforeAll]
    exact comesAbout_ok _
  · intro first firsts second seconds same compared
    rwa [beforeAll, if_pos same]
  · intro first firsts second seconds different compared
    rwa [beforeAll, if_neg different]

theorem comesAbout_insertSorted (document : Json) (items : List Json) :
    ComesAbout (insertSorted document items) := by
  induction items with
  | nil => exact comesAbout_ok _
  | cons first rest inductionHypothesis =>
    refine (comesAbout_before first document).bind fun smaller _ => ?_
    cases smaller with
    | true => exact inductionHypothesis.bind fun _ _ => comesAbout_ok _
    | false => exact comesAbout_ok _

theorem comesAbout_sort (items : List Json) : ComesAbout (sort items) := by
  induction items with
  | nil => exact comesAbout_ok _
  | cons first rest inductionHypothesis =>
    exact inductionHypothesis.bind fun _ _ => comesAbout_insertSorted first _

end Json

theorem comesAbout_groupName (item : Json) : ComesAbout (groupName item) := by
  refine (Json.comesAbout_memberOr item "groupName" .null).bind fun display _ => ?_
  cases display.isPresent with
  | true => exact comesAbout_ok _
  | false =>
    refine ComesAbout.bind ?_ fun key _ => ?_
    · cases item with
      | obj members =>
        rw [Json.required]
        split
        · exact comesAbout_ok _
        · exact comesAbout_error (by simp)
      | _ => exact comesAbout_error (by simp)
    · cases key with
      | str text => exact comesAbout_ok _
      | arr items => exact comesAbout_ok _
      | _ => exact comesAbout_error (by simp)

theorem comesAbout_sortedGroups (logins : List String) (names : List (List Json)) :
    ComesAbout (sortedGroups logins names) :=
  comesAbout_mapM _ fun entry => (Json.comesAbout_sort entry.2).bind fun _ _ => comesAbout_ok _

/-! ### One answer after another -/

namespace PagedShelf

variable {shelf : PagedShelf} {key : String} {query : PageQuery}

/-- The answers prepared for a subject are taken one by one. -/
theorem takePrepared_eq (key : String) (prepared : List (String × List Json)) :
    match Holding.itemsOf prepared key with
    | [] => takePrepared key prepared = none
    | document :: later => ∃ others, takePrepared key prepared = some (document, others) ∧
        Holding.itemsOf others key = later := by
  induction prepared with
  | nil => rfl
  | cons entry rest inductionHypothesis =>
    obtain ⟨name, documents⟩ := entry
    by_cases same : name = key
    · subst same
      cases documents with
      | nil => simp [Holding.itemsOf, takePrepared]
      | cons document later => simp [Holding.itemsOf, takePrepared]
    · have skipped (documents : List Json) (rest : List (String × List Json)) :
          Holding.itemsOf ((name, documents) :: rest) key = Holding.itemsOf rest key := by
        rw [Holding.itemsOf, List.find?_cons_of_neg (by simpa using same), Holding.itemsOf]
      rw [skipped]
      split at inductionHypothesis
      · rename_i nothing
        rw [takePrepared.eq_def]
        simp only [if_neg same, inductionHypothesis, Option.map_none]
      · rename_i document later something
        obtain ⟨others, taken, left⟩ := inductionHypothesis
        refine ⟨(name, documents) :: others, ?_, by rw [skipped, left]⟩
        rw [takePrepared.eq_def]
        simp only [if_neg same, taken, Option.map_some]

/-- How many answers may still follow about a subject from a place on: those that are prepared, and
a page for each item that is left behind the place. A prepared answer may lead anywhere. -/
def answersLeft (shelf : PagedShelf) (key : String) (place : Nat) : Nat :=
  match Holding.itemsOf shelf.prepared key with
  | [] => (shelf.holding.size key).toNat - place + 1
  | document :: later => (document :: later).length + (shelf.holding.size key).toNat + 1

theorem answersLeft_le (shelf : PagedShelf) (key : String) (place : Nat) :
    shelf.answersLeft key place ≤
      (Holding.itemsOf shelf.prepared key).length + (shelf.holding.size key).toNat + 1 := by
  unfold answersLeft
  split
  · rename_i nothing
    rw [nothing, List.length_nil]
    omega
  · rename_i document later something
    rw [something]

/-- A page of what is kept is the last one, or the next one starts further on. -/
theorem lt_of_continuation {start place : Nat}
    (continues : (shelf.page key start).continuation = some (.offset place)) :
    start < place ∧ (place : Int) < shelf.holding.size key := by
  rw [page_eq, following] at continues
  simp only at continues
  split at continues
  · rename_i more
    cases continues
    have within : (start : Int) < shelf.holding.size key := by
      by_contra beyond
      unfold stop at more
      split at more <;> omega
    have further := shelf.lt_stop key within
    omega
  · cases continues

/-- What a response leaves, and that a page of it which is not the last one leaves less. -/
theorem respond_leaves (shelf : PagedShelf) (key : String) (start : Nat) :
    ((respond key start).run shelf).state.holding = shelf.holding ∧
      ComesAbout ((respond key start).run shelf).outcome ∧
      ∀ page position, ((respond key start).run shelf).outcome = .ok page →
        page.continuation = some position →
          ((respond key start).run shelf).state.answersLeft key position.count <
            shelf.answersLeft key start := by
  have taken := takePrepared_eq key shelf.prepared
  simp only [Call.run, respond]
  cases prepared : Holding.itemsOf shelf.prepared key with
  | nil =>
    rw [prepared] at taken
    simp only at taken
    simp only [taken]
    refine ⟨trivial, comesAbout_ok _, fun page position given continues => ?_⟩
    obtain rfl := Except.ok.inj given
    obtain ⟨place, rfl⟩ : ∃ place, position = .offset place := by
      rw [page_eq, following] at continues
      simp only at continues
      split at continues
      · exact ⟨_, (Option.some.inj continues).symm⟩
      · cases continues
    have further := lt_of_continuation continues
    simp only [answersLeft, prepared, Position.count_offset]
    omega
  | cons document later =>
    rw [prepared] at taken
    obtain ⟨others, isTaken, left⟩ := taken
    simp only [isTaken]
    refine ⟨trivial, ?_, fun page position given continues => ?_⟩
    · exact (Json.comesAbout_memberOr _ _ _).bind fun _ _ => comesAbout_ok _
    · refine Nat.lt_of_le_of_lt (answersLeft_le _ key _) ?_
      simp only [answersLeft, prepared, left, List.length_cons]
      omega

/-- What serving a request leaves, and that a page which is not the last one leaves less. -/
theorem serve_leaves (shelf : PagedShelf) (key : String) (start : Option Position)
    (request : Json) :
    ((serve key start request).run shelf).state.holding = shelf.holding ∧
      ComesAbout ((serve key start request).run shelf).outcome ∧
      ∀ page position, ((serve key start request).run shelf).outcome = .ok page →
        page.continuation = some position →
          ((serve key start request).run shelf).state.answersLeft key position.count <
            shelf.answersLeft key
              (((request.member? "ExclusiveStartKey").map placeIn).getD 0) := by
  let noted : PagedShelf :=
    { shelf with
      seen := shelf.seen ++ [(key, start)]
      desk := { shelf.desk with seen := shelf.desk.seen + 1 } }
  have responds :=
    respond_leaves noted key (((request.member? "ExclusiveStartKey").map placeIn).getD 0)
  simp only [serve, bind, Call.run, Call.andThen, Call.update, Call.within, Desk.receive]
  split
  · rename_i failure failed
    split at failed
    · cases failed
      refine ⟨rfl, comesAbout_error (by simp), fun page position given => ?_⟩
      cases given
    · cases failed
  · exact responds

/-- Where a page starts plays no part in what a request is about. -/
theorem subject?_toJson (holding : Holding) (query : PageQuery) (start : Option Position) :
    holding.subject? (query.toJson start) = holding.subject? (query.toJson none) := by
  obtain ⟨partition, mark, isCount⟩ := query
  cases isCount with
  | false =>
    cases start with
    | none => rfl
    | some position => rfl
  | true =>
    cases start with
    | none => rfl
    | some position => rfl

/-- What an answer leaves, and that a page which is not the last one leaves less. -/
theorem ask_leaves (asked : shelf.holding.subject? (query.toJson none) = some key)
    (start : Option Position) :
    ((ask query start).run shelf).state.holding = shelf.holding ∧
      ComesAbout ((ask query start).run shelf).outcome ∧
      ∀ page position, ((ask query start).run shelf).outcome = .ok page →
        page.continuation = some position →
          ((ask query start).run shelf).state.answersLeft key position.count <
            shelf.answersLeft key ((start.map (·.count)).getD 0) := by
  have leaves := shelf.serve_leaves key start (query.toJson start)
  rw [query.placeIn_toJson] at leaves
  rw [Call.run, ask, subject?_toJson, asked]
  exact leaves

variable {join : Json → Json → Except Fault Json}
  (joins : ∀ total more, ComesAbout (join total more))

include joins

/-- Reading on is not stopped by a bound on all answers that may follow. -/
theorem comesAbout_readOn (asked : shelf.holding.subject? (query.toJson none) = some key)
    (bound : Nat) (total : Json) (position : Option Position)
    (enough : ∀ place, position = some place → shelf.answersLeft key place.count ≤ bound) :
    ComesAbout ((readOn store query join bound total position).run shelf).outcome := by
  induction bound generalizing shelf total position with
  | zero =>
    cases position with
    | none => exact comesAbout_ok total
    | some place =>
      have some_left : 0 < shelf.answersLeft key place.count := by
        unfold answersLeft
        split <;> omega
      exact absurd (enough place rfl) (by omega)
  | succ bound inductionHypothesis =>
    cases position with
    | none => exact comesAbout_ok total
    | some place =>
      obtain ⟨kept, comes, fewer⟩ := ask_leaves asked (some place)
      refine Call.comesAbout_bind comes fun page given => ?_
      refine Call.comesAbout_bind (joins total page.body) fun more _ => ?_
      refine inductionHypothesis ((congrArg (Holding.subject? · _) kept).trans asked) more
        page.continuation fun next continues => ?_
      have left := fewer page next given continues
      have before := enough place rfl
      rw [Option.map_some, Option.getD_some] at left
      exact Nat.le_of_lt_succ (Nat.lt_of_lt_of_le left before)

/-- Reading all pages of a query comes about, whatever a store keeps or has prepared. -/
theorem comesAbout_readPages (query : PageQuery) (shelf : PagedShelf) :
    ComesAbout ((readPages store query join).run shelf).outcome := by
  show ComesAbout ((store.ask query none >>= fun page => readOn store query join
    (store.pageBound shelf query) page.body page.continuation).run shelf).outcome
  cases asked : shelf.holding.subject? (query.toJson none) with
  | none =>
    have answered : (store.ask query none).run shelf =
        ⟨shelf, 0, .ok ⟨shelf.holding.field.2, none⟩⟩ := by
      show ask query none shelf = _
      rw [ask, asked]
    refine Call.comesAbout_bind (by rw [answered]; exact comesAbout_ok _) fun page given => ?_
    rw [answered] at given
    obtain rfl := Except.ok.inj given
    cases store.pageBound shelf query with
    | zero => exact comesAbout_ok _
    | succ bound => exact comesAbout_ok _
  | some key =>
    obtain ⟨kept, comes, fewer⟩ := ask_leaves asked none
    refine Call.comesAbout_bind comes fun page given => ?_
    refine comesAbout_readOn joins ((congrArg (Holding.subject? · _) kept).trans asked) _ _ _
      fun next continues => ?_
    have left := fewer page next given continues
    have bounded := shelf.answersLeft_le key 0
    show _ ≤ shelf.pageBound query
    rw [pageBound, asked]
    exact Nat.le_trans (Nat.le_of_lt left) bounded

end PagedShelf

/-! ### Look-ups -/

theorem comesAbout_readGroups (login : String) (shelf : PagedShelf) :
    ComesAbout ((readGroups PagedShelf.store login).run shelf).outcome := by
  refine Call.comesAbout_bind
    (PagedShelf.comesAbout_readPages Json.comesAbout_extend (groupQuery login) shelf)
    fun items _ => ?_
  exact (Json.comesAbout_elements items).bind fun elements _ =>
    comesAbout_mapM elements comesAbout_groupName

theorem comesAbout_countTokens (userId : String) (shelf : PagedShelf) :
    ComesAbout ((countTokens PagedShelf.store userId).run shelf).outcome :=
  PagedShelf.comesAbout_readPages Json.comesAbout_plus (tokenQuery userId) shelf

namespace Run

variable {ε ι : Type} {call : ι → Call σ ε α} {items : List ι}

/-- A call that was scheduled is the call of an item. -/
theorem exists_call_of_mem {free : List Permit} {state : σ} {occupation : Occupation σ ε α}
    (member : occupation ∈ schedule call items free state) :
    ∃ item before, occupation.outcome = ((call item).run before).outcome := by
  induction items generalizing free state with
  | nil => cases member
  | cons item rest inductionHypothesis =>
    cases free with
    | nil => cases member
    | cons permit others =>
      rw [schedule] at member
      rcases List.mem_cons.mp member with rfl | inLater
      · exact ⟨item, state, rfl⟩
      · split at inLater
        · cases inLater
        · exact inductionHypothesis inLater

/-- What a look-up with permits fails with is what one of its calls fails with. -/
theorem exists_call_of_bounded {permits : Nat} {state : σ} {cause : ε}
    (failed : (bounded permits call items state).outcome = .error cause) :
    ∃ item before, ((call item).run before).outcome = .error cause := by
  cases first : Gather.firstFailure ((occupations permits call items state).map (·.task)) with
  | none =>
    obtain ⟨values, succeeded, _⟩ := outcome_of_unfailed first
    rw [succeeded] at failed
    cases failed
  | some failure =>
    obtain ⟨task, there, fails, -⟩ := Gather.cause_of_firstFailure first
    obtain ⟨occupation, member, rfl⟩ := List.mem_map.mp (List.mem_of_getElem? there)
    obtain ⟨item, before, same⟩ := exists_call_of_mem member
    rw [(bounded_of_failure first).1, Except.error.injEq] at failed
    exact ⟨item, before, by rw [← same, ← failed]; exact failure?_task.mp fails⟩

theorem comesAbout_bounded {call : ι → Call σ Fault α} (permits : Nat) (items : List ι) (state : σ)
    (each : ∀ item state, ComesAbout ((call item).run state).outcome) :
    ComesAbout (bounded permits call items state).outcome := by
  intro endless
  obtain ⟨item, before, fails⟩ := exists_call_of_bounded endless
  exact each item before fails

end Run

theorem comesAbout_groupsByLogins (enabled : Bool) (logins : List String) (shelf : PagedShelf) :
    ComesAbout (groupsByLogins PagedShelf.store enabled logins shelf).outcome := by
  cases enabled with
  | false => exact comesAbout_ok _
  | true =>
    exact (Run.comesAbout_bounded _ _ _ comesAbout_readGroups).bind fun names _ =>
      comesAbout_sortedGroups _ names

theorem comesAbout_tokenCounts (enabled : Bool) (users : List (String × String))
    (shelf : PagedShelf) :
    ComesAbout (tokenCounts PagedShelf.store enabled users shelf).outcome := by
  cases enabled with
  | false => exact comesAbout_ok _
  | true =>
    exact (Run.comesAbout_bounded _ _ _ comesAbout_countTokens).bind fun _ _ => comesAbout_ok _

end UserDirectory
