/-
This file proves that stores in memory repeat themselves. A store at rest has noted
no call. Calls leave a store as it was at rest, and if it has no answers prepared
and does not fail at the n-th call, then whatever it has noted does not show in its
answers, in their times or in its failures.
-/

import UserDirectory.Index.Shelf
import UserDirectory.Proofs.Concurrent.Repeating
import UserDirectory.Store.Entries
import UserDirectory.Store.Paged

namespace UserDirectory

/-! ### Desks -/

namespace Desk

/-- A desk that has seen no call. -/
def rested (desk : Desk) : Desk :=
  { desk with seen := 0 }

/-- A desk that does not count calls in order to fail. -/
def IsRepeatable (desk : Desk) : Prop :=
  ∀ number cause, desk.failure ≠ some (.atCall number cause)

theorem repeats_receive {original : Desk} (repeatable : original.IsRepeatable)
    (key : Option String) : (receive key).Repeats fun desk => desk.rested = original := by
  refine ⟨((receive key).run original).took, ((receive key).run original).outcome,
    fun desk start => ?_⟩
  rw [← start] at repeatable ⊢
  have uncounted : desk.failureOf (desk.seen + 1) key =
      desk.rested.failureOf (desk.rested.seen + 1) key := by
    unfold failureOf
    rw [show desk.rested.failure = desk.failure from rfl]
    cases set : desk.failure with
    | none => rfl
    | some rule =>
      cases rule with
      | atCall number cause => exact absurd set (repeatable number cause)
      | forKey key cause => rfl
      | always cause => rfl
  refine ⟨rfl, rfl, ?_⟩
  simp only [Call.run, receive, uncounted]

end Desk

/-! ### Shelves of entries -/

namespace BatchShelf

/-- A shelf that has noted no call. -/
def rested (shelf : BatchShelf) : BatchShelf :=
  { shelf with desk := shelf.desk.rested, seen := [] }

/-- A shelf on which nothing is used up. -/
structure IsRepeatable (shelf : BatchShelf) : Prop where
  desk : shelf.desk.IsRepeatable
  unscripted : shelf.prepared = []

theorem repeats_serve {original : BatchShelf} (repeatable : original.IsRepeatable)
    (table : BatchTable) (request : BatchRequest) :
    (serve table request).Repeats fun shelf => shelf.rested = original := by
  refine Call.Repeats.bind (Call.repeats_update fun shelf start => ?_) fun _ => ?_
  · exact start
  refine ((Desk.repeats_receive repeatable.desk none).within_rested (fun _ => rfl)
    fun shelf desk same => ?_).bind fun _ => ?_
  · rw [rested, same]
    rfl
  · have answers : Call.Repeats (fun shelf : BatchShelf => shelf.rested = original) fun shelf =>
        (⟨shelf, 0, .ok (shelf.answer table request)⟩ : Served BatchShelf Fault BatchReply) :=
      Call.repeats_told fun shelf start => by
        rw [show shelf.answer table request = shelf.rested.answer table request from rfl, start]
    refine answers.of_agree fun shelf start => ?_
    have unscripted : shelf.prepared = [] := by
      rw [← repeatable.unscripted, ← start]
      rfl
    simp only [Call.run, respond, unscripted]

end BatchShelf

namespace Entries

/-- Entries on shelves that have noted no call. -/
def rested (entries : Entries) : Entries :=
  ⟨entries.users.rested, entries.managed.rested⟩

/-- Entries on shelves on which nothing is used up. -/
structure IsRepeatable (entries : Entries) : Prop where
  users : entries.users.IsRepeatable
  managed : entries.managed.IsRepeatable

theorem repeats_serve {original : Entries} (repeatable : original.IsRepeatable)
    (table : BatchTable) (request : BatchRequest) :
    (serve table request).Repeats fun entries => entries.rested = original := by
  unfold serve
  cases request.kind table with
  | user =>
    refine (BatchShelf.repeats_serve repeatable.users table request).within_rested
      (fun _ => rfl) fun entries shelf same => ?_
    rw [rested, same]
    rfl
  | provisioning =>
    refine (BatchShelf.repeats_serve repeatable.managed table request).within_rested
      (fun _ => rfl) fun entries shelf same => ?_
    rw [rested, same]
    rfl

end Entries

/-! ### Shelves that are read by pages -/

namespace PagedShelf

/-- A shelf that has noted no call. -/
def rested (shelf : PagedShelf) : PagedShelf :=
  { shelf with desk := shelf.desk.rested, seen := [] }

/-- A shelf on which nothing is used up. -/
structure IsRepeatable (shelf : PagedShelf) : Prop where
  desk : shelf.desk.IsRepeatable
  unscripted : ∀ entry ∈ shelf.prepared, entry.2 = []

theorem takePrepared_of_unscripted {prepared : List (String × List Json)}
    (unscripted : ∀ entry ∈ prepared, entry.2 = []) (key : String) :
    takePrepared key prepared = none := by
  induction prepared with
  | nil => rfl
  | cons entry rest inductionHypothesis =>
    rw [List.forall_mem_cons] at unscripted
    obtain ⟨name, documents⟩ := entry
    obtain rfl : documents = [] := unscripted.1
    rw [takePrepared, inductionHypothesis unscripted.2]
    split
    · rfl
    · rfl

theorem repeats_serve {original : PagedShelf} (repeatable : original.IsRepeatable) (key : String)
    (start : Option Position) (request : Json) :
    (serve key start request).Repeats fun shelf => shelf.rested = original := by
  refine Call.Repeats.bind (Call.repeats_update fun shelf start => ?_) fun _ => ?_
  · exact start
  refine ((Desk.repeats_receive repeatable.desk (some key)).within_rested (fun _ => rfl)
    fun shelf desk same => ?_).bind fun _ => ?_
  · rw [rested, same]
    rfl
  · let place := ((request.member? "ExclusiveStartKey").map placeIn).getD 0
    have answers : Call.Repeats (fun shelf : PagedShelf => shelf.rested = original) fun shelf =>
        (⟨shelf, 0, .ok (shelf.page key place)⟩ : Served PagedShelf Fault Page) :=
      Call.repeats_told fun shelf same => by
        rw [show shelf.page key place = shelf.rested.page key place from rfl, same]
    refine answers.of_agree fun shelf same => ?_
    have unscripted : ∀ entry ∈ shelf.prepared, entry.2 = [] := by
      have whole := repeatable.unscripted
      rw [← same] at whole
      exact whole
    simp only [Call.run, respond, takePrepared_of_unscripted unscripted]
    rfl

theorem repeats_ask {original : PagedShelf} (repeatable : original.IsRepeatable)
    (query : PageQuery) (start : Option Position) :
    (ask query start).Repeats fun shelf => shelf.rested = original := by
  cases asked : original.holding.subject? (query.toJson start) with
  | none =>
    have found : Call.Repeats (fun shelf : PagedShelf => shelf.rested = original) fun shelf =>
        (⟨shelf, 0, .ok ⟨original.holding.field.2, none⟩⟩ : Served PagedShelf Fault Page) :=
      Call.repeats_told fun _ _ => rfl
    refine found.of_agree fun shelf same => ?_
    have holding : shelf.holding = original.holding := by
      rw [← same]
      rfl
    simp only [Call.run, ask, holding, asked]
  | some key =>
    refine (repeats_serve repeatable key start (query.toJson start)).of_agree fun shelf same => ?_
    have holding : shelf.holding = original.holding := by
      rw [← same]
      rfl
    simp only [Call.run, ask, holding, asked]

/-- Stores that are the same at rest bound the pages of a query alike. -/
theorem pageBound_of_rested (original : PagedShelf) (query : PageQuery) (shelf : PagedShelf)
    (start : shelf.rested = original) :
    store.pageBound shelf query = original.pageBound query := by
  rw [← start]
  rfl

end PagedShelf

/-! ### The index -/

namespace IndexShelf

/-- An index that has noted no call. -/
def rested (shelf : IndexShelf) : IndexShelf :=
  { shelf with desk := shelf.desk.rested, seen := [] }

theorem repeats_search {original : IndexShelf} (repeatable : original.desk.IsRepeatable)
    (name : String) (query : IndexQuery) :
    (search name query).Repeats fun shelf => shelf.rested = original := by
  refine Call.Repeats.bind (Call.repeats_update fun shelf start => ?_) fun _ => ?_
  · exact start
  refine ((Desk.repeats_receive repeatable none).within_rested (fun _ => rfl)
    fun shelf desk same => ?_).bind fun _ => ?_
  · rw [rested, same]
    rfl
  · have agree (shelf : IndexShelf) (start : shelf.rested = original) :
        shelf.content.answer (IndexCall.search name query).body =
          original.content.answer (IndexCall.search name query).body := by
      rw [← start]
      rfl
    exact (Call.repeats_told agree).bind fun answer => Call.repeats_known _

end IndexShelf

end UserDirectory
