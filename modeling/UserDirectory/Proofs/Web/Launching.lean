/-
This file says what it takes to launch a site. If there is access to an index, the
index is asked for once, and it is created, with its fields, only if it is not
there. So a launch that succeeds leaves the index there, and it leaves everything
else as it was; it fails only if one of these two calls does. A launch that has
nothing to create changes nothing but what the index has noted.
-/

import UserDirectory.Proofs.Search.Repeating
import UserDirectory.Web.Site

namespace UserDirectory

/-! ### Making sure of an index -/

namespace IndexShelf

/-- A shelf that has noted a question whether there is an index of a name. -/
def asked (shelf : IndexShelf) (name : String) : IndexShelf :=
  { shelf with
    desk := { shelf.desk with seen := shelf.desk.seen + 1 }
    seen := shelf.seen ++ [.exist name] }

/-- A shelf that has noted the creation of an index of a name. -/
def told (shelf : IndexShelf) (name : String) : IndexShelf :=
  { shelf with
    creation := { shelf.creation with seen := shelf.creation.seen + 1 }
    seen := shelf.seen ++ [.create name] }

theorem run_exist (name : String) (shelf : IndexShelf) :
    ((exist name).run shelf).state = shelf.asked name ∧
      ((exist name).run shelf).outcome =
        match shelf.desk.failureOf (shelf.desk.seen + 1) none with
        | some cause => .error (.outage cause)
        | none => .ok (shelf.existing.contains name) := by
  simp only [exist, note, attend, bind, Call.run, Call.andThen, Call.update, Call.within,
    Desk.receive]
  cases shelf.desk.failureOf (shelf.desk.seen + 1) none with
  | some cause => exact ⟨rfl, rfl⟩
  | none => exact ⟨rfl, rfl⟩

theorem run_create_of_failure (name : String) {shelf : IndexShelf} {cause : Outage}
    (fails : shelf.creation.failureOf (shelf.creation.seen + 1) none = some cause) :
    ((create name).run shelf).state = shelf.told name ∧
      ((create name).run shelf).outcome = .error (.outage cause) := by
  simp only [create, note, attendCreation, bind, Call.run, Call.andThen, Call.update, Call.within,
    Desk.receive, fails]
  exact ⟨rfl, trivial⟩

theorem run_create (name : String) {shelf : IndexShelf}
    (accepts : shelf.creation.failureOf (shelf.creation.seen + 1) none = none) :
    ((create name).run shelf).state =
        { shelf.told name with existing := shelf.existing ++ [name] } ∧
      ((create name).run shelf).outcome = .ok () := by
  simp only [create, note, attendCreation, bind, Call.run, Call.andThen, Call.update, Call.within,
    Desk.receive, accepts]
  exact ⟨rfl, trivial⟩

/-- How making sure of an index goes: nothing is created that is there, and a call that fails is the
last one. -/
inductive Ensures (shelf : IndexShelf) (name : String) : Except Fault Unit → IndexShelf → Prop where
  | unanswered {cause : Outage}
    (fails : shelf.desk.failureOf (shelf.desk.seen + 1) none = some cause) :
    Ensures shelf name (.error (.outage cause)) (shelf.asked name)
  | there (answers : shelf.desk.failureOf (shelf.desk.seen + 1) none = none)
    (known : name ∈ shelf.existing) :
    Ensures shelf name (.ok ()) (shelf.asked name)
  | refused (answers : shelf.desk.failureOf (shelf.desk.seen + 1) none = none)
    (unknown : name ∉ shelf.existing) {cause : Outage}
    (fails : shelf.creation.failureOf (shelf.creation.seen + 1) none = some cause) :
    Ensures shelf name (.error (.outage cause)) ((shelf.asked name).told name)
  | created (answers : shelf.desk.failureOf (shelf.desk.seen + 1) none = none)
    (unknown : name ∉ shelf.existing)
    (accepts : shelf.creation.failureOf (shelf.creation.seen + 1) none = none) :
    Ensures shelf name (.ok ())
      { (shelf.asked name).told name with existing := shelf.existing ++ [name] }

end IndexShelf

theorem IndexAccess.ensures_ensureIndex {access : IndexAccess} (connected : access.isEnabled = true)
    (shelf : IndexShelf) :
    shelf.Ensures access.name (access.ensureIndex.run shelf).outcome
      (access.ensureIndex.run shelf).state := by
  obtain ⟨asked, told⟩ := IndexShelf.run_exist access.name shelf
  rw [ensureIndex, if_pos connected]
  cases answers : shelf.desk.failureOf (shelf.desk.seen + 1) none with
  | some cause =>
    rw [answers] at told
    rw [Call.run_bind_of_error told, asked]
    exact .unanswered answers
  | none =>
    rw [answers] at told
    rw [Call.run_bind_of_ok told, asked]
    by_cases known : access.name ∈ shelf.existing
    · rw [List.contains_iff_mem.mpr known]
      exact .there answers known
    · have unknown : shelf.existing.contains access.name = false :=
        Bool.eq_false_iff.mpr fun known' => known (List.contains_iff_mem.mp known')
      rw [unknown]
      show IndexShelf.Ensures shelf access.name
        ((IndexShelf.create access.name).run (shelf.asked access.name)).outcome
        ((IndexShelf.create access.name).run (shelf.asked access.name)).state
      cases accepts : (shelf.asked access.name).creation.failureOf
          ((shelf.asked access.name).creation.seen + 1) none with
      | some cause =>
        obtain ⟨noted, failed⟩ := IndexShelf.run_create_of_failure access.name accepts
        rw [noted, failed]
        exact .refused answers known accepts
      | none =>
        obtain ⟨noted, created⟩ := IndexShelf.run_create access.name accepts
        rw [noted, created]
        exact .created answers known accepts

/-! ### Launching -/

namespace Surroundings

variable {surroundings left : Surroundings} {manual : Manual → Request → Response} {site : Site}

/-- The site that is launched in some surroundings, if it is. -/
def freshSite (surroundings : Surroundings) (manual : Manual → Request → Response) : Site :=
  .start (surroundings.environment.get? "ENVIRONMENT") manual

/-- The access to the index that the settings describe. -/
def access (surroundings : Surroundings) : IndexAccess :=
  .configure surroundings.environment {}

/-- The surroundings when all has been done that has to be done first. -/
def prepared (surroundings : Surroundings) : Surroundings :=
  { surroundings with
    backends := { surroundings.backends with
      index := ((prepare surroundings.environment).run surroundings.backends.index).state } }

/-- If what has to be done first succeeds a site is launched. -/
theorem launch_eq_ok
    (succeeds : ((prepare surroundings.environment).run surroundings.backends.index).outcome =
      .ok ()) :
    surroundings.launch manual = .ok (surroundings.freshSite manual, surroundings.prepared) := by
  rw [launch, succeeds]
  rfl

/-- What a launch that succeeds leaves: a site that remembers nothing, and an index that is there,
if there is access to one. Nothing else is changed. -/
structure Launched (surroundings : Surroundings) (manual : Manual → Request → Response)
    (site : Site) (left : Surroundings) : Prop where
  fresh : site = surroundings.freshSite manual
  others : left = { surroundings with
    backends := { surroundings.backends with index := left.backends.index } }
  ensured : surroundings.access.isEnabled = true →
    surroundings.backends.index.Ensures surroundings.access.name (.ok ()) left.backends.index
  unasked : surroundings.access.isEnabled = false →
    left.backends.index = surroundings.backends.index

theorem launched_of_launch (launch : surroundings.launch manual = .ok (site, left)) :
    surroundings.Launched manual site left := by
  obtain ⟨_, prepared, same⟩ := map_eq_ok_iff.mp launch
  cases same
  refine ⟨rfl, rfl, fun connected => ?_, fun disconnected => ?_⟩
  · have ensures := IndexAccess.ensures_ensureIndex connected surroundings.backends.index
    rwa [show (surroundings.access.ensureIndex.run surroundings.backends.index).outcome = .ok ()
      from prepared] at ensures
  · show ((surroundings.access.ensureIndex).run surroundings.backends.index).state = _
    rw [IndexAccess.ensureIndex, disconnected]
    rfl

theorem Launched.left_eq (launched : surroundings.Launched manual site left) :
    left = { surroundings with backends := left.backends } := by
  rw [launched.others]

/-- After a launch that succeeds the index is there, if there is access to one. -/
theorem Launched.index_there (launched : surroundings.Launched manual site left)
    (connected : surroundings.access.isEnabled = true) :
    surroundings.access.name ∈ left.backends.index.existing := by
  have ensured := launched.ensured connected
  generalize left.backends.index = index at ensured
  cases ensured with
  | there answers known => exact known
  | created answers unknown accepts => exact List.mem_append_right _ List.mem_cons_self

/-- A launch fails only if the question for the index fails, or its creation if it is not there. -/
theorem ensures_of_launch {fault : Fault} (failed : surroundings.launch manual = .error fault) :
    surroundings.access.isEnabled = true ∧ ∃ index,
      surroundings.backends.index.Ensures surroundings.access.name (.error fault) index := by
  have prepared : (surroundings.access.ensureIndex.run surroundings.backends.index).outcome =
      .error fault := by
    rw [launch] at failed
    cases outcome :
        ((prepare surroundings.environment).run surroundings.backends.index).outcome with
    | error cause =>
      simp only [outcome] at failed
      rw [← Except.error.inj failed]
      exact outcome
    | ok value =>
      simp only [outcome] at failed
      cases failed
  cases connected : surroundings.access.isEnabled with
  | false =>
    rw [IndexAccess.ensureIndex, connected] at prepared
    cases prepared
  | true =>
    have ensures := IndexAccess.ensures_ensureIndex connected surroundings.backends.index
    rw [prepared] at ensures
    exact ⟨rfl, _, ensures⟩

/-- A launch that creates nothing leaves the stores as they were at rest. -/
theorem Launched.rested_eq (launched : surroundings.Launched manual site left)
    (nothing_created : left.backends.index.existing = surroundings.backends.index.existing) :
    left.backends.rested = surroundings.backends.rested := by
  have index : left.backends.index.rested = surroundings.backends.index.rested := by
    cases connected : surroundings.access.isEnabled with
    | false => rw [launched.unasked connected]
    | true =>
      have ensured := launched.ensured connected
      generalize left.backends.index = index at ensured nothing_created
      cases ensured with
      | there answers known => rfl
      | created answers unknown accepts =>
        have longer := congrArg List.length nothing_created
        rw [List.length_append, List.length_singleton] at longer
        omega
  rw [launched.others]
  exact congrArg (fun index => ({ surroundings.backends.rested with index := index } : Backends))
    index

end Surroundings

end UserDirectory
