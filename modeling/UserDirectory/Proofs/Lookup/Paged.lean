/-
This file says what looking up page by page finds. The groups of a login are the
names of everything that is stored under it, sorted; a login without any is absent
from the result, which means the same as an empty list. The tokens of a user are
counted under the user's identifier and told by login. A count of zero is left
out, and who asks for an absent login is told zero. So of several users who carry
one login the last one who has tokens is counted for all of them, and as long as
no two users share a login each is told the count stored under the own identifier.
-/

import Mathlib.Data.List.Nodup
import UserDirectory.Lookup.Groups
import UserDirectory.Lookup.Tokens
import UserDirectory.Proofs.Json.Sorting
import UserDirectory.Proofs.Lookup.Keyed
import UserDirectory.Proofs.Store.PagedReading

namespace UserDirectory

variable {failing : Prop}

/-! ### Groups -/

/-- The names of what is stored under a login. -/
def groupNamesOf (entries : List (String × List Json)) (login : String) :
    Except Fault (List Json) :=
  (Holding.itemsOf entries login).mapM groupName

theorem readGroups_ends (original : PagedShelf) {entries : List (String × List Json)}
    (holding : original.holding = .items entries) (login : String)
    (unset : failing ∨ original.desk.failure = none)
    (named : failing ∨ ∃ names, groupNamesOf entries login = .ok names) :
    (readGroups PagedShelf.store login).Ends failing original.Keeps fun names =>
      groupNamesOf entries login = .ok names := by
  have joins : original.holding.JoinsParts login Json.extend := by
    rw [holding]
    exact Holding.joinsParts_items entries login
  have reads := original.readPages_ends login joins unset
  rw [show original.holding.query login = groupQuery login by rw [holding]; rfl] at reads
  unfold readGroups
  refine Call.Ends.bind reads fun total whole => ?_
  · have stored : total.elements = .ok (Holding.itemsOf entries login) := by
      rw [whole, holding]
      simp [Holding.slice, Holding.size, Json.elements]
    rw [stored]
    refine Call.ends_known ?_
    change Meets failing _ (groupNamesOf entries login)
    cases names : groupNamesOf entries login with
    | ok names => rfl
    | error fault =>
      rcases named with allowed | ⟨_, equal⟩
      · exact allowed
      · rw [names] at equal
        cases equal

theorem sortedGroups_cons (login : String) (names : List Json) (logins : List String)
    (others : List (List Json)) :
    sortedGroups (login :: logins) (names :: others) =
      if names.isEmpty then sortedGroups logins others
      else (Json.sort names).bind fun sorted =>
        (sortedGroups logins others).map fun groups => (login, sorted) :: groups := by
  unfold sortedGroups
  rw [List.zip_cons_cons, List.filter_cons]
  cases empty : names.isEmpty with
  | true => simp
  | false =>
    simp only [Bool.not_false, if_true, Bool.false_eq_true, if_false, List.mapM_cons]
    cases Json.sort names with
    | error fault => rfl
    | ok sorted =>
      generalize List.mapM (m := Except Fault) _ (List.filter _ (logins.zip others)) = later
      cases later with
      | error fault => rfl
      | ok groups => rfl

/-- What a result of sorting tells of each login. -/
structure TellsGroups (names : String → Except Fault (List Json)) (logins : List String)
    (groups : List (String × List Json)) : Prop where
  asked : ∀ entry ∈ groups, entry.1 ∈ logins
  sorted : ∀ login ∈ logins, ∃ found, names login = .ok found ∧
    Json.sort found = .ok (groupsOf groups login)

theorem groupsOf_of_not_mem {groups : List (String × List Json)} {login : String}
    (absent : ∀ entry ∈ groups, entry.1 ≠ login) : groupsOf groups login = [] := by
  have none_found : (groups.find? fun entry => entry.1 = login) = none :=
    List.find?_eq_none.mpr fun entry member => by simpa using absent entry member
  rw [groupsOf, Holding.itemsOf, none_found]

theorem meets_sortedGroups {names : String → Except Fault (List Json)} {logins : List String}
    {found : List (List Json)} (nodup : logins.Nodup)
    (each : List.Forall₂ (fun login found => names login = .ok found) logins found)
    (sortable : failing ∨ ∀ login ∈ logins, ∀ found, names login = .ok found →
      ∃ sorted, Json.sort found = .ok sorted) :
    Meets failing (TellsGroups names logins) (sortedGroups logins found) := by
  induction each with
  | nil => exact ⟨fun _ member => absurd member List.not_mem_nil,
      fun _ member => absurd member List.not_mem_nil⟩
  | @cons login head logins others first _ inductionHypothesis =>
    obtain ⟨fresh, restNodup⟩ := List.nodup_cons.mp nodup
    have later := inductionHypothesis restNodup (sortable.imp_right fun sortable other member =>
      sortable other (List.mem_cons_of_mem _ member))
    rw [sortedGroups_cons]
    cases empty : head.isEmpty with
    | true =>
      rw [if_pos rfl]
      refine later.imp fun groups tells => ?_
      refine ⟨fun entry member => List.mem_cons_of_mem _ (tells.asked entry member), ?_⟩
      rw [List.forall_mem_cons]
      refine ⟨⟨head, first, ?_⟩, tells.sorted⟩
      rw [groupsOf_of_not_mem fun entry member same => fresh (by
          rw [← same]
          exact tells.asked entry member), List.isEmpty_iff.mp empty]
      rfl
    | false =>
      rw [if_neg Bool.false_ne_true]
      cases ordered : Json.sort head with
      | error fault =>
        rcases sortable with allowed | sortable
        · exact allowed
        · obtain ⟨sorted, equal⟩ := sortable login List.mem_cons_self head first
          rw [ordered] at equal
          cases equal
      | ok sorted =>
        refine Meets.map later fun groups tells => ⟨fun entry member => ?_, ?_⟩
        · rcases List.mem_cons.mp member with rfl | inGroups
          · exact List.mem_cons_self
          · exact List.mem_cons_of_mem _ (tells.asked entry inGroups)
        · rw [List.forall_mem_cons]
          constructor
          · refine ⟨head, first, ?_⟩
            rw [ordered, groupsOf, Holding.itemsOf, List.find?_cons_of_pos (by simp)]
          · intro other member
            obtain ⟨found, named, equal⟩ := tells.sorted other member
            refine ⟨found, named, ?_⟩
            have different : ¬ login = other := fun same => fresh (same ▸ member)
            rw [equal, groupsOf, groupsOf, Holding.itemsOf, Holding.itemsOf,
              List.find?_cons_of_neg (by simpa using different)]

/-- Looking up groups tells of each login the sorted names of everything stored under it. Whoever
looks up succeeds if the names are texts. -/
theorem groupsByLogins_ends (original : PagedShelf) {entries : List (String × List Json)}
    (holding : original.holding = .items entries) (logins : List String)
    (unset : failing ∨ original.desk.failure = none)
    (named : failing ∨ ∀ login ∈ logins, ∃ names : List String,
      groupNamesOf entries login = .ok (names.map .str))
    {state : PagedShelf} (start : original.Keeps state) :
    (groupsByLogins PagedShelf.store true logins state).Ends failing original.Keeps
      (TellsGroups (groupNamesOf entries) (distinct logins)) := by
  rw [groupsByLogins, if_pos rfl]
  refine Run.Ends.thenCheck (Run.ends_bounded (fun login member => readGroups_ends original holding
    login unset ?_) (by decide) start) fun names each =>
      meets_sortedGroups (nodup_distinct logins) each ?_
  · exact named.imp_right fun named =>
      (named login (mem_distinct.mp member)).imp' (List.map .str) fun _ equal => equal
  · refine named.imp_right fun named login member found equal => ?_
    obtain ⟨names, texts⟩ := named login (mem_distinct.mp member)
    rw [equal, Except.ok.injEq] at texts
    rw [texts]
    exact ⟨_, Json.sort_texts names⟩

/-! ### Tokens -/

theorem countTokens_ends (original : PagedShelf) {entries : List (String × Int)}
    (holding : original.holding = .counts entries) (userId : String)
    (unset : failing ∨ original.desk.failure = none) :
    (countTokens PagedShelf.store userId).Ends failing original.Keeps fun count =>
      count = .int (Holding.countOf entries userId) := by
  have joins : original.holding.JoinsParts userId Json.plus := by
    rw [holding]
    exact Holding.joinsParts_counts entries userId
  have reads := original.readPages_ends userId joins unset
  rw [show original.holding.query userId = tokenQuery userId by rw [holding]; rfl] at reads
  refine reads.imp fun total whole => ?_
  rw [whole, holding]
  simp [Holding.slice, Holding.size]

/-- The count that a login is told: of the users who carry it the last one whose count is not zero
stands for all of them. -/
def lastCount (count : String → Int) (users : List (String × String)) (login : String) : Int :=
  ((users.reverse.find? fun user => user.2 = login ∧ count user.1 ≠ 0).map
    fun user => count user.1).getD 0

theorem lastCount_of_forall {count : String → Int} {users : List (String × String)}
    {login : String} (zero : ∀ user ∈ users, user.2 = login → count user.1 = 0) :
    lastCount count users login = 0 := by
  have none_counts :
      (users.reverse.find? fun user => user.2 = login ∧ count user.1 ≠ 0) = none := by
    rw [List.find?_eq_none]
    intro user member counts
    obtain ⟨carries, nonzero⟩ := of_decide_eq_true counts
    exact nonzero (zero user (List.mem_reverse.mp member) carries)
  rw [lastCount, none_counts]
  rfl

/-- The last user who carries a login is told the own count, unless that is zero and another user of
the login has a count. -/
theorem lastCount_eq_iff {count : String → Int} {users : List (String × String)} {login : String}
    {user : String × String}
    (last : (users.reverse.find? fun other => other.2 = login) = some user) :
    lastCount count users login = count user.1 ↔
      count user.1 ≠ 0 ∨ ∀ other ∈ users, other.2 = login → count other.1 = 0 := by
  by_cases zero : count user.1 = 0
  · rw [zero]
    constructor
    · refine fun told => Or.inr fun other member carries => ?_
      by_contra nonzero
      have counts : (users.reverse.find? fun user => user.2 = login ∧ count user.1 ≠ 0).isSome :=
        List.find?_isSome.mpr
          ⟨other, List.mem_reverse.mpr member, decide_eq_true ⟨carries, nonzero⟩⟩
      obtain ⟨counted, found⟩ := Option.isSome_iff_exists.mp counts
      have own := List.find?_some found
      rw [lastCount, found] at told
      exact (of_decide_eq_true own).2 told
    · rintro (nonzero | all_zero)
      · exact absurd rfl nonzero
      · exact lastCount_of_forall all_zero
  · refine iff_of_true ?_ (Or.inl zero)
    obtain ⟨carries, before, after, split, earlier⟩ := List.find?_eq_some_iff_append.mp last
    have own : (users.reverse.find? fun other => other.2 = login ∧ count other.1 ≠ 0) =
        some user := by
      refine List.find?_eq_some_iff_append.mpr
        ⟨decide_eq_true ⟨of_decide_eq_true carries, zero⟩, before, after, split, ?_⟩
      intro other member
      have different : ¬ other.2 = login := by simpa using earlier other member
      simp [different]
    rw [lastCount, own]
    rfl

/-- A login that one user carries is told the count of that user. -/
theorem lastCount_of_nodup {count : String → Int} {users : List (String × String)}
    (nodup : (users.map (·.2)).Nodup) {user : String × String} (member : user ∈ users) :
    lastCount count users user.2 = count user.1 := by
  have keys : (users.reverse.map (·.2)).Nodup := by
    rwa [List.map_reverse, List.nodup_reverse]
  refine (lastCount_eq_iff
    (find?_of_nodup_map keys user (List.mem_reverse.mpr member))).mpr ?_
  by_cases zero : count user.1 = 0
  · refine Or.inr fun other inUsers same => ?_
    rw [List.inj_on_of_nodup_map nodup inUsers member same, zero]
  · exact Or.inl zero

/-- Counts by login tell a login what the last of its users tells who has a count. -/
theorem tokensOf_countsByLogin (count : String → Int) (users : List (String × String))
    (login : String) :
    tokensOf (countsByLogin (users.map (·.2)) (users.map fun user => .int (count user.1))) login =
      .int (lastCount count users login) := by
  have present (user : String × String) :
      decide ((Json.int (count user.1)).isPresent = true ∧ decide (user.2 = login) = true) =
        decide (user.2 = login ∧ count user.1 ≠ 0) := by
    simp [Json.isPresent, and_comm]
  rw [tokensOf, countsByLogin, List.zip_map', ← List.filter_reverse, List.find?_filter,
    ← List.map_reverse, List.find?_map, lastCount]
  simp only [Function.comp_def, present]
  cases users.reverse.find? fun user => user.2 = login ∧ count user.1 ≠ 0 with
  | none => rfl
  | some user => rfl

/-- Counting tokens tells a login the count stored under the identifier of the last of its users who
has a count. -/
theorem tokenCounts_ends (original : PagedShelf) {entries : List (String × Int)}
    (holding : original.holding = .counts entries) (users : List (String × String))
    (unset : failing ∨ original.desk.failure = none)
    {state : PagedShelf} (start : original.Keeps state) :
    (tokenCounts PagedShelf.store true users state).Ends failing original.Keeps fun counts =>
      ∀ login, tokensOf counts login = .int (lastCount (Holding.countOf entries) users login) := by
  rw [tokenCounts, if_pos rfl]
  refine Run.Ends.thenCheck (Run.ends_bounded (fun userId _ => countTokens_ends original holding
    userId unset) (by decide) start) fun counts each login => ?_
  have told : counts = users.map fun user => .int (Holding.countOf entries user.1) := by
    rw [List.forall₂_map_left_iff] at each
    induction each with
    | nil => rfl
    | cons first _ inductionHypothesis => rw [List.map_cons, ← first, ← inductionHypothesis]
  rw [told]
  exact tokensOf_countsByLogin _ users login

end UserDirectory
