/-
This file says which records a page shows. A login of the page is shown as often
and where the page lists it, if some record that was found carries it, and always
as the last of those records, which is the one that a table keeps when each record
is written over the earlier ones of its login. Records of other logins are left
out, and these rules leave one list only. The order in which the records were
found counts between records of one login alone, so where no login is repeated it
counts for nothing.
-/

import Mathlib.Data.List.Induction
import UserDirectory.Proofs.Lookup.Keyed

namespace UserDirectory

/-! ### Looking from the end -/

section Keys

variable {α κ : Type} [DecidableEq κ] {key : α → κ}

/-- Where keys are distinct, what carries a key is found in any order. -/
theorem find?_eq_of_perm_of_nodup {items others : List α} (nodup : (items.map key).Nodup)
    (perm : others.Perm items) (wanted : κ) :
    (others.find? fun item => key item = wanted) = items.find? fun item => key item = wanted := by
  cases found : items.find? fun item => key item = wanted with
  | some item =>
    have carries : key item = wanted := by simpa using List.find?_some found
    have inOthers : item ∈ others := perm.mem_iff.mpr (List.mem_of_find?_eq_some found)
    have othersNodup : (others.map key).Nodup := (perm.map key).nodup_iff.mpr nodup
    rw [← carries]
    exact find?_of_nodup_map othersNodup item inOthers
  | none =>
    rw [List.find?_eq_none] at found ⊢
    exact fun item inOthers => found item (perm.mem_iff.mp inOthers)

end Keys

/-- A record is the last of some records that carries its login. -/
def Record.IsLastIn (record : Record) (records : List Record) : Prop :=
  ∃ earlier later, records = earlier ++ record :: later ∧
    ∀ other ∈ later, other.login ≠ record.login

/-- The last record of a login is the first one from the end. -/
theorem Record.isLastIn_iff {record : Record} {records : List Record} :
    record.IsLastIn records ↔
      (records.reverse.find? fun other => other.login = record.login) = some record := by
  rw [List.find?_eq_some_iff_append]
  constructor
  · rintro ⟨earlier, later, rfl, noOther⟩
    refine ⟨decide_eq_true rfl, later.reverse, earlier.reverse, ?_, fun other member => ?_⟩
    · rw [List.reverse_append, List.reverse_cons, List.append_assoc, List.singleton_append]
    · simpa using noOther other (List.mem_reverse.mp member)
  · rintro ⟨-, later, earlier, reversed, noOther⟩
    refine ⟨earlier.reverse, later.reverse, ?_, fun other member => ?_⟩
    · rw [← List.reverse_reverse records, reversed, List.reverse_append, List.reverse_cons,
        List.append_assoc, List.singleton_append]
    · simpa using noOther other (List.mem_reverse.mp member)

/-- Write a record down under its login, over what stands there. -/
def writeOver (table : String → Option Record) (record : Record) : String → Option Record :=
  fun login => if record.login = login then some record else table login

/-- Of the records that were written down one after another, the last one of each login is left. -/
theorem foldl_writeOver (records : List Record) (login : String) :
    records.foldl writeOver (fun _ => none) login =
      records.reverse.find? fun record => record.login = login := by
  induction records using List.reverseRecOn with
  | nil => rfl
  | append_singleton earlier last inductionHypothesis =>
    rw [List.foldl_concat, List.reverse_concat, writeOver, inductionHypothesis]
    by_cases same : last.login = login
    · rw [if_pos same, List.find?_cons_of_pos (by simpa using same)]
    · rw [if_neg same, List.find?_cons_of_neg (by simpa using same)]

/-! ### The records of a page -/

/-- Some records show a list of logins: each login that is carried at all, as often and where it is
listed, by the last record that carries it. -/
structure ShowsLogins (records : List Record) (logins : List String) (shown : List Record) :
    Prop where
  logins : shown.map (·.login) =
    logins.filter fun login => login ∈ records.map (·.login)
  last : ∀ record ∈ shown, record.IsLastIn records

variable {records shown : List Record} {logins : List String}

theorem isSome_last_iff {login : String} :
    (records.reverse.find? fun record => record.login = login).isSome =
      decide (login ∈ records.map (·.login)) := by
  rw [Bool.eq_iff_iff, List.find?_isSome, decide_eq_true_iff, List.mem_map]
  simp only [List.mem_reverse, decide_eq_true_eq]

theorem showsLogins_orderByLogins (records : List Record) (logins : List String) :
    ShowsLogins records logins (orderByLogins records logins) := by
  have keyed : ∀ login ∈ logins, ∀ record,
      (records.reverse.find? fun other => other.login = login) = some record →
        record.login = login := by
    intro login _ record found
    simpa using List.find?_some found
  constructor
  · rw [orderByLogins, map_filterMap_of_keyed keyed]
    exact List.filter_congr fun login _ => isSome_last_iff
  · intro record member
    obtain ⟨login, listed, found⟩ := List.mem_filterMap.mp member
    rw [Record.isLastIn_iff, keyed login listed record found]
    exact found

/-- The records that show a list of logins are determined by their logins, one by one. -/
theorem ShowsLogins.eq_orderByLogins (shows : ShowsLogins records logins shown) :
    shown = orderByLogins records logins := by
  have each : ∀ record ∈ shown,
      (records.reverse.find? fun other => other.login = record.login) = some record :=
    fun record member => Record.isLastIn_iff.mp (shows.last record member)
  calc shown = shown.filterMap fun record =>
        records.reverse.find? fun other => other.login = record.login := by
        rw [List.filterMap_congr each, List.filterMap_some]
    _ = (shown.map (·.login)).filterMap fun login =>
        records.reverse.find? fun other => other.login = login := by
        rw [List.filterMap_map]
        rfl
    _ = orderByLogins records logins := by
        rw [shows.logins, List.filterMap_filter, orderByLogins]
        refine List.filterMap_congr fun login _ => ?_
        rw [← isSome_last_iff]
        cases records.reverse.find? fun other => other.login = login <;> rfl

/-- A page shows exactly the logins it lists that were found, in its order and as often as it lists
them, each by the last record that carries it, as a table of the records keeps it, and nothing else.
If no login was found twice, it does not matter in which order the records were found. -/
theorem orderByLogins_shows_found (records : List Record) (logins : List String) :
    (∀ shown, ShowsLogins records logins shown ↔ shown = orderByLogins records logins) ∧
    orderByLogins records logins = logins.filterMap (records.foldl writeOver fun _ => none) ∧
    (∀ record ∈ orderByLogins records logins, record ∈ records ∧ record.login ∈ logins) ∧
    ((records.map (·.login)).Nodup → ∀ others : List Record, others.Perm records →
      orderByLogins others logins = orderByLogins records logins) := by
  refine ⟨fun shown => ⟨ShowsLogins.eq_orderByLogins, ?_⟩, ?_, fun record member => ?_,
    fun nodup others perm => ?_⟩
  · rintro rfl
    exact showsLogins_orderByLogins records logins
  · exact List.filterMap_congr fun login _ => (foldl_writeOver records login).symm
  · obtain ⟨login, listed, found⟩ := List.mem_filterMap.mp member
    have carries : record.login = login := by simpa using List.find?_some found
    exact ⟨List.mem_reverse.mp (List.mem_of_find?_eq_some found), carries ▸ listed⟩
  · have reversedNodup : (records.reverse.map (·.login)).Nodup :=
      ((List.reverse_perm records).map (·.login)).nodup_iff.mpr nodup
    have reversed : others.reverse.Perm records.reverse :=
      (List.reverse_perm others).trans (perm.trans (List.reverse_perm records).symm)
    exact List.filterMap_congr fun login _ =>
      find?_eq_of_perm_of_nodup reversedNodup reversed login

/-- A record with an identifier and a login alone. -/
def Record.named (userId login : String) : Record :=
  ⟨userId, login, none, none, true, true, none, none, [], none⟩

/-- A page that lists a login twice and one that nobody carries, for records in either order. -/
theorem twoUsers_shown :
    ([Record.named "u1" "ada", Record.named "u2" "cy"].map (·.login)).Nodup ∧
    [Record.named "u2" "cy", Record.named "u1" "ada"].Perm
      [Record.named "u1" "ada", Record.named "u2" "cy"] ∧
    orderByLogins [Record.named "u2" "cy", Record.named "u1" "ada"] ["cy", "bo", "ada", "cy"] =
      orderByLogins [Record.named "u1" "ada", Record.named "u2" "cy"] ["cy", "bo", "ada", "cy"] ∧
    ShowsLogins [Record.named "u1" "ada", Record.named "u2" "cy"] ["cy", "bo", "ada", "cy"]
      [Record.named "u2" "cy", Record.named "u1" "ada", Record.named "u2" "cy"] := by
  have nodup : ([Record.named "u1" "ada", Record.named "u2" "cy"].map (·.login)).Nodup := by
    decide
  obtain ⟨shows, -, -, reordered⟩ := orderByLogins_shows_found
    [Record.named "u1" "ada", Record.named "u2" "cy"] ["cy", "bo", "ada", "cy"]
  exact ⟨nodup, .swap _ _ _, reordered nodup _ (.swap _ _ _), (shows _).mpr (by decide)⟩

end UserDirectory
