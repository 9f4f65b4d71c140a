/-
This file says which members the object of a user has. Three rules decide whether a
value is there: a login, a flag or a count always is, zero and false included; a
name that is known is, the empty one included; and of an avatar, of a list of names
only one that is not empty is. Of the values that are there the object has those
whose public names are fields of the caller's tiers, each once, in the order of the
fields, with the value as it was found.
-/

import UserDirectory.Proofs.Search.Redaction

namespace UserDirectory

/-! ### What there is to tell -/

/-- What there is to tell of a user under each public name, from the record and from what other
stores say: the avatar, the groups, the number of tokens and whether the user is managed. -/
inductive Record.Tells (record : Record) (avatar : Option String) (groups : List String)
    (tokens : Int) (managed : Bool) : String → Json → Prop where
  | login : record.Tells avatar groups tokens managed "login" (.str record.login)
  | name {name : String} (known : record.name = some name) :
    record.Tells avatar groups tokens managed "name" (.str name)
  | avatar {digest : String} (known : avatar = some digest) (nonempty : digest ≠ "") :
    record.Tells avatar groups tokens managed "avatar" (.str digest)
  | active : record.Tells avatar groups tokens managed "active" (.bool record.isActive)
  | isLocal : record.Tells avatar groups tokens managed "local" (.bool record.isLocal)
  | externalProvider {provider : String}
    (known : record.externalIdentityProvider = some provider) :
    record.Tells avatar groups tokens managed "externalProvider" (.str provider)
  | scmAccounts (nonempty : record.scmAccounts ≠ []) :
    record.Tells avatar groups tokens managed "scmAccounts"
      (.arr (record.scmAccounts.map .str))
  | email {email : String} (known : record.email = some email) :
    record.Tells avatar groups tokens managed "email" (.str email)
  | groups (nonempty : groups ≠ []) :
    record.Tells avatar groups tokens managed "groups" (.arr (groups.map .str))
  | externalIdentity {login : String} (known : record.externalLogin = some login) :
    record.Tells avatar groups tokens managed "externalIdentity" (.str login)
  | tokensCount : record.Tells avatar groups tokens managed "tokensCount" (.int tokens)
  | lastConnectionDate {moment : Timestamp} (known : record.lastConnection = some moment) :
    record.Tells avatar groups tokens managed "lastConnectionDate" (.str moment.served)
  | managed : record.Tells avatar groups tokens managed "managed" (.bool managed)

/-! ### Members that have a value -/

theorem mem_presentMembers_iff {members : List (String × Option Json)} {key : String}
    {value : Json} : (key, value) ∈ presentMembers members ↔ (key, some value) ∈ members := by
  rw [presentMembers, List.mem_filterMap]
  constructor
  · rintro ⟨⟨name, found⟩, member, same⟩
    obtain ⟨_, rfl, equal⟩ := Option.map_eq_some_iff.mp same
    cases equal
    exact member
  · exact fun member => ⟨_, member, rfl⟩

/-- Members keep their order when those without a value are left out. -/
theorem names_presentMembers_sublist (members : List (String × Option Json)) :
    ((presentMembers members).map (·.1)).Sublist (members.map (·.1)) := by
  induction members with
  | nil => exact .slnil
  | cons member rest inductionHypothesis =>
    obtain ⟨name, value⟩ := member
    cases value with
    | none => exact inductionHypothesis.cons name
    | some value => exact inductionHypothesis.cons_cons name

/-! ### Members of a user -/

/-- All fields, in their order. -/
def allFields : List String :=
  Tiers.fields ⟨true, true⟩

theorem Tiers.fields_eq_filter (tiers : Tiers) :
    tiers.fields = allFields.filter tiers.includes := by
  obtain ⟨authenticated, privileged⟩ := tiers
  cases authenticated <;> cases privileged <;> decide

theorem nonemptyList_map_eq_some_iff {α β : Type} {items : List α} {function : List α → β}
    {value : β} :
    (nonemptyList items).map function = some value ↔ items ≠ [] ∧ function items = value := by
  cases items <;> simp [nonemptyList]

/-- With all tiers, what is shown is what there is to tell. -/
theorem mem_members_view_iff {record : Record} {extras : Extras} {tokens : Int}
    (counted : extras.tokensCount = some tokens) {key : String} {value : Json} :
    (key, some value) ∈ (record.view ⟨true, true⟩ extras).members ↔
      record.Tells extras.avatar extras.groups tokens extras.isManaged key value := by
  have members : (record.view ⟨true, true⟩ extras).members = [
      ("login", some (.str record.login)),
      ("name", record.name.map .str),
      ("avatar", (extras.avatar.filter (· ≠ "")).map .str),
      ("active", some (.bool record.isActive)),
      ("local", some (.bool record.isLocal)),
      ("externalProvider", record.externalIdentityProvider.map .str),
      ("scmAccounts", (nonemptyList record.scmAccounts).map fun items => .arr (items.map .str)),
      ("email", record.email.map .str),
      ("groups", (nonemptyList extras.groups).map fun items => .arr (items.map .str)),
      ("externalIdentity", record.externalLogin.map .str),
      ("tokensCount", extras.tokensCount.map .int),
      ("lastConnectionDate", (record.lastConnection.map (·.served)).map .str),
      ("managed", some (.bool extras.isManaged))] := rfl
  rw [members]
  constructor
  · intro shown
    simp only [List.mem_cons, List.not_mem_nil, or_false, Prod.mk.injEq,
      eq_comm (a := some value)] at shown
    rcases shown with ⟨rfl, same⟩ | ⟨rfl, same⟩ | ⟨rfl, same⟩ | ⟨rfl, same⟩ | ⟨rfl, same⟩ |
      ⟨rfl, same⟩ | ⟨rfl, same⟩ | ⟨rfl, same⟩ | ⟨rfl, same⟩ | ⟨rfl, same⟩ | ⟨rfl, same⟩ |
      ⟨rfl, same⟩ | ⟨rfl, same⟩
    · cases same
      exact .login
    · obtain ⟨name, known, rfl⟩ := Option.map_eq_some_iff.mp same
      exact .name known
    · obtain ⟨digest, kept, rfl⟩ := Option.map_eq_some_iff.mp same
      obtain ⟨known, nonempty⟩ := Option.filter_eq_some_iff.mp kept
      exact .avatar known (of_decide_eq_true nonempty)
    · cases same
      exact .active
    · cases same
      exact .isLocal
    · obtain ⟨provider, known, rfl⟩ := Option.map_eq_some_iff.mp same
      exact .externalProvider known
    · obtain ⟨nonempty, rfl⟩ := nonemptyList_map_eq_some_iff.mp same
      exact .scmAccounts nonempty
    · obtain ⟨email, known, rfl⟩ := Option.map_eq_some_iff.mp same
      exact .email known
    · obtain ⟨nonempty, rfl⟩ := nonemptyList_map_eq_some_iff.mp same
      exact .groups nonempty
    · obtain ⟨login, known, rfl⟩ := Option.map_eq_some_iff.mp same
      exact .externalIdentity known
    · rw [counted] at same
      cases same
      exact .tokensCount
    · rw [Option.map_map] at same
      obtain ⟨moment, known, rfl⟩ := Option.map_eq_some_iff.mp same
      exact .lastConnectionDate known
    · cases same
      exact .managed
  · intro told
    have given {items : List String} (nonempty : items ≠ []) :
        some (Json.arr (items.map .str)) =
          (nonemptyList items).map fun items => .arr (items.map .str) := by
      rw [eq_comm, nonemptyList_map_eq_some_iff]
      exact ⟨nonempty, rfl⟩
    cases told with
    | avatar known nonempty => simp [known, nonempty, Option.filter]
    | name known | externalProvider known | email known | externalIdentity known
    | lastConnectionDate known => simp [known]
    | scmAccounts nonempty | groups nonempty => simp [given nonempty]
    | tokensCount => simp [counted]
    | login | active | isLocal | managed => simp

/-- What is shown under some tiers is what is shown under all of them, as far as it belongs to the
fields of these. -/
theorem toJson_view_eq_filter (record : Record) (extras : Extras) (tiers : Tiers) :
    (record.view tiers (extras.shownUnder tiers)).toJson =
      .obj ((presentMembers (record.view ⟨true, true⟩ extras).members).filter fun member =>
        tiers.includes member.1) := by
  rw [toJson_view tiers.within_all record (extras.agreeOn_shownUnder tiers), UserView.toJson_eq]
  rfl

/-- The object of a user has, under the fields of the caller's tiers, just the values that there are
to tell, each once and in the order of the fields; and the check of what other stores say passes. -/
theorem view_tells (record : Record) (tiers : Tiers) (avatar : Option String)
    (groups : List String) (tokens : Int) (managed : Bool) :
    ∃ extras members,
      Extras.check tiers ((avatar.map .str).getD .null) (groups.map .str) (.int tokens) managed =
        .valid extras ∧
      (record.view tiers extras).toJson = .obj members ∧
      (members.map (·.1)).Sublist tiers.fields ∧
      (∀ key, key ∈ members.map (·.1) ↔
        key ∈ tiers.fields ∧ ∃ value, record.Tells avatar groups tokens managed key value) ∧
      ∀ key value, (key, value) ∈ members ↔
        key ∈ tiers.fields ∧ record.Tells avatar groups tokens managed key value := by
  let extras : Extras := ⟨avatar, groups, some tokens, managed⟩
  have checked := extras.check_eq_shownUnder tiers (fun _ => rfl) rfl
  have each (key : String) (value : Json) :
      (key, value) ∈ (presentMembers (record.view ⟨true, true⟩ extras).members).filter
          (fun member => tiers.includes member.1) ↔
        key ∈ tiers.fields ∧ record.Tells avatar groups tokens managed key value := by
    have inFields : tiers.includes key = true ↔ key ∈ tiers.fields := List.contains_iff_mem
    rw [List.mem_filter, mem_presentMembers_iff, mem_members_view_iff rfl, inFields, and_comm]
  refine ⟨_, _, checked, toJson_view_eq_filter record extras tiers, ?_, fun key => ?_, each⟩
  · have names : (record.view ⟨true, true⟩ extras).members.map (·.1) = allFields := rfl
    have kept := (names_presentMembers_sublist (record.view ⟨true, true⟩ extras).members).filter
      tiers.includes
    rwa [names, ← tiers.fields_eq_filter, List.filter_map] at kept
  · rw [List.mem_map]
    constructor
    · rintro ⟨⟨_, value⟩, member, rfl⟩
      obtain ⟨inFields, told⟩ := (each _ _).mp member
      exact ⟨inFields, value, told⟩
    · rintro ⟨inFields, value, told⟩
      exact ⟨(key, value), (each key value).mpr ⟨inFields, told⟩, rfl⟩

end UserDirectory
