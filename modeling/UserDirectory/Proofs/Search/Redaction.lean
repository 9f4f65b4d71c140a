/-
This file proves that a page is never shown to a caller otherwise than by leaving
fields out. An administrator sees every field. What any other caller is sent of a
user is the object that the administrator is sent, restricted to the names in the
caller's tiers: no value differs, no visible field is missing, and none is added.
Since the tiers of any two callers on a user are comparable, so are the objects
that they are sent.
-/

import UserDirectory.Proofs.Search.Directory
import UserDirectory.Proofs.Search.Views

namespace UserDirectory

/-! ### Restricted objects -/

/-- An object without the members of other names. -/
def Json.restrictedTo (names : List String) : Json → Json
  | .obj members => .obj (members.filter fun member => names.contains member.1)
  | document => document

theorem presentMembers_keep (keep : String → Bool) (members : List (String × Option Json)) :
    presentMembers (members.map fun member =>
        (member.1, if keep member.1 then member.2 else none)) =
      (presentMembers members).filter fun member => keep member.1 := by
  unfold presentMembers
  rw [List.filterMap_map, List.filter_filterMap]
  congr 1
  funext member
  obtain ⟨name, value⟩ := member
  cases value <;> cases kept : keep name <;> simp [kept, Option.filter]

/-- The members of a user that is sent, with those that have no value. -/
def UserView.members (view : UserView) : List (String × Option Json) :=
  let texts (items : List String) : Json := .arr (items.map .str)
  [("login", some (.str view.login)),
    ("name", view.name.map .str),
    ("avatar", view.avatar.map .str),
    ("active", view.isActive.map .bool),
    ("local", view.isLocal.map .bool),
    ("externalProvider", view.externalProvider.map .str),
    ("scmAccounts", view.scmAccounts.map texts),
    ("email", view.email.map .str),
    ("groups", view.groups.map texts),
    ("externalIdentity", view.externalIdentity.map .str),
    ("tokensCount", view.tokensCount.map .int),
    ("lastConnectionDate", view.lastConnectionDate.map .str),
    ("managed", view.isManaged.map .bool)]

theorem UserView.toJson_eq (view : UserView) : view.toJson = .obj (presentMembers view.members) :=
  rfl

/-! ### Views under fewer tiers -/

section Fewer

variable {first second : Tiers}

theorem keep_within {α : Type} (within : first.Within second) {field : String}
    {value other : Option α} (same : first.includes field = true → value = other)
    (toJson : α → Json) :
    (if first.includes field then value else none).map toJson =
      if first.includes field then (if second.includes field then other else none).map toJson
      else none := by
  by_cases included : first.includes field = true
  · rw [if_pos included, if_pos included, if_pos (within.includes included), same included]
  · rw [if_neg included, if_neg included]
    rfl

/-- A member that is withheld looks like one that has no value. -/
theorem members_view (within : first.Within second) (record : Record) {extras others : Extras}
    (agree : extras.AgreeOn first others) :
    (record.view first extras).members =
      (record.view second others).members.map fun member =>
        (member.1, if first.includes member.1 then member.2 else none) := by
  have login : first.includes "login" = true := by
    rw [Tiers.includes_eq]
    rfl
  simp only [UserView.members, Record.view, List.map_cons, List.map_nil, List.cons.injEq,
    Prod.mk.injEq, true_and, and_true, login, if_true]
  refine ⟨keep_within within (fun _ => rfl) _, keep_within within (fun included => ?_) _,
    keep_within within (fun _ => rfl) _, keep_within within (fun _ => rfl) _,
    keep_within within (fun _ => rfl) _, keep_within within (fun _ => rfl) _,
    keep_within within (fun _ => rfl) _, keep_within within (fun included => ?_) _,
    keep_within within (fun _ => rfl) _, keep_within within (fun included => ?_) _,
    keep_within within (fun _ => rfl) _, keep_within within (fun included => ?_) _⟩
  · rw [Tiers.includes_of_authenticated (by decide)] at included
    exact agree.avatar included
  · rw [Tiers.includes_of_privileged (by decide)] at included
    rw [agree.groups included]
  · rw [Tiers.includes_of_privileged (by decide)] at included
    exact agree.tokensCount included
  · rw [Tiers.includes_of_privileged (by decide)] at included
    rw [agree.isManaged included]

theorem toJson_view (within : first.Within second) (record : Record) {extras others : Extras}
    (agree : extras.AgreeOn first others) :
    (record.view first extras).toJson =
      (record.view second others).toJson.restrictedTo first.fields := by
  rw [UserView.toJson_eq, UserView.toJson_eq, members_view within record agree,
    presentMembers_keep]
  rfl

/-- What was checked under some tiers agrees with what was checked under more of them. -/
theorem agreeOn_of_check (within : first.Within second) {avatar other : Json} {groups : List Json}
    {tokens : Json} {managed : Bool} {extras others : Extras}
    (sameAvatar : first.authenticated = true → avatar = other)
    (checked : Extras.check first avatar groups tokens managed = .valid extras)
    (otherChecked : Extras.check second other groups tokens managed = .valid others) :
    extras.AgreeOn first others := by
  obtain ⟨avatars, names, counts, managed⟩ := Extras.check_eq_valid_iff.mp checked
  obtain ⟨otherAvatars, otherNames, otherCounts, otherManaged⟩ :=
    Extras.check_eq_valid_iff.mp otherChecked
  rw [Tiers.includes_of_authenticated (by decide)] at avatars otherAvatars
  rw [Tiers.includes_of_privileged (by decide)] at names otherNames counts otherCounts
  refine ⟨fun signedIn => ?_, fun privileged => ?_, fun privileged => ?_, fun _ => ?_⟩
  · rw [if_pos signedIn, sameAvatar signedIn] at avatars
    rw [if_pos (within.authenticated signedIn), avatars] at otherAvatars
    rw [Checked.valid.inj otherAvatars]
  · rw [if_pos privileged] at names
    rw [if_pos (within.privileged privileged), names] at otherNames
    exact Checked.valid.inj otherNames
  · rw [if_pos privileged] at counts
    rw [if_pos (within.privileged privileged), counts] at otherCounts
    exact Checked.valid.inj otherCounts
  · rw [← managed, ← otherManaged]

/-- Of one gathering, a caller with fewer tiers on a user is shown a part of what a caller with more
tiers is shown. -/
theorem toJson_of_within {gathering : Gathering} {session other : Session}
    {resolver : Record → Except Fault String} {record : Record} {view otherView : UserView}
    (viewed : gathering.view session resolver record = .ok view)
    (otherViewed : gathering.view other resolver record = .ok otherView)
    (decided : Tiers.decide session record.userId = .ok first)
    (otherDecided : Tiers.decide other record.userId = .ok second)
    (within : first.Within second) :
    view.toJson = otherView.toJson.restrictedTo first.fields := by
  obtain ⟨tiers, avatar, extras, same, shown, checked, rfl⟩ := Gathering.view_eq_ok_iff.mp viewed
  obtain ⟨tiers', avatar', extras', same', shown', checked', rfl⟩ :=
    Gathering.view_eq_ok_iff.mp otherViewed
  rw [decided, Except.ok.injEq] at same
  rw [otherDecided, Except.ok.injEq] at same'
  subst same same'
  refine toJson_view within record (agreeOn_of_check within (fun signedIn => ?_) checked checked')
  rw [Record.shownAvatar, Tiers.includes_of_authenticated (by decide)] at shown shown'
  rw [signedIn] at shown
  rw [within.authenticated signedIn, shown, Except.ok.injEq] at shown'
  rw [shown']

/-- The tiers of two callers on one user are comparable. -/
theorem within_or_within {session other : Session} {userId : String}
    (decided : Tiers.decide session userId = .ok first)
    (otherDecided : Tiers.decide other userId = .ok second) :
    first.Within second ∨ second.Within first := by
  by_cases firstAll : first.privileged = true
  · exact Or.inr ⟨fun _ => Tiers.authenticated_of_privileged decided firstAll, fun _ => firstAll⟩
  · by_cases secondSignedIn : second.authenticated = true
    · exact Or.inl ⟨fun _ => secondSignedIn, fun privileged => absurd privileged firstAll⟩
    · refine Or.inr ⟨fun signedIn => absurd signedIn secondSignedIn, fun privileged => ?_⟩
      exact absurd (Tiers.authenticated_of_privileged otherDecided privileged) secondSignedIn

end Fewer

/-! ### Pages -/

namespace Service

/-- The records that a page shows, in order. -/
def pageRecords (service : Service) (criteria : Criteria) (backends : Backends) :
    Except SearchFailure (List Record) :=
  (service.gather criteria backends).map fun (page, gathering) =>
    orderByLogins gathering.records page.logins

variable {service : Service} {criteria : Criteria} {backends : Backends}

/-- A page shows its records one by one to whoever asks. -/
structure Shows (service : Service) (session : Session) (gathering : Gathering)
    (records : List Record) (users : List UserView) : Prop where
  logins : users.map (·.login) = records.map (·.login)
  views : ∀ (position : Nat) (record : Record), records[position]? = some record →
    ∃ (view : UserView) (tiers : Tiers), users[position]? = some view ∧
      Tiers.decide session record.userId = .ok tiers ∧
        gathering.view session service.avatar record = .ok view

theorem shows_of_views {session : Session} {gathering : Gathering} {logins : List String}
    {users : List UserView}
    (viewed : gathering.views session service.avatar logins = .ok users) :
    service.Shows session gathering (orderByLogins gathering.records logins) users := by
  have each := mapM_eq_ok_iff.mp viewed
  constructor
  · refine map_of_mapM_ok viewed fun record view shown => ?_
    obtain ⟨tiers, avatar, extras, _, _, _, rfl⟩ := Gathering.view_eq_ok_iff.mp shown
    rfl
  · intro position record listed
    have here := congrArg (fun outcomes => outcomes[position]?) each
    simp only [List.getElem?_map, listed, Option.map_some] at here
    obtain ⟨view, shown, equal⟩ := Option.map_eq_some_iff.mp here.symm
    obtain ⟨tiers, _, _, decided, _⟩ := Gathering.view_eq_ok_iff.mp equal.symm
    exact ⟨view, tiers, shown, decided, equal.symm⟩

/-- User by user, an answer to a session is another answer restricted to the fields of the tiers
that the session has on the record. -/
def IsRestricted (session : Session) (records : List Record) (response whole : SearchResponse) :
    Prop :=
  ∀ (position : Nat) (record : Record), records[position]? = some record →
    ∃ (tiers : Tiers) (view fullView : UserView), Tiers.decide session record.userId = .ok tiers ∧
      response.users[position]? = some view ∧ whole.users[position]? = some fullView ∧
        view.toJson = fullView.toJson.restrictedTo tiers.fields

/-- User by user, the answers to two sessions are comparable: the one with fewer tiers is the other
one restricted to their fields. -/
def AreComparable (session other : Session) (records : List Record)
    (response others : SearchResponse) : Prop :=
  ∀ (position : Nat) (record : Record), records[position]? = some record →
    ∃ (tiers otherTiers : Tiers) (view otherView : UserView),
      Tiers.decide session record.userId = .ok tiers ∧
      Tiers.decide other record.userId = .ok otherTiers ∧
      response.users[position]? = some view ∧ others.users[position]? = some otherView ∧
      (tiers.Within otherTiers ∧ view.toJson = otherView.toJson.restrictedTo tiers.fields ∨
        otherTiers.Within tiers ∧ otherView.toJson = view.toJson.restrictedTo otherTiers.fields)

theorem areComparable_of_views {session other : Session} {page : IndexPage}
    {gathering : Gathering} {users others : List UserView}
    (viewed : gathering.views session service.avatar page.logins = .ok users)
    (viewedOther : gathering.views other service.avatar page.logins = .ok others) :
    AreComparable session other (orderByLogins gathering.records page.logins)
      (criteria.response page.total users) (criteria.response page.total others) := by
  intro position record listed
  obtain ⟨view, tiers, shown, decided, equal⟩ :=
    (shows_of_views viewed).views position record listed
  obtain ⟨otherView, otherTiers, otherShown, otherDecided, otherEqual⟩ :=
    (shows_of_views viewedOther).views position record listed
  refine ⟨tiers, otherTiers, view, otherView, decided, otherDecided, shown, otherShown, ?_⟩
  rcases within_or_within decided otherDecided with within | within
  · exact Or.inl ⟨within, toJson_of_within equal otherEqual decided otherDecided within⟩
  · exact Or.inr ⟨within, toJson_of_within otherEqual equal otherDecided decided within⟩

theorem isRestricted_of_views {session administrator : Session} {page : IndexPage}
    {gathering : Gathering} {users all : List UserView}
    (isAdministrator : administrator.isAdministrator = .ok true)
    (viewed : gathering.views session service.avatar page.logins = .ok users)
    (viewedAll : gathering.views administrator service.avatar page.logins = .ok all) :
    IsRestricted session (orderByLogins gathering.records page.logins)
      (criteria.response page.total users) (criteria.response page.total all) := by
  intro position record listed
  obtain ⟨view, tiers, shown, decided, equal⟩ :=
    (shows_of_views viewed).views position record listed
  obtain ⟨fullView, fullTiers, fullShown, _, fullEqual⟩ :=
    (shows_of_views viewedAll).views position record listed
  refine ⟨tiers, view, fullView, decided, shown, fullShown, ?_⟩
  exact toJson_of_within equal fullEqual decided
    (Tiers.decide_of_administrator isAdministrator record.userId) tiers.within_all

/-- What the search answers a caller is what it answers an administrator, restricted user by user to
the fields of the caller's tiers. What it answers any two callers is comparable user by user, for
nobody has the privileged tier without the authenticated one. -/
theorem search_restricts_administrator {session administrator : Session}
    {response whole : SearchResponse}
    (isAdministrator : administrator.isAdministrator = .ok true)
    (searched : (service.search criteria session backends).2.outcome = .ok response)
    (searchedAll : (service.search criteria administrator backends).2.outcome = .ok whole) :
    response.paging = whole.paging ∧
    response.users.map (·.login) = whole.users.map (·.login) ∧
    (∃ records, service.pageRecords criteria backends = .ok records ∧
      response.users.map (·.login) = records.map (·.login) ∧
      IsRestricted session records response whole ∧
      ∀ other others, (service.search criteria other backends).2.outcome = .ok others →
        AreComparable session other records response others) ∧
    ∀ userId tiers, Tiers.decide session userId = .ok tiers →
      tiers.privileged = true → tiers.authenticated = true := by
  obtain ⟨page, gathering, users, gathered, viewed, rfl⟩ := gather_of_search searched
  obtain ⟨_, _, all, gatheredAll, viewedAll, rfl⟩ := gather_of_search searchedAll
  rw [gathered, Except.ok.injEq, Prod.mk.injEq] at gatheredAll
  obtain ⟨rfl, rfl⟩ := gatheredAll
  have logins := (shows_of_views viewed).logins
  refine ⟨rfl, logins.trans (shows_of_views viewedAll).logins.symm,
    ⟨orderByLogins gathering.records page.logins, ?_, logins,
      isRestricted_of_views isAdministrator viewed viewedAll, fun other others searchedOther => ?_⟩,
    fun userId tiers => Tiers.authenticated_of_privileged⟩
  · rw [pageRecords, gathered]
    rfl
  · obtain ⟨_, _, otherUsers, gatheredOther, viewedOther, rfl⟩ := gather_of_search searchedOther
    rw [gathered, Except.ok.injEq, Prod.mk.injEq] at gatheredOther
    obtain ⟨rfl, rfl⟩ := gatheredOther
    exact areComparable_of_views viewed viewedOther

/-- The small directory as one of its users and an administrator see it. -/
theorem sample_restricts_administrator :
    (Sample.session ["Admin"]).isAdministrator = .ok true ∧
    Sample.outcome {} [] = .ok (Sample.response ⟨true, false⟩) ∧
    Sample.outcome {} ["Admin"] = .ok (Sample.response ⟨true, true⟩) ∧
    ∃ records, Sample.service.pageRecords Sample.criteria (Sample.backends {}) = .ok records ∧
      (Sample.response ⟨true, false⟩).users.map (·.login) = records.map (·.login) ∧
      IsRestricted (Sample.session []) records (Sample.response ⟨true, false⟩)
        (Sample.response ⟨true, true⟩) := by
  have isAdministrator : (Sample.session ["Admin"]).isAdministrator = .ok true := by decide +kernel
  have searched : Sample.outcome {} [] = .ok (Sample.response ⟨true, false⟩) := by decide +kernel
  have searchedAll : Sample.outcome {} ["Admin"] = .ok (Sample.response ⟨true, true⟩) := by
    decide +kernel
  obtain ⟨-, -, ⟨records, found, logins, restricted, -⟩, -⟩ :=
    search_restricts_administrator isAdministrator searched searchedAll
  exact ⟨isAdministrator, searched, searchedAll, records, found, logins, restricted⟩

end Service

end UserDirectory
