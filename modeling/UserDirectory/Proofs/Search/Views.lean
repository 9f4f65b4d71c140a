/-
This file says what a caller sees of a user. What is seen is fixed by the tiers of
the caller on the user, by the record, and by what other stores say of the user;
and of all that only what the tiers include. So two views under the same tiers are
equal as soon as their sources agree on what the tiers include, and a view under
fewer tiers is the part of a fuller one that those tiers include.
-/

import UserDirectory.Proofs.Concurrent.Calls
import UserDirectory.Proofs.Json.Checking
import UserDirectory.Search.Page

namespace UserDirectory

/-! ### Tiers -/

namespace Tiers

theorem includes_eq (tiers : Tiers) (field : String) :
    tiers.includes field = (baseFields.contains field ||
      (tiers.authenticated && authenticatedFields.contains field) ||
        (tiers.privileged && privilegedFields.contains field)) := by
  obtain ⟨authenticated, privileged⟩ := tiers
  cases authenticated <;> cases privileged <;>
    simp only [includes, fields, List.contains_append, if_true, if_false, Bool.false_eq_true,
      List.contains_nil, Bool.or_false, Bool.true_and, Bool.false_and]

theorem includes_of_authenticated {field : String} (member : field ∈ authenticatedFields)
    (tiers : Tiers) : tiers.includes field = tiers.authenticated := by
  obtain ⟨authenticated, privileged⟩ := tiers
  simp only [authenticatedFields, List.mem_cons, List.not_mem_nil, or_false] at member
  rcases member with rfl | rfl | rfl | rfl | rfl <;> cases authenticated <;>
    cases privileged <;> rfl

theorem includes_of_privileged {field : String} (member : field ∈ privilegedFields)
    (tiers : Tiers) : tiers.includes field = tiers.privileged := by
  obtain ⟨authenticated, privileged⟩ := tiers
  simp only [privilegedFields, List.mem_cons, List.not_mem_nil, or_false] at member
  rcases member with rfl | rfl | rfl | rfl | rfl | rfl <;> cases authenticated <;>
    cases privileged <;> rfl

/-- One caller's tiers hold everything that another's hold. -/
structure Within (first second : Tiers) : Prop where
  authenticated : first.authenticated = true → second.authenticated = true
  privileged : first.privileged = true → second.privileged = true

theorem Within.includes {first second : Tiers} (within : first.Within second) {field : String}
    (included : first.includes field = true) : second.includes field = true := by
  rw [includes_eq, Bool.or_eq_true, Bool.or_eq_true, Bool.and_eq_true,
    Bool.and_eq_true] at included ⊢
  rcases included with (base | ⟨authenticated, member⟩) | ⟨privileged, member⟩
  · exact Or.inl (Or.inl base)
  · exact Or.inl (Or.inr ⟨within.authenticated authenticated, member⟩)
  · exact Or.inr ⟨within.privileged privileged, member⟩

theorem decide_eq_ok_iff {session : Session} {userId : String} {tiers : Tiers} :
    Tiers.decide session userId = .ok tiers ↔ ∃ administrator,
      session.isAdministrator = .ok administrator ∧
        tiers = ⟨session.isLoggedIn, administrator || session.userId.text? == some userId⟩ := by
  unfold Tiers.decide
  cases session.isAdministrator with
  | error fault => simp [bind, Except.bind]
  | ok administrator => simp [bind, Except.bind, pure, Except.pure, eq_comm]

/-- The identifier of a user matters only to callers who have signed in. -/
theorem decide_congr {session : Session} {first second : String}
    (same : session.isLoggedIn = true → first = second) :
    Tiers.decide session first = Tiers.decide session second := by
  cases user : session.user with
  | some caller => rw [same (by rw [Session.isLoggedIn, user]; rfl)]
  | none =>
    simp only [Tiers.decide, Session.userId, user]
    rfl

/-- Only callers who have signed in are told more than the base. -/
theorem authenticated_of_privileged {session : Session} {userId : String} {tiers : Tiers}
    (decided : Tiers.decide session userId = .ok tiers) (privileged : tiers.privileged = true) :
    tiers.authenticated = true := by
  obtain ⟨administrator, isAdministrator, rfl⟩ := decide_eq_ok_iff.mp decided
  rw [Session.isLoggedIn]
  cases user : session.user with
  | some caller => rfl
  | none =>
    rw [Session.isAdministrator, user, Except.ok.injEq] at isAdministrator
    simp only [Session.userId, user, ← isAdministrator] at privileged
    cases privileged

/-- An administrator has all tiers on every user. -/
theorem decide_of_administrator {session : Session}
    (administrator : session.isAdministrator = .ok true) (userId : String) :
    Tiers.decide session userId = .ok ⟨true, true⟩ := by
  have decided : Tiers.decide session userId = .ok ⟨session.isLoggedIn, true⟩ :=
    decide_eq_ok_iff.mpr ⟨true, administrator, rfl⟩
  have signedIn : session.isLoggedIn = true := authenticated_of_privileged decided rfl
  rw [decided, signedIn]

theorem within_all (tiers : Tiers) : tiers.Within ⟨true, true⟩ :=
  ⟨fun _ => rfl, fun _ => rfl⟩

end Tiers

/-! ### What other stores say -/

/-- An avatar that is shown may be empty, which means none. -/
theorem Checked.optionalText_avatar (avatar : Option String) :
    optionalText (((avatar.map Json.str).getD .null).orElse .null) =
      .valid (avatar.filter (· ≠ "")) := by
  cases avatar with
  | none => rfl
  | some text =>
    by_cases empty : text = ""
    · rw [empty]
      rfl
    · simp [Json.orElse, Json.isPresent, empty, optionalText, Checked.text, Checked.map,
        Option.filter]

/-- What is checked of other stores is what the tiers include. -/
theorem Extras.check_eq_valid_iff {tiers : Tiers} {avatar : Json} {groups : List Json}
    {tokens : Json} {managed : Bool} {extras : Extras} :
    Extras.check tiers avatar groups tokens managed = .valid extras ↔
      (if tiers.includes "avatar" then Checked.optionalText (avatar.orElse .null)
        else .valid none) = .valid extras.avatar ∧
      (if tiers.includes "groups" then Checked.texts groups else .valid []) =
        .valid extras.groups ∧
      (if tiers.includes "tokensCount" then Checked.optionalWhole tokens else .valid none) =
        .valid extras.tokensCount ∧
      managed = extras.isManaged := by
  have underIf {α : Type} (condition : Bool) (step : PathStep) (check : Checked α)
      (value result : α) :
      (if condition then check.under step else pure value) = Checked.valid result ↔
        (if condition then check else .valid value) = .valid result := by
    cases condition
    · exact Iff.rfl
    · exact Checked.under_eq_valid_iff
  obtain ⟨avatar', groups', tokens', managed'⟩ := extras
  unfold Extras.check
  simp only [Checked.seq_eq_valid_iff, Checked.map_eq_valid_iff, underIf]
  constructor
  · rintro ⟨_, _, ⟨_, tokensCount, ⟨_, texts, ⟨shown, first, rfl⟩, second, rfl⟩, third, rfl⟩,
      fourth, equal⟩
    cases fourth
    cases equal
    exact ⟨first, second, third, rfl⟩
  · rintro ⟨first, second, third, rfl⟩
    exact ⟨_, _, ⟨_, _, ⟨_, _, ⟨_, first, rfl⟩, second, rfl⟩, third, rfl⟩, rfl, rfl⟩

/-- What is known of a user agrees as far as tiers show it. -/
structure Extras.AgreeOn (tiers : Tiers) (first second : Extras) : Prop where
  avatar : tiers.authenticated = true → first.avatar.filter (· ≠ "") = second.avatar.filter (· ≠ "")
  groups : tiers.privileged = true → first.groups = second.groups
  tokensCount : tiers.privileged = true → first.tokensCount = second.tokensCount
  isManaged : tiers.privileged = true → first.isManaged = second.isManaged

/-- What is known of a user, cut down to what tiers show. -/
def Extras.shownUnder (extras : Extras) (tiers : Tiers) : Extras where
  avatar := if tiers.authenticated then extras.avatar.filter (· ≠ "") else none
  groups := if tiers.privileged then extras.groups else []
  tokensCount := if tiers.privileged then extras.tokensCount else none
  isManaged := extras.isManaged

/-- Under some tiers only what they show is checked. -/
theorem Extras.check_eq_shownUnder (extras : Extras) (tiers : Tiers) {avatar : Option String}
    (sameAvatar : tiers.authenticated = true → avatar = extras.avatar) {tokens : Int}
    (counted : extras.tokensCount = some tokens) :
    Extras.check tiers ((avatar.map .str).getD .null) (extras.groups.map .str) (.int tokens)
      extras.isManaged = .valid (extras.shownUnder tiers) := by
  rw [Extras.check_eq_valid_iff, Tiers.includes_of_authenticated (by decide),
    Tiers.includes_of_privileged (by decide), Tiers.includes_of_privileged (by decide), shownUnder,
    counted]
  refine ⟨?_, ?_, ?_, rfl⟩
  · cases signedIn : tiers.authenticated with
    | false => rfl
    | true =>
      rw [sameAvatar signedIn]
      exact Checked.optionalText_avatar extras.avatar
  · cases tiers.privileged with
    | false => rfl
    | true => exact Checked.texts_eq_valid_iff.mpr rfl
  · cases tiers.privileged with
    | false => rfl
    | true => rfl

theorem Extras.agreeOn_shownUnder (extras : Extras) (tiers : Tiers) :
    (extras.shownUnder tiers).AgreeOn tiers extras := by
  refine ⟨fun signedIn => ?_, fun privileged => if_pos privileged,
    fun privileged => if_pos privileged, fun _ => rfl⟩
  rw [shownUnder, if_pos signedIn, Option.filter_filter]
  simp only [Bool.and_self]

/-! ### One user of a page -/

/-- Two records agree as far as tiers show them. -/
structure Record.AgreeOn (tiers : Tiers) (first second : Record) : Prop where
  login : first.login = second.login
  name : first.name = second.name
  authenticated : tiers.authenticated = true → first.isActive = second.isActive ∧
    first.isLocal = second.isLocal ∧
    first.externalIdentityProvider = second.externalIdentityProvider ∧
    first.scmAccounts = second.scmAccounts
  privileged : tiers.privileged = true → first.email = second.email ∧
    first.externalLogin = second.externalLogin ∧ first.lastConnection = second.lastConnection

theorem Record.agreeOn_refl (tiers : Tiers) (record : Record) : record.AgreeOn tiers record :=
  ⟨rfl, rfl, fun _ => ⟨rfl, rfl, rfl, rfl⟩, fun _ => ⟨rfl, rfl, rfl⟩⟩

theorem keep_congr {α : Type} {included : Bool} {value other : Option α}
    (same : included = true → value = other) :
    (if included then value else none) = if included then other else none := by
  cases included with
  | false => rfl
  | true => exact same rfl

/-- What tiers do not show makes no difference to a view. -/
theorem Record.view_eq_view {tiers : Tiers} {first second : Record} {extras others : Extras}
    (records : first.AgreeOn tiers second) (known : extras.AgreeOn tiers others) :
    first.view tiers extras = second.view tiers others := by
  have shownSignedIn {field : String} (member : field ∈ authenticatedFields)
      (included : tiers.includes field = true) := by
    rw [Tiers.includes_of_authenticated member] at included
    exact records.authenticated included
  have shownPrivileged {field : String} (member : field ∈ privilegedFields)
      (included : tiers.includes field = true) : tiers.privileged = true := by
    rwa [Tiers.includes_of_privileged member] at included
  rw [Record.view, Record.view, UserView.mk.injEq]
  refine ⟨records.login, keep_congr fun _ => records.name, keep_congr fun included => ?_,
    keep_congr fun included => ?_, keep_congr fun included => ?_,
    keep_congr fun included => (shownSignedIn (by decide) included).2.2.1,
    keep_congr fun included => ?_,
    keep_congr fun included => (records.privileged (shownPrivileged (by decide) included)).1,
    keep_congr fun included => ?_,
    keep_congr fun included => (records.privileged (shownPrivileged (by decide) included)).2.1,
    keep_congr fun included => known.tokensCount (shownPrivileged (by decide) included),
    keep_congr fun included => ?_, keep_congr fun included => ?_⟩
  · rw [Tiers.includes_of_authenticated (by decide)] at included
    exact known.avatar included
  · rw [(shownSignedIn (by decide) included).1]
  · rw [(shownSignedIn (by decide) included).2.1]
  · rw [(shownSignedIn (by decide) included).2.2.2]
  · rw [known.groups (shownPrivileged (by decide) included)]
  · rw [(records.privileged (shownPrivileged (by decide) included)).2.2]
  · rw [known.isManaged (shownPrivileged (by decide) included)]

/-- The digest of the email of a user, if there is one. Emails that differ in case alone have one
digest, and an empty email counts as none. -/
def Record.digest (record : Record) : Option String :=
  (record.email.filter (· ≠ "")).map avatarOf

theorem Record.shownAvatar_avatar (record : Record) (tiers : Tiers) :
    record.shownAvatar Record.avatar tiers =
      .ok (if tiers.authenticated then record.digest else none) := by
  rw [Record.shownAvatar, Tiers.includes_of_authenticated (by decide), Record.digest]
  cases tiers.authenticated with
  | false => rfl
  | true =>
    rw [Bool.true_and, if_pos rfl, Record.avatar]
    cases record.email.filter (· ≠ "") with
    | none => rfl
    | some email => rfl

/-- A view of a user is made of the tiers of the caller and of what was checked under them. -/
theorem Gathering.view_eq_ok_iff {gathering : Gathering} {session : Session}
    {resolver : Record → Except Fault String} {record : Record} {view : UserView} :
    gathering.view session resolver record = .ok view ↔ ∃ tiers avatar extras,
      Tiers.decide session record.userId = .ok tiers ∧
        record.shownAvatar resolver tiers = .ok avatar ∧
          Extras.check tiers ((avatar.map .str).getD .null)
            (groupsOf gathering.groups record.login) (tokensOf gathering.tokenCounts record.login)
            (isManaged gathering.managed record.userId) = .valid extras ∧
              view = record.view tiers extras := by
  show Except.bind _ _ = _ ↔ _
  constructor
  · intro viewed
    obtain ⟨tiers, decided, viewed⟩ := bind_eq_ok_iff.mp viewed
    obtain ⟨avatar, resolved, viewed⟩ := bind_eq_ok_iff.mp viewed
    obtain ⟨extras, checked, viewed⟩ := bind_eq_ok_iff.mp viewed
    exact ⟨tiers, avatar, extras, mapError_eq_ok_iff.mp decided, resolved,
      Checked.outcome_eq_ok_iff.mp (mapError_eq_ok_iff.mp checked), (Except.ok.inj viewed).symm⟩
  · rintro ⟨tiers, avatar, extras, decided, resolved, checked, rfl⟩
    refine bind_eq_ok_iff.mpr ⟨tiers, mapError_eq_ok_iff.mpr decided, ?_⟩
    refine bind_eq_ok_iff.mpr ⟨avatar, resolved, ?_⟩
    exact bind_eq_ok_iff.mpr ⟨extras,
      mapError_eq_ok_iff.mpr (Checked.outcome_eq_ok_iff.mpr checked), rfl⟩

/-- What was gathered of a record shows the caller of a session a view: the view is cut to the tiers
of the caller on the user, the avatar is the one that the resolver finds for an email that is not
empty, and groups, tokens and management are as the look-ups have told. -/
inductive Gathering.Shows (gathering : Gathering) (session : Session)
    (resolver : Record → Except Fault String) (record : Record) : UserView → Prop where
  | shows {administrator : Bool} {tiers : Tiers} {extras : Extras}
    (roles : session.isAdministrator = .ok administrator)
    (signed_in : tiers.authenticated = session.isLoggedIn)
    (permitted : tiers.privileged = (administrator || session.userId.text? == some record.userId))
    (pictured : tiers.authenticated = true → ∀ email, record.email = some email → email ≠ "" →
      ∃ picture, resolver record = .ok picture ∧
        extras.avatar = if picture = "" then none else some picture)
    (faceless : (∀ email, record.email = some email → email = "") → extras.avatar = none)
    (groups : tiers.privileged = true →
      groupsOf gathering.groups record.login = extras.groups.map .str)
    (tokens : tiers.privileged = true →
      Checked.optionalWhole (tokensOf gathering.tokenCounts record.login) =
        .valid extras.tokensCount)
    (managed : isManaged gathering.managed record.userId = extras.isManaged) :
    gathering.Shows session resolver record (record.view tiers extras)

/-- An avatar is looked for if the tiers show it and there is an email that is not empty. -/
theorem Record.shownAvatar_eq_ok_iff {record : Record} {resolver : Record → Except Fault String}
    {tiers : Tiers} {avatar : Option String} :
    record.shownAvatar resolver tiers = .ok avatar ↔
      (tiers.authenticated = true → ∀ email, record.email = some email → email ≠ "" →
        ∃ picture, resolver record = .ok picture ∧ avatar = some picture) ∧
      ((tiers.authenticated = true → ∀ email, record.email = some email → email = "") →
        avatar = none) := by
  rw [Record.shownAvatar, Tiers.includes_of_authenticated (by decide)]
  cases tiers.authenticated with
  | false => simp [eq_comm]
  | true =>
    cases kept : record.email.filter (· ≠ "") with
    | none =>
      have empty : ∀ email, record.email = some email → email = "" := by
        simpa [Option.filter_eq_none_iff] using kept
      simp only [Bool.true_and, Option.isSome_none, Bool.false_eq_true, if_false, Except.ok.injEq]
      constructor
      · rintro rfl
        exact ⟨fun _ email known nonempty => absurd (empty email known) nonempty, fun _ => rfl⟩
      · exact fun shown => (shown.2 fun _ => empty).symm
    | some email =>
      obtain ⟨known, nonempty⟩ := Option.filter_eq_some_iff.mp kept
      have nonempty := of_decide_eq_true nonempty
      rw [Bool.true_and, Option.isSome_some, if_pos rfl]
      cases resolves : resolver record with
      | error fault =>
        refine ⟨nofun, fun shown => ?_⟩
        obtain ⟨picture, impossible, -⟩ := shown.1 rfl email known nonempty
        cases impossible
      | ok picture =>
        constructor
        · rintro ⟨⟩
          exact ⟨fun _ _ _ _ => ⟨picture, rfl, rfl⟩,
            fun empty => absurd (empty rfl email known) nonempty⟩
        · intro shown
          obtain ⟨other, ⟨⟩, rfl⟩ := shown.1 rfl email known nonempty
          rfl

/-- An avatar that is known of each email that is not empty, and of no other, is looked for. -/
theorem Record.exists_shownAvatar {record : Record} {resolver : Record → Except Fault String}
    {tiers : Tiers} {shown : Option String}
    (pictured : tiers.authenticated = true → ∀ email, record.email = some email → email ≠ "" →
      ∃ picture, resolver record = .ok picture ∧
        shown = if picture = "" then none else some picture)
    (faceless : (∀ email, record.email = some email → email = "") → shown = none) :
    ∃ avatar, record.shownAvatar resolver tiers = .ok avatar ∧
      (tiers.authenticated = true → avatar.filter (· ≠ "") = shown.filter (· ≠ "")) := by
  by_cases looked_for : tiers.authenticated = true ∧ ∃ email, record.email = some email ∧ email ≠ ""
  · obtain ⟨signedIn, email, known, nonempty⟩ := looked_for
    obtain ⟨picture, resolves, rfl⟩ := pictured signedIn email known nonempty
    refine ⟨some picture, shownAvatar_eq_ok_iff.mpr ⟨fun _ _ _ _ => ⟨picture, resolves, rfl⟩,
      fun empty => absurd (empty signedIn email known) nonempty⟩, fun _ => ?_⟩
    split
    · rename_i isEmpty
      rw [isEmpty]
      rfl
    · rfl
  · have empty : tiers.authenticated = true → ∀ email, record.email = some email → email = "" :=
      fun signedIn email known =>
        Classical.not_not.mp fun nonempty => looked_for ⟨signedIn, email, known, nonempty⟩
    refine ⟨none, shownAvatar_eq_ok_iff.mpr
      ⟨fun signedIn email known nonempty => absurd (empty signedIn email known) nonempty,
        fun _ => rfl⟩, fun signedIn => ?_⟩
    rw [faceless (empty signedIn)]

/-- A view is put together for a record if and only if what was gathered of it shows the caller
this view. -/
theorem Gathering.view_eq_ok_iff_shows {gathering : Gathering} {session : Session}
    {resolver : Record → Except Fault String} {record : Record} {view : UserView} :
    gathering.view session resolver record = .ok view ↔
      gathering.Shows session resolver record view := by
  rw [view_eq_ok_iff]
  constructor
  · rintro ⟨tiers, avatar, extras, decided, resolved, checked, rfl⟩
    obtain ⟨administrator, roles, rfl⟩ := Tiers.decide_eq_ok_iff.mp decided
    obtain ⟨found, missing⟩ := Record.shownAvatar_eq_ok_iff.mp resolved
    rw [Extras.check_eq_valid_iff, Tiers.includes_of_authenticated (by decide),
      Tiers.includes_of_privileged (by decide), Tiers.includes_of_privileged (by decide),
      Checked.optionalText_avatar] at checked
    obtain ⟨avatarChecked, groupsChecked, tokensChecked, managed⟩ := checked
    refine .shows roles rfl rfl (fun signedIn email known nonempty => ?_) (fun empty => ?_)
      (fun permitted => ?_) (fun permitted => ?_) managed
    · obtain ⟨picture, resolves, rfl⟩ := found signedIn email known nonempty
      rw [if_pos signedIn, Checked.valid.injEq] at avatarChecked
      refine ⟨picture, resolves, ?_⟩
      rw [← avatarChecked, Option.filter_some]
      by_cases isEmpty : picture = ""
      · rw [if_pos isEmpty, isEmpty]
        rfl
      · rw [if_neg isEmpty, if_pos (decide_eq_true isEmpty)]
    · rw [missing fun _ => empty] at avatarChecked
      split at avatarChecked
      · exact (Checked.valid.inj avatarChecked).symm
      · exact (Checked.valid.inj avatarChecked).symm
    · rw [if_pos permitted] at groupsChecked
      exact Checked.texts_eq_valid_iff.mp groupsChecked
    · rwa [if_pos permitted] at tokensChecked
  · rintro ⟨roles, signed_in, permitted, pictured, faceless, groups, tokens, managed⟩
    rename_i administrator tiers extras
    have decided : Tiers.decide session record.userId = .ok tiers :=
      Tiers.decide_eq_ok_iff.mpr ⟨administrator, roles, by rw [← signed_in, ← permitted]⟩
    obtain ⟨avatar, resolved, sameAvatar⟩ := Record.exists_shownAvatar pictured faceless
    have agree := extras.agreeOn_shownUnder tiers
    refine ⟨tiers, avatar, extras.shownUnder tiers, decided, resolved, ?_,
      (record.view_eq_view (record.agreeOn_refl tiers) agree).symm⟩
    rw [Extras.check_eq_valid_iff, Tiers.includes_of_authenticated (by decide),
      Tiers.includes_of_privileged (by decide), Tiers.includes_of_privileged (by decide),
      Checked.optionalText_avatar, Extras.shownUnder]
    refine ⟨?_, ?_, ?_, managed⟩
    · cases signedIn : tiers.authenticated with
      | false => rfl
      | true => exact congrArg Checked.valid (sameAvatar signedIn)
    · cases privileged : tiers.privileged with
      | false => rfl
      | true => exact Checked.texts_eq_valid_iff.mpr (groups privileged)
    · cases privileged : tiers.privileged with
      | false => rfl
      | true => exact tokens privileged

/-- A view that cannot be put together is the fault of what was gathered, or of the resolver of
avatars. -/
theorem Gathering.cause_of_view {gathering : Gathering} {session : Session}
    {resolver : Record → Except Fault String} {record : Record} {failure : SearchFailure}
    (failed : gathering.view session resolver record = .error failure) :
    ∃ fault, failure = .assembly fault ∨
      failure = .dependency ⟨.avatarResolver, .failed fault⟩ := by
  have assembly {α : Type} {outcome : Except Fault α}
      (failed : outcome.mapError .assembly = .error failure) :
      ∃ fault, failure = .assembly fault := by
    cases outcome with
    | error fault => exact ⟨fault, (Except.error.inj failed).symm⟩
    | ok value => cases failed
  rcases bind_eq_error_iff.mp failed with undecided | ⟨tiers, -, failed⟩
  · obtain ⟨fault, rfl⟩ := assembly undecided
    exact ⟨fault, Or.inl rfl⟩
  rcases bind_eq_error_iff.mp failed with unresolved | ⟨avatar, -, failed⟩
  · rw [Record.shownAvatar] at unresolved
    split at unresolved
    · split at unresolved
      · cases unresolved
      · exact ⟨_, Or.inr (Except.error.inj unresolved).symm⟩
    · cases unresolved
  rcases bind_eq_error_iff.mp failed with unchecked | ⟨extras, -, shown⟩
  · obtain ⟨fault, rfl⟩ := assembly unchecked
    exact ⟨fault, Or.inl rfl⟩
  · cases shown

end UserDirectory
