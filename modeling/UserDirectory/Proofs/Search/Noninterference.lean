/-
This file proves that a search tells its caller nothing that the caller may not
see. Two directories look the same to a session if they differ only in what the
session may not see of each record: beyond logins and names nothing for anonymous
callers, beyond the authenticated tier nothing for callers who have signed in, and
nothing at all on records that are the caller's own to see. Searching two
directories that look the same gives the same answer, although every private value
is fetched for every caller, at whatever pace and in whatever order.
-/

import UserDirectory.Proofs.Search.Directory
import UserDirectory.Proofs.Search.Views

namespace UserDirectory

/-! ### Directories that look the same -/

/-- Whether a session may see everything of the user with an identifier. -/
def Session.MaySeeAll (session : Session) (userId : String) : Prop :=
  session.isAdministrator = .ok true ∨ session.userId = .str userId

/-- Two records look the same to somebody who has signed in. The emails may differ as long as their
digests are the same. -/
structure Record.LooksLike (first second : Record) : Prop where
  userId : first.userId = second.userId
  isActive : first.isActive = second.isActive
  isLocal : first.isLocal = second.isLocal
  externalIdentityProvider : first.externalIdentityProvider = second.externalIdentityProvider
  scmAccounts : first.scmAccounts = second.scmAccounts
  digest : first.digest = second.digest

/-- Emails that differ in case alone have one digest, and no email counts as an empty one. -/
theorem Record.digest_congr {first second : Record}
    (same : (first.email.filter (· ≠ "")).map Text.lower =
      (second.email.filter (· ≠ "")).map Text.lower) : first.digest = second.digest := by
  have composed (record : Record) : record.digest =
      ((record.email.filter (· ≠ "")).map Text.lower).map Digest.hexOfText := by
    rw [Option.map_map]
    rfl
  rw [composed, composed, same]

/-- Two directories know the same of a user under a login: the record, the names of the groups in
any order, the number of tokens, and whether the user is managed. -/
structure Backends.KnowsAlike (first second : Backends) (login : String) (one other : Record) :
    Prop where
  record : one = other
  groups : ∀ names others, first.groupNames login = .ok names →
    second.groupNames login = .ok others → names.Perm others
  tokens : first.tokenCount one.userId = second.tokenCount one.userId
  managed : (first.provisioning? one.userId).isSome = (second.provisioning? one.userId).isSome

/-- Two directories look the same to a session: they store users under the same logins, and of the
two records of a login agrees what the session may see. -/
structure Backends.LooksLike (session : Session) (first second : Backends) : Prop where
  stored : ∀ login, (first.item? login).isSome = (second.item? login).isSome
  name : ∀ login one other, first.record? login = some one → second.record? login = some other →
    one.name = other.name
  signedIn : session.isLoggedIn = true → ∀ login one other, first.record? login = some one →
    second.record? login = some other → one.LooksLike other
  own : ∀ login one other, first.record? login = some one → second.record? login = some other →
    session.MaySeeAll one.userId → first.KnowsAlike second login one other

/-! ### One user of a page -/

theorem maySeeAll_of_privileged {session : Session} {userId : String} {tiers : Tiers}
    (decided : Tiers.decide session userId = .ok tiers) (privileged : tiers.privileged = true) :
    session.MaySeeAll userId := by
  obtain ⟨administrator, isAdministrator, rfl⟩ := Tiers.decide_eq_ok_iff.mp decided
  rcases Bool.or_eq_true_iff.mp privileged with holds | same
  · exact Or.inl (holds ▸ isAdministrator)
  · right
    cases identifier : session.userId with
    | str text =>
      rw [identifier] at same
      rw [Option.some.inj (beq_iff_eq.mp same)]
    | _ =>
      rw [identifier] at same
      cases same

theorem signedIn_of_authenticated {session : Session} {userId : String} {tiers : Tiers}
    (decided : Tiers.decide session userId = .ok tiers)
    (authenticated : tiers.authenticated = true) : session.isLoggedIn = true := by
  obtain ⟨administrator, _, rfl⟩ := Tiers.decide_eq_ok_iff.mp decided
  exact authenticated

theorem Service.manages_congr (service : Service) {first second : Backends} {userId : String}
    (same : (first.provisioning? userId).isSome = (second.provisioning? userId).isSome) :
    service.manages first userId = service.manages second userId := by
  unfold manages managedBy
  split
  · exact same
  · rfl
  · rfl

namespace Service

variable {service : Service} {criteria : Criteria} {session : Session} {first second : Backends}

/-- What a view shows of a user besides the record, read off the tables as far as it is shown. -/
structure Knows (service : Service) (backends : Backends) (tiers : Tiers) (login : String)
    (record : Record) (extras : Extras) : Prop where
  avatar : tiers.authenticated = true → extras.avatar = record.digest.filter (· ≠ "")
  groups : tiers.privileged = true → ∃ names, service.groupNames backends login = .ok names ∧
    Json.sort names = .ok (extras.groups.map .str)
  tokensCount : tiers.privileged = true →
    extras.tokensCount = some (service.tokenCount backends record.userId)
  isManaged : extras.isManaged = service.manages backends record.userId

theorem knows_of_view {backends : Backends} (resolves : service.avatar = Record.avatar)
    (tabular : backends.Tabular) {logins : List String} {gathering : Gathering}
    (reflects : service.Reflects backends logins gathering) {login : String}
    (member : login ∈ logins) {record : Record} (stored : backends.record? login = some record)
    {view : UserView} (viewed : gathering.view session service.avatar record = .ok view) :
    ∃ tiers extras, Tiers.decide session record.userId = .ok tiers ∧
      view = record.view tiers extras ∧ service.Knows backends tiers login record extras := by
  rw [resolves] at viewed
  obtain ⟨tiers, avatar, extras, decided, shown, checked, rfl⟩ :=
    Gathering.view_eq_ok_iff.mp viewed
  rw [Record.shownAvatar_avatar, Except.ok.injEq] at shown
  rw [reflects.tokens login member record stored, reflects.managed login member record stored,
    tabular.logins login record stored] at checked
  obtain ⟨avatars, names, counts, managed⟩ := Extras.check_eq_valid_iff.mp checked
  rw [Tiers.includes_of_authenticated (by decide)] at avatars
  rw [Tiers.includes_of_privileged (by decide)] at names counts
  refine ⟨tiers, extras, decided, rfl, fun authenticated => ?_, fun privileged => ?_,
    fun privileged => ?_, managed.symm⟩
  · rw [if_pos authenticated] at avatars shown
    rw [← shown, Checked.optionalText_avatar] at avatars
    exact (Checked.valid.inj avatars).symm
  · rw [if_pos privileged] at names
    obtain ⟨found, looked_up, sorted⟩ := reflects.groups login member
    rw [Checked.texts_eq_valid_iff.mp names] at sorted
    exact ⟨found, looked_up, sorted⟩
  · rw [if_pos privileged] at counts
    exact (Checked.valid.inj counts).symm

/-- Whatever was gathered of a user in two directories that look the same is shown alike. -/
theorem view_eq_view (resolves : service.avatar = Record.avatar)
    (looksLike : first.LooksLike session second) (firstTabular : first.Tabular)
    (secondTabular : second.Tabular) {logins : List String} {gathering others : Gathering}
    (reflects : service.Reflects first logins gathering)
    (reflectsOther : service.Reflects second logins others) {login : String}
    (member : login ∈ logins) {one other : Record} (stored : first.record? login = some one)
    (storedOther : second.record? login = some other) {view otherView : UserView}
    (viewed : gathering.view session service.avatar one = .ok view)
    (viewedOther : others.view session service.avatar other = .ok otherView) :
    view = otherView := by
  obtain ⟨tiers, extras, decided, rfl, knows⟩ :=
    knows_of_view resolves firstTabular reflects member stored viewed
  obtain ⟨otherTiers, otherExtras, otherDecided, rfl, otherKnows⟩ :=
    knows_of_view resolves secondTabular reflectsOther member storedOther viewedOther
  have signedIn (authenticated : tiers.authenticated = true) : one.LooksLike other :=
    looksLike.signedIn (signedIn_of_authenticated decided authenticated) login one other stored
      storedOther
  have own (privileged : tiers.privileged = true) : first.KnowsAlike second login one other :=
    looksLike.own login one other stored storedOther (maySeeAll_of_privileged decided privileged)
  have sameTiers := Tiers.decide_congr fun loggedIn =>
    (looksLike.signedIn loggedIn login one other stored storedOther).userId
  rw [decided, otherDecided, Except.ok.injEq] at sameTiers
  subst sameTiers
  refine Record.view_eq_view ⟨?_, looksLike.name login one other stored storedOther,
    fun authenticated => ?_, fun privileged => ?_⟩ ⟨fun authenticated => ?_, fun privileged => ?_,
      fun privileged => ?_, fun privileged => ?_⟩
  · rw [firstTabular.logins login one stored, secondTabular.logins login other storedOther]
  · have like := signedIn authenticated
    exact ⟨like.isActive, like.isLocal, like.externalIdentityProvider, like.scmAccounts⟩
  · rw [(own privileged).record]
    exact ⟨rfl, rfl, rfl⟩
  · rw [knows.avatar authenticated, otherKnows.avatar authenticated,
      (signedIn authenticated).digest]
  · obtain ⟨names, looked_up, sorted⟩ := knows.groups privileged
    obtain ⟨otherNames, otherLooked_up, otherSorted⟩ := otherKnows.groups privileged
    refine Json.eq_of_sort_of_perm ?_ sorted otherSorted
    rw [groupNames] at looked_up otherLooked_up
    cases enabled : service.groupsEnabled with
    | false =>
      rw [enabled] at looked_up otherLooked_up
      cases looked_up
      cases otherLooked_up
      exact List.Perm.refl _
    | true =>
      rw [enabled, if_pos rfl] at looked_up otherLooked_up
      exact (own privileged).groups names otherNames looked_up otherLooked_up
  · have alike := own privileged
    rw [knows.tokensCount privileged, otherKnows.tokensCount privileged, tokenCount, tokenCount,
      alike.tokens, alike.record]
  · have alike := own privileged
    rw [knows.isManaged, otherKnows.isManaged, service.manages_congr alike.managed, alike.record]

/-! ### Pages -/

/-- Two lists of what is stored for the same subjects, each viewed in its own way, have the same
views if what is stored for one subject has. -/
theorem views_eq_views {κ α β ε : Type} {value? other? : κ → Option α}
    {view otherView : α → Except ε β} {subjects : List κ}
    (stored : ∀ subject ∈ subjects, (value? subject).isSome = (other? subject).isSome)
    (same : ∀ subject ∈ subjects, ∀ value other, value? subject = some value →
      other? subject = some other → ∀ seen otherSeen, view value = .ok seen →
        otherView other = .ok otherSeen → seen = otherSeen)
    {values others : List β} (viewed : (subjects.filterMap value?).mapM view = .ok values)
    (viewedOther : (subjects.filterMap other?).mapM otherView = .ok others) : values = others := by
  induction subjects generalizing values others with
  | nil =>
    cases viewed
    cases viewedOther
    rfl
  | cons subject rest inductionHypothesis =>
    rw [List.forall_mem_cons] at stored same
    have present := stored.1
    cases value : value? subject with
    | none =>
      rw [value] at present
      have absent : other? subject = none :=
        Option.isNone_iff_eq_none.mp (Option.isSome_eq_false_iff.mp present.symm)
      rw [List.filterMap_cons_none value] at viewed
      rw [List.filterMap_cons_none absent] at viewedOther
      exact inductionHypothesis stored.2 same.2 viewed viewedOther
    | some found =>
      rw [value] at present
      obtain ⟨otherFound, otherValue⟩ := Option.isSome_iff_exists.mp present.symm
      rw [List.filterMap_cons_some value] at viewed
      rw [List.filterMap_cons_some otherValue] at viewedOther
      obtain ⟨seen, more, first, later, rfl⟩ := mapM_cons_eq_ok_iff.mp viewed
      obtain ⟨otherSeen, otherMore, otherFirst, otherLater, rfl⟩ :=
        mapM_cons_eq_ok_iff.mp viewedOther
      rw [same.1 found otherFound value otherValue seen otherSeen first otherFirst,
        inductionHypothesis stored.2 same.2 later otherLater]

/-- A login whose item is known to be a record has a record if and only if it has an item. -/
theorem isSome_record? {backends : Backends} {login : String}
    (accepted : ∀ item, backends.item? login = some item →
      ∃ record, Record.ofItem item = .ok record) :
    (backends.record? login).isSome = (backends.item? login).isSome := by
  rw [Backends.record?, valueOf?]
  cases stored : backends.item? login with
  | none => rfl
  | some item =>
    obtain ⟨record, read⟩ := accepted item stored
    rw [Option.bind_some, read]
    rfl

/-- The same answer of the index is read as the same page. -/
theorem eq_of_findsPage {page otherPage : IndexPage}
    (sameAnswer : first.index.content.answer (indexQuery criteria).toJson =
      second.index.content.answer (indexQuery criteria).toJson)
    (found : service.FindsPage criteria first page)
    (otherFound : service.FindsPage criteria second otherPage) : page = otherPage := by
  rw [FindsPage] at found otherFound
  split at found
  · rename_i on
    rw [if_pos on] at otherFound
    obtain ⟨answer, answered, checked⟩ := found
    obtain ⟨otherAnswer, otherAnswered, otherChecked⟩ := otherFound
    rw [sameAnswer, otherAnswered, Except.ok.injEq] at answered
    rw [answered, checked, Except.ok.injEq] at otherChecked
    exact otherChecked
  · rename_i off
    rw [if_neg off] at otherFound
    rw [found, otherFound]

/-- Searching two directories that look the same to a session, with the same answer of the index,
gives the same answer to the session wherever both searches succeed. -/
theorem search_eq_of_looksLike (resolves : service.avatar = Record.avatar)
    (firstTabular : first.Tabular) (secondTabular : second.Tabular)
    (sameAnswer : first.index.content.answer (indexQuery criteria).toJson =
      second.index.content.answer (indexQuery criteria).toJson)
    (looksLike : first.LooksLike session second) {response others : SearchResponse}
    (searched : (service.search criteria session first).2.outcome = .ok response)
    (searchedOther : (service.search criteria session second).2.outcome = .ok others) :
    response = others := by
  obtain ⟨page, gathering, users, gathered, viewed, rfl⟩ := gather_of_search searched
  obtain ⟨otherPage, otherGathering, otherUsers, otherGathered, otherViewed, rfl⟩ :=
    gather_of_search searchedOther
  have holds := service.meets_gather firstTabular (Or.inl trivial : True ∨ service.Ready criteria _)
  have otherHolds := service.meets_gather secondTabular
    (Or.inl trivial : True ∨ service.Ready criteria _)
  rw [gathered] at holds
  rw [otherGathered] at otherHolds
  obtain ⟨found, reflects⟩ := holds
  obtain ⟨otherFound, otherReflects⟩ := otherHolds
  have samePage : page = otherPage := eq_of_findsPage sameAnswer found otherFound
  subst samePage
  rw [Gathering.views, reflects.records] at viewed
  rw [Gathering.views, otherReflects.records] at otherViewed
  refine congrArg _ (views_eq_views (fun login member => ?_)
    (fun login member one other stored storedOther view otherView shown shownOther => ?_)
    viewed otherViewed)
  · rw [isSome_record? (reflects.accepted login member),
      isSome_record? (otherReflects.accepted login member), looksLike.stored]
  · exact view_eq_view resolves looksLike firstTabular secondTabular reflects otherReflects member
      stored storedOther shown shownOther

theorem sample_pairs {sample other : Sample} {login : String} {one others : Record}
    (stored : sample.backends.record? login = some one)
    (storedOther : other.backends.record? login = some others) :
    login = "ada" ∧ one = sample.first ∧ others = other.first ∨
      login = "cy" ∧ one = Sample.second ∧ others = Sample.second := by
  rcases Sample.record_cases stored with ⟨rfl, rfl⟩ | ⟨rfl, rfl⟩
  · rcases Sample.record_cases storedOther with ⟨_, rfl⟩ | ⟨different, _⟩
    · exact Or.inl ⟨rfl, rfl, rfl⟩
    · exact absurd different (by decide)
  · rcases Sample.record_cases storedOther with ⟨different, _⟩ | ⟨_, rfl⟩
    · exact absurd different (by decide)
    · exact Or.inr ⟨rfl, rfl, rfl⟩

/-- Small directories that differ only in what their first user does not show to strangers look the
same to the second user. -/
theorem sample_looksLike {sample other : Sample}
    (digest : sample.first.digest = other.first.digest)
    (managed : (sample.backends.provisioning? "u2").isSome =
      (other.backends.provisioning? "u2").isSome) :
    sample.backends.LooksLike (Sample.session []) other.backends := by
  refine ⟨fun login => ?_, fun login one others stored storedOther => ?_,
    fun _ login one others stored storedOther => ?_,
    fun login one others stored storedOther maySeeAll => ?_⟩
  · rw [Sample.item?_backends, Sample.item?_backends]
    split
    · rfl
    · rfl
  · rcases sample_pairs stored storedOther with ⟨_, rfl, rfl⟩ | ⟨_, rfl, rfl⟩
    · rfl
    · rfl
  · rcases sample_pairs stored storedOther with ⟨_, rfl, rfl⟩ | ⟨_, rfl, rfl⟩
    · exact ⟨rfl, rfl, rfl, rfl, rfl, digest⟩
    · exact ⟨rfl, rfl, rfl, rfl, rfl, rfl⟩
  · rcases sample_pairs stored storedOther with ⟨_, rfl, rfl⟩ | ⟨rfl, rfl, rfl⟩
    · rcases maySeeAll with administrator | self
      · cases administrator
      · exact absurd (Json.str.inj self) (show "u2" ≠ "u1" by decide)
    · refine ⟨rfl, fun names others named otherNamed => ?_, rfl, managed⟩
      cases named
      cases otherNamed
      exact List.Perm.refl _

/-- Two small directories as the second user sees them. -/
theorem sample_eq_of_looksLike :
    (Sample.backends {}).LooksLike (Sample.session []) Sample.disguised.backends ∧
    Sample.first {} ≠ Sample.disguised.first ∧
    ∃ response others, Sample.outcome {} [] = .ok response ∧
      Sample.disguised.outcome [] = .ok others ∧ response = others := by
  have looksLike :
      (Sample.backends {}).LooksLike (Sample.session []) Sample.disguised.backends :=
    sample_looksLike (Record.digest_congr (by decide +kernel)) (by decide +kernel)
  have searched : Sample.outcome {} [] = .ok (Sample.response ⟨true, false⟩) := by decide +kernel
  have searchedOther :
      Sample.disguised.outcome [] = .ok (Sample.response ⟨true, false⟩) := by decide +kernel
  refine ⟨looksLike, by decide +kernel, _, _, searched, searchedOther, ?_⟩
  exact search_eq_of_looksLike rfl (Sample.tabular {}) (Sample.tabular Sample.disguised) rfl
    looksLike searched searchedOther

end Service

end UserDirectory
