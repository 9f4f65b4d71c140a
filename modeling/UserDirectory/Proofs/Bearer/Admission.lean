/-
This file says which tokens are admitted and what they are good for. A token that
its key vouches for and whose times and issuer hold is admitted if it was made for
the application and says who the caller is, and rejected otherwise. Its caller has
signed in. The fields of the privileged tier of a user are for the user and for
administrators. Who is an administrator is told by the roles in the token: a list
holds its elements, while of a single text every part counts.
-/

import UserDirectory.Bearer.Validator
import UserDirectory.Proofs.Bearer.Administrators
import UserDirectory.Proofs.Search.Views
import UserDirectory.Web.SearchRequest

namespace UserDirectory

namespace Claims

/-! ### What claims say -/

/-- The claims that are looked at are of the kinds that their names promise. A claim that is missing
is null. -/
structure AreOfKind (claims : Json) : Prop where
  audience : claim claims "aud" = .null ∨ (∃ text, claim claims "aud" = .str text) ∨
    ∃ items, claim claims "aud" = .arr items
  email : claim claims "email" = .null ∨ ∃ text, claim claims "email" = .str text
  preferredUsername : claim claims "preferred_username" = .null ∨
    ∃ text, claim claims "preferred_username" = .str text
  roles : claim claims "roles" = .null ∨ ∃ items, claim claims "roles" = .arr items

/-- Whether claims name the application or its interface as their audience, or among others. -/
def AreMeantFor (registration : Registration) (claims : Json) : Prop :=
  ∃ audience, (audience = registration.client ∨ audience = "api://" ++ registration.client) ∧
    (claim claims "aud" = .str audience ∨
      ∃ items, claim claims "aud" = .arr items ∧ .str audience ∈ items)

/-- Whether claims say who the caller is. -/
def NameCaller (claims : Json) : Prop :=
  (claim claims "oid").isPresent = true ∨ (claim claims "sub").isPresent = true

/-- Whether a user is the one that claims speak of. -/
def Identify (claims : Json) (userId : String) : Prop :=
  if (claim claims "oid").isPresent then claim claims "oid" = .str userId
  else claim claims "sub" = .str userId

/-- Whether claims list a role. -/
def ListRole (claims : Json) (role : String) : Prop :=
  ∃ items, claim claims "roles" = .arr items ∧ .str role ∈ items

variable {registration : Registration} {claims : Json}

theorem isPresent_identity : (identity claims).isPresent = true ↔ NameCaller claims := by
  rw [identity, Json.orElse, NameCaller]
  by_cases present : (claim claims "oid").isPresent = true
  · simp [present]
  · simp [present]

theorem identity_eq_iff {userId : String} :
    identity claims = .str userId ↔ Identify claims userId := by
  rw [identity, Json.orElse, Identify]
  split <;> rfl

/-- A single audience is as good as a list of one. -/
theorem exists_audiences (ofKind : AreOfKind claims) :
    ∃ listed, audiences claims = .ok listed ∧ ∀ audience, .str audience ∈ listed ↔
      claim claims "aud" = .str audience ∨
        ∃ items, claim claims "aud" = .arr items ∧ .str audience ∈ items := by
  unfold audiences
  rcases ofKind.audience with absent | ⟨text, isText⟩ | ⟨items, isList⟩
  · rw [absent]
    exact ⟨[], rfl, by simp⟩
  · rw [isText]
    exact ⟨[.str text], rfl, by simp [eq_comm]⟩
  · rw [isList]
    by_cases present : (Json.arr items).isPresent = true
    · exact ⟨items, if_pos present, by simp⟩
    · have empty : items = [] := by simpa [Json.isPresent] using present
      exact ⟨[], if_neg present, by simp [empty]⟩

theorem exists_email (ofKind : AreOfKind claims) : ∃ address, email claims = .ok address := by
  have ofKinds : (claim claims "email").orElse (claim claims "preferred_username") = .null ∨
      ∃ text, (claim claims "email").orElse (claim claims "preferred_username") = .str text := by
    rw [Json.orElse]
    split
    · exact ofKind.email
    · exact ofKind.preferredUsername
  unfold email
  rcases ofKinds with absent | ⟨text, isText⟩
  · rw [absent]
    exact ⟨.str "", rfl⟩
  · simp only [isText]
    split <;> exact ⟨_, rfl⟩

/-! ### The caller -/

/-- The caller as far as the claims say. -/
def described (claims address : Json) : Caller where
  userId := identity claims
  email := address
  name := displayName claims
  roles := (claims.member? "roles").getD (.arr [])
  picture := claim claims "picture"

/-- The roles of a caller are those of the claims. -/
theorem roles_described {roles : Json} (isClaim : claim claims "roles" = roles)
    (notNull : roles ≠ .null) (address : Json) : (described claims address).roles = roles := by
  rw [claim] at isClaim
  rw [described]
  cases there : claims.member? "roles" with
  | none =>
    rw [there] at isClaim
    exact absurd isClaim.symm notNull
  | some document => rwa [there] at isClaim

theorem roles_described_of_null (isNull : claim claims "roles" = .null) (address : Json) :
    (described claims address).roles.isPresent = false := by
  rw [claim] at isNull
  rw [described]
  cases there : claims.member? "roles" with
  | none => rfl
  | some document =>
    rw [there] at isNull
    cases isNull
    rfl

theorem isAdministrator_described (ofKind : AreOfKind claims) (environment : Environment)
    (address : Json) :
    ∃ administrator,
      (Session.forCaller environment (described claims address)).isAdministrator =
        .ok administrator ∧
      (administrator = true ↔
        ∃ role, environment.IsAdminRole role ∧ ListRole claims role) := by
  rcases ofKind.roles with absent | ⟨items, isList⟩
  · exact ⟨false, Session.isAdministrator_of_absent (roles_described_of_null absent address),
      by simp [ListRole, absent]⟩
  · obtain ⟨administrator, answer, isTrue⟩ :=
      Session.isAdministrator_of_list (roles_described isList nofun address)
    exact ⟨administrator, answer, isTrue.trans (by simp [ListRole, isList])⟩

/-- Whether a document is an audience that the application expects. -/
def expects (registration : Registration) (audience : Json) : Bool :=
  registration.audiences.any fun expected => audience.text? == some expected

theorem caller_eq {listed : List Json} (isListed : audiences claims = .ok listed) :
    caller registration claims =
      if listed.any (expects registration) then
        if (identity claims).isPresent then
          ((email claims).mapError .fault).map (described claims)
        else .error (.rejected .noIdentity)
      else .error (.rejected (.foreignAudience registration.audiences)) := by
  have isMeant : (listed.any fun audience => registration.audiences.any fun expected =>
      audience.text? == some expected) = listed.any (expects registration) := rfl
  -- What can still go wrong is the address, and it is looked at last.
  have known : (.ok listed : Except Fault (List Json)).mapError TokenFailure.fault = .ok listed :=
    rfl
  rw [caller, isListed, known]
  simp only [bind, Except.bind, isMeant]
  cases listed.any (expects registration) <;> cases (identity claims).isPresent <;>
    cases email claims <;> rfl

/-- A caller is what the claims say of it. -/
theorem described_of_caller {person : Caller} (admitted : caller registration claims = .ok person) :
    ∃ address, person = described claims address := by
  cases isListed : audiences claims with
  | error fault =>
    rw [caller, isListed] at admitted
    cases admitted
  | ok listed =>
    rw [caller_eq isListed] at admitted
    split at admitted
    · split at admitted
      · obtain ⟨address, _, same⟩ := map_eq_ok_iff.mp admitted
        exact ⟨address, same.symm⟩
      · cases admitted
    · cases admitted

/-- Claims are those of a caller, or they are wrong in one of two ways. Of two complaints, the one
about the audience is made. -/
theorem caller_cases (ofKind : AreOfKind claims) :
    (AreMeantFor registration claims ∧ NameCaller claims ∧
      ∃ address, caller registration claims = .ok (described claims address)) ∨
    (¬ AreMeantFor registration claims ∧
      caller registration claims =
        .error (.rejected (.foreignAudience registration.audiences))) ∨
    (AreMeantFor registration claims ∧ ¬ NameCaller claims ∧
      caller registration claims = .error (.rejected .noIdentity)) := by
  obtain ⟨listed, isListed, mem_listed⟩ := exists_audiences ofKind
  obtain ⟨address, isAddress⟩ := exists_email ofKind
  have isMeant : listed.any (expects registration) = true ↔ AreMeantFor registration claims := by
    simp only [AreMeantFor, expects, ← mem_listed, Registration.audiences, List.any_eq_true,
      beq_iff_eq, Json.text?_eq_some_iff, List.mem_cons, List.not_mem_nil, or_false]
    exact ⟨fun ⟨_, member, audience, expected, same⟩ => ⟨audience, expected, same ▸ member⟩,
      fun ⟨audience, expected, member⟩ => ⟨_, member, audience, expected, rfl⟩⟩
  rw [caller_eq isListed, isAddress, ← isMeant, ← isPresent_identity]
  by_cases meant : listed.any (expects registration) = true
  · by_cases named : (identity claims).isPresent = true
    · exact Or.inl ⟨meant, named, address, by rw [if_pos meant, if_pos named]; rfl⟩
    · exact Or.inr (Or.inr ⟨meant, named, by rw [if_pos meant, if_neg named]⟩)
  · exact Or.inr (Or.inl ⟨meant, by rw [if_neg meant]⟩)

/-! ### What a caller may see -/

/-- The privileged tier of a user is for the user and for administrators. -/
theorem privilege_described (ofKind : AreOfKind claims) (environment : Environment)
    (address : Json) (userId : String) :
    ∃ tiers, Tiers.decide (Session.forCaller environment (described claims address)) userId =
        .ok tiers ∧
      (tiers.privileged = true ↔ Identify claims userId ∨
        ∃ role, environment.IsAdminRole role ∧ ListRole claims role) := by
  obtain ⟨administrator, answer, isTrue⟩ := isAdministrator_described ofKind environment address
  refine ⟨_, Tiers.decide_eq_ok_iff.mpr ⟨administrator, answer, rfl⟩, ?_⟩
  rw [Bool.or_eq_true, isTrue, beq_iff_eq, Json.text?_eq_some_iff, or_comm, ← identity_eq_iff]
  rfl

end Claims

/-! ### From a token to what it is good for -/

/-- A token can be decoded: it is well-formed, a published key vouches for it, and its times and its
issuer hold. -/
structure Validator.Decodes (validator : Validator) (publication : Publication) (now : Int)
    (token : BearerToken) : Prop where
  wellFormed : token.isWellFormed = true
  vouched : ∃ known, validator.knownKeys publication = .ok known ∧
    isVouchedFor token known = true
  checked : Claims.check validator.registration now token.claims = .ok ()

namespace Validator

variable {validator : Validator} {publication : Publication} {now : Int} {token : BearerToken}

theorem outcome_of_decodes (decodes : validator.Decodes publication now token) :
    (validator.validate publication now (some token)).outcome =
      Claims.caller validator.registration token.claims := by
  obtain ⟨wellFormed, ⟨known, isKnown, vouched⟩, checked⟩ := decodes
  have accepted : accept validator.registration now token.claims =
      Claims.caller validator.registration token.claims := by
    rw [accept, checked]
    rfl
  rw [validate, if_pos wellFormed, isKnown, ← accepted]
  exact if_pos vouched

/-- Only a token that can be decoded brings a caller. -/
theorem decodes_of_validate {caller : Caller}
    (admitted : (validator.validate publication now (some token)).outcome = .ok caller) :
    validator.Decodes publication now token := by
  rw [validate] at admitted
  split at admitted
  · rename_i wellFormed
    obtain ⟨known, isKnown, admitted⟩ := bind_eq_ok_iff.mp admitted
    split at admitted
    · rename_i vouched
      obtain ⟨_, checked, _⟩ := bind_eq_ok_iff.mp admitted
      exact ⟨wellFormed, ⟨known, mapError_eq_ok_iff.mp isKnown, vouched⟩,
        mapError_eq_ok_iff.mp checked⟩
    · cases admitted
  · cases admitted

/-- What a token that can be decoded is good for. It brings a caller if it was made for the
application and says who the caller is; otherwise the answer says what is wrong, the audience
first. The caller has signed in, and sees the privileged tier of itself and, if it holds a role that
makes an administrator, of everybody. A setting of commas and blanks alone makes nobody one. -/
theorem privilege_of_token (decodes : validator.Decodes publication now token)
    (ofKind : Claims.AreOfKind token.claims) (environment : Environment) :
    let outcome := (validator.validate publication now (some token)).outcome
    let meant := Claims.AreMeantFor validator.registration token.claims
    let named := Claims.NameCaller token.claims
    ((∃ caller, outcome = .ok caller) ↔ meant ∧ named) ∧
    (¬ meant →
      outcome = .error (.rejected (.foreignAudience validator.registration.audiences))) ∧
    (meant → ¬ named → outcome = .error (.rejected .noIdentity)) ∧
    (∀ failure, outcome = .error failure → failure.response.status = 401) ∧
    ∀ caller, outcome = .ok caller →
      (Session.forCaller environment caller).isLoggedIn = true ∧
      ∀ target : Record, ∃ tiers,
        Tiers.decide (Session.forCaller environment caller) target.userId = .ok tiers ∧
        (tiers.privileged = true ↔
          Claims.Identify token.claims target.userId ∨
            ∃ role, environment.IsAdminRole role ∧ Claims.ListRole token.claims role) ∧
        ∀ setting, environment.get? "SYSTEM_ADMIN_ROLES" = some setting → setting ≠ "" →
          (∀ c ∈ setting.toList, c = ',' ∨ Text.isBlank c = true) →
            (tiers.privileged = true ↔ Claims.Identify token.claims target.userId) := by
  simp only [outcome_of_decodes decodes]
  rcases Claims.caller_cases ofKind with
    ⟨meant, named, address, isCaller⟩ | ⟨foreign, rejected⟩ | ⟨meant, nameless, rejected⟩
  · rw [isCaller]
    refine ⟨iff_of_true ⟨_, rfl⟩ ⟨meant, named⟩, absurd meant, fun _ => absurd named, nofun,
      fun caller same => ?_⟩
    cases same
    refine ⟨rfl, fun target => ?_⟩
    obtain ⟨tiers, decided, privileged⟩ :=
      Claims.privilege_described ofKind environment address target.userId
    refine ⟨tiers, decided, privileged, fun setting isSet nonempty blank =>
      privileged.trans (or_iff_left ?_)⟩
    rintro ⟨role, isAdminRole, _⟩
    exact Environment.not_isAdminRole_of_blank isSet nonempty blank role isAdminRole
  · rw [rejected]
    refine ⟨iff_of_false nofun fun both => foreign both.1, fun _ => rfl,
      fun meant => absurd meant foreign, fun failure failed => ?_, nofun⟩
    cases failed
    rfl
  · rw [rejected]
    refine ⟨iff_of_false nofun fun both => nameless both.2, absurd meant, fun _ _ => rfl,
      fun failure failed => ?_, nofun⟩
    cases failed
    rfl

/-- A token for the interface of an application, signed by a key of its tenant. -/
def Sample.bearer (roles : Json) : BearerToken where
  header := .obj [("alg", .str "RS256"), ("kid", .str "k1")]
  claims := .obj [("aud", .arr [.str "other", .str "api://cid"]),
    ("iss", .str "https://login.microsoftonline.com/tid/v2.0"), ("exp", .int 4102444800),
    ("oid", .str "u1"), ("email", .str "Ada@example.com"), ("roles", roles)]
  signature := .byKey "k1"

/-- What becomes of the token when its key has to be looked up. -/
def Sample.outcome (roles : Json) : Except TokenFailure Caller :=
  (validate ⟨⟨"tid", "cid"⟩, none⟩ (.keys ["k1"]) 0 (some (Sample.bearer roles))).outcome

/-- Somebody else's record is open to an auditor where auditors are administrators. -/
theorem sample_privilege_of_token :
    Decodes ⟨⟨"tid", "cid"⟩, none⟩ (.keys ["k1"]) 0 (Sample.bearer (.arr [.str "Auditor"])) ∧
    Claims.AreOfKind (Sample.bearer (.arr [.str "Auditor"])).claims ∧
    ∃ caller, Sample.outcome (.arr [.str "Auditor"]) = .ok caller ∧
      ∀ target : Record, ∃ tiers,
        Tiers.decide (Session.forCaller ⟨[("SYSTEM_ADMIN_ROLES", " Root ,, Auditor")]⟩ caller)
          target.userId = .ok tiers ∧ tiers.privileged = true := by
  have decodes : Decodes ⟨⟨"tid", "cid"⟩, none⟩ (.keys ["k1"]) 0
      (Sample.bearer (.arr [.str "Auditor"])) :=
    ⟨rfl, ⟨["k1"], rfl, rfl⟩, rfl⟩
  have ofKind : Claims.AreOfKind (Sample.bearer (.arr [.str "Auditor"])).claims :=
    ⟨Or.inr (Or.inr ⟨_, rfl⟩), Or.inr ⟨_, rfl⟩, Or.inl rfl, Or.inr ⟨_, rfl⟩⟩
  obtain ⟨caller, isCaller⟩ : ∃ caller, Sample.outcome (.arr [.str "Auditor"]) = .ok caller :=
    ⟨_, rfl⟩
  obtain ⟨-, -, -, -, good⟩ := privilege_of_token decodes ofKind
    ⟨[("SYSTEM_ADMIN_ROLES", " Root ,, Auditor")]⟩
  refine ⟨decodes, ofKind, caller, isCaller, fun target => ?_⟩
  obtain ⟨tiers, decided, privileged, -⟩ := (good caller isCaller).2 target
  refine ⟨tiers, decided, privileged.mpr (Or.inr ⟨"Auditor", ?_, ?_⟩)⟩
  · exact Environment.mem_adminRoles_iff.mp (by decide)
  · exact ⟨_, rfl, List.mem_singleton_self _⟩

/-! ### Roles that are a single text -/

/-- Who is an administrator by a list of roles, and by a text in their place. The list must hold a
role that makes one. So does the text if it is such a role, but also if such a role is only a part
of it. -/
theorem administrator_of_token {caller : Caller}
    (admitted : (validator.validate publication now (some token)).outcome = .ok caller)
    (environment : Environment) :
    (∀ texts : List String, Claims.claim token.claims "roles" = .arr (texts.map .str) →
      ∃ administrator,
        (Session.forCaller environment caller).isAdministrator = .ok administrator ∧
        (administrator = true ↔ ∃ role ∈ texts, environment.IsAdminRole role)) ∧
    ∀ text, Claims.claim token.claims "roles" = .str text →
      ∃ administrator,
        (Session.forCaller environment caller).isAdministrator = .ok administrator ∧
        (administrator = true ↔ environment.IsAdminRole text ∨
          ∃ role, environment.IsAdminRole role ∧ role ≠ text ∧ role.toList <:+: text.toList) := by
  rw [outcome_of_decodes (decodes_of_validate admitted)] at admitted
  obtain ⟨address, rfl⟩ := Claims.described_of_caller admitted
  refine ⟨fun texts isList => ?_, fun text isText => ?_⟩
  · obtain ⟨administrator, answer, isTrue⟩ :=
      Session.isAdministrator_of_list (Claims.roles_described isList nofun address)
    refine ⟨administrator, answer, isTrue.trans ?_⟩
    simp [and_comm]
  · obtain ⟨administrator, answer, isTrue⟩ :=
      Session.isAdministrator_of_text (Claims.roles_described isText nofun address)
    refine ⟨administrator, answer, isTrue.trans ⟨?_, ?_⟩⟩
    · rintro ⟨role, isAdminRole, occurs⟩
      by_cases whole : role = text
      · exact Or.inl (whole ▸ isAdminRole)
      · exact Or.inr ⟨role, isAdminRole, whole, occurs⟩
    · rintro (isAdminRole | ⟨role, isAdminRole, _, occurs⟩)
      · exact ⟨text, isAdminRole, List.infix_rfl⟩
      · exact ⟨role, isAdminRole, occurs⟩

/-- A text that is the role of an administrator. -/
theorem sample_administrator_of_token : ∃ caller, Sample.outcome (.str "Admin") = .ok caller ∧
    (Session.forCaller ⟨[]⟩ caller).isAdministrator = .ok true := by
  obtain ⟨caller, isCaller⟩ : ∃ caller, Sample.outcome (.str "Admin") = .ok caller := ⟨_, rfl⟩
  obtain ⟨administrator, answer, isTrue⟩ :=
    (administrator_of_token isCaller ⟨[]⟩).2 "Admin" rfl
  have isAdminRole : Environment.IsAdminRole ⟨[]⟩ "Admin" :=
    Environment.mem_adminRoles_iff.mp (by decide)
  exact ⟨caller, isCaller, isTrue.mpr (Or.inl isAdminRole) ▸ answer⟩

/-- A text that is no role of an administrator and makes one all the same. -/
theorem administrator_by_part_of_text : ∃ caller, Sample.outcome (.str "NotAdmin") = .ok caller ∧
    (Session.forCaller ⟨[]⟩ caller).isAdministrator = .ok true ∧
    ¬ Environment.IsAdminRole ⟨[]⟩ "NotAdmin" := by
  obtain ⟨caller, isCaller, roles⟩ : ∃ caller, Sample.outcome (.str "NotAdmin") = .ok caller ∧
      caller.roles = .str "NotAdmin" := ⟨_, rfl, rfl⟩
  refine ⟨caller, isCaller, ?_, fun isAdminRole => ?_⟩
  · rw [Session.isAdministrator]
    simp only [Session.forCaller, roles]
    rfl
  · exact absurd (Environment.mem_adminRoles_iff.mpr isAdminRole) (by decide)

end Validator

end UserDirectory
