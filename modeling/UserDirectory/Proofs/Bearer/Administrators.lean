/-
This file says who is an administrator. The roles that make one are the segments
of a setting without the blanks around them, or two default roles if there is no
setting. Whether a caller holds one of them depends on the kind of document that
stands for its roles: a list holds its elements, and a text holds everything that
occurs in it. For either kind the question has an answer.
-/

import UserDirectory.Proofs.Text.Segments
import UserDirectory.Session

namespace UserDirectory

/-! ### The roles that make an administrator -/

/-- Whether a role makes an administrator. -/
inductive Environment.IsAdminRole (environment : Environment) (role : String) : Prop where
  /-- It is a segment of the setting without the blanks around it, and not nothing. -/
  | configured (setting : String) (segment : List Char)
    (isSet : environment.get? "SYSTEM_ADMIN_ROLES" = some setting)
    (isSegment : Text.IsSegment ',' segment setting.toList)
    (trimsTo : Text.TrimsTo Text.isBlank segment role.toList)
    (nonempty : role ≠ "")
  /-- There is no setting, or it is empty, and the role is one of two. -/
  | default
    (isUnset : environment.get? "SYSTEM_ADMIN_ROLES" = none ∨
      environment.get? "SYSTEM_ADMIN_ROLES" = some "")
    (isDefault : role = "Admin" ∨ role = "SuperAdmin")

namespace Environment

variable {environment : Environment} {role : String}

theorem IsAdminRole.ne_empty (isAdminRole : environment.IsAdminRole role) : role ≠ "" := by
  cases isAdminRole with
  | configured setting segment isSet isSegment trimsTo nonempty => exact nonempty
  | default isUnset isDefault => rcases isDefault with rfl | rfl <;> decide

theorem adminRoles_of_unset (isUnset : environment.get? "SYSTEM_ADMIN_ROLES" = none ∨
    environment.get? "SYSTEM_ADMIN_ROLES" = some "") :
    environment.adminRoles = ["Admin", "SuperAdmin"] := by
  rcases isUnset with isUnset | isUnset <;> rw [adminRoles, nonempty?, isUnset] <;> rfl

theorem adminRoles_of_set {setting : String}
    (isSet : environment.get? "SYSTEM_ADMIN_ROLES" = some setting) (nonempty : setting ≠ "") :
    environment.adminRoles = Text.listed setting := by
  rw [adminRoles, nonempty?, isSet, Option.filter_some_pos (by simpa using nonempty)]

/-- The roles that the settings name are those that make an administrator. -/
theorem mem_adminRoles_iff : role ∈ environment.adminRoles ↔ environment.IsAdminRole role := by
  constructor
  · intro member
    by_cases isUnset : environment.get? "SYSTEM_ADMIN_ROLES" = none ∨
        environment.get? "SYSTEM_ADMIN_ROLES" = some ""
    · rw [adminRoles_of_unset isUnset] at member
      exact .default isUnset (by simpa using member)
    · rw [not_or] at isUnset
      obtain ⟨setting, isSet⟩ := Option.ne_none_iff_exists'.mp isUnset.1
      have filled : setting ≠ "" := fun empty => isUnset.2 (by rw [isSet, empty])
      rw [adminRoles_of_set isSet filled, Text.mem_listed_iff] at member
      obtain ⟨nonempty, segment, isSegment, trimsTo⟩ := member
      exact .configured setting segment isSet isSegment trimsTo nonempty
  · intro isAdminRole
    cases isAdminRole with
    | configured setting segment isSet isSegment trimsTo nonempty =>
      have listed : role ∈ Text.listed setting :=
        Text.mem_listed_iff.mpr ⟨nonempty, segment, isSegment, trimsTo⟩
      have filled : setting ≠ "" := by
        rintro rfl
        cases listed
      rwa [adminRoles_of_set isSet filled]
    | default isUnset isDefault =>
      rw [adminRoles_of_unset isUnset]
      simpa using isDefault

/-- A setting of commas and blanks alone makes nobody an administrator. -/
theorem not_isAdminRole_of_blank {setting : String}
    (isSet : environment.get? "SYSTEM_ADMIN_ROLES" = some setting) (nonempty : setting ≠ "")
    (blank : ∀ c ∈ setting.toList, c = ',' ∨ Text.isBlank c = true) (role : String) :
    ¬ environment.IsAdminRole role := by
  intro isAdminRole
  cases isAdminRole with
  | configured other segment isOther isSegment trimsTo named =>
    cases isSet.symm.trans isOther
    obtain ⟨c, rest, characters⟩ :=
      List.exists_cons_of_ne_nil (fun empty => named (String.toList_eq_nil_iff.mp empty))
    obtain ⟨before, behind, split, _⟩ := trimsTo.around
    have inSegment : c ∈ segment := by simp [split, characters]
    have inSetting : c ∈ setting.toList := by
      obtain ⟨first, last, parts, _⟩ := isSegment.between
      simp [parts, inSegment]
    have notBlank : Text.isBlank c = false := trimsTo.first c (by rw [characters]; rfl)
    rcases blank c inSetting with rfl | isBlank
    · exact isSegment.unbroken inSegment
    · rw [notBlank] at isBlank
      cases isBlank
  | default isUnset isDefault =>
    rw [isSet] at isUnset
    simp [nonempty] at isUnset

end Environment

/-! ### Looking for a role -/

theorem Json.text?_eq_some_iff {document : Json} {text : String} :
    document.text? = some text ↔ document = .str text := by
  cases document <;> simp [Json.text?]

/-- A part of a text occurs in it. -/
theorem occursIn_iff {part text : List Char} : occursIn part text = true ↔ part <:+: text := by
  induction text with
  | nil => rw [occursIn, List.isEmpty_iff, List.infix_nil]
  | cons c rest inductionHypothesis =>
    rw [occursIn, Bool.or_eq_true, List.isPrefixOf_iff_prefix, inductionHypothesis,
      List.infix_cons_iff]

/-- If there is an answer for every role, it is an answer for all of them. -/
theorem search_eq {roles : Json} {holds : String → Bool}
    (each : ∀ role, hasRole roles role = .ok (holds role)) (wanted : List String) :
    hasAnyRole.search roles wanted = .ok (wanted.any holds) := by
  induction wanted with
  | nil => rfl
  | cons role rest inductionHypothesis =>
    rw [hasAnyRole.search, each, inductionHypothesis, List.any_cons]
    cases holds role <;> rfl

namespace Session

variable {environment : Environment} {caller : Caller}

/-- A caller is an administrator if it holds some role that makes one. -/
theorem isAdministrator_forCaller {holds : String → Bool} (present : caller.roles.isPresent = true)
    (each : ∀ role, hasRole caller.roles role = .ok (holds role)) :
    ∃ administrator, (forCaller environment caller).isAdministrator = .ok administrator ∧
      (administrator = true ↔ ∃ role, environment.IsAdminRole role ∧ holds role = true) := by
  refine ⟨environment.adminRoles.any holds, ?_, ?_⟩
  · rw [forCaller, isAdministrator]
    simp only [hasAnyRole, present, if_true]
    exact search_eq each environment.adminRoles
  · simp only [List.any_eq_true, Environment.mem_adminRoles_iff]

theorem isAdministrator_of_absent (absent : caller.roles.isPresent = false) :
    (forCaller environment caller).isAdministrator = .ok false := by
  simp [forCaller, isAdministrator, hasAnyRole, absent]

theorem isAdministrator_of_list {items : List Json} (roles : caller.roles = .arr items) :
    ∃ administrator, (forCaller environment caller).isAdministrator = .ok administrator ∧
      (administrator = true ↔ ∃ role, environment.IsAdminRole role ∧ Json.str role ∈ items) := by
  by_cases present : caller.roles.isPresent = true
  · have each (role : String) :
        hasRole caller.roles role = .ok (items.any fun item => item.text? == some role) := by
      rw [roles, hasRole]
    obtain ⟨administrator, answer, isTrue⟩ := isAdministrator_forCaller present each
    refine ⟨administrator, answer, isTrue.trans ?_⟩
    simp [Json.text?_eq_some_iff]
  · have empty : items = [] := by simpa [roles, Json.isPresent] using present
    refine ⟨false, isAdministrator_of_absent (Bool.eq_false_iff.mpr present), ?_⟩
    simp [empty]

theorem isAdministrator_of_text {text : String} (roles : caller.roles = .str text) :
    ∃ administrator, (forCaller environment caller).isAdministrator = .ok administrator ∧
      (administrator = true ↔
        ∃ role, environment.IsAdminRole role ∧ role.toList <:+: text.toList) := by
  by_cases present : caller.roles.isPresent = true
  · have each (role : String) :
        hasRole caller.roles role = .ok (occursIn role.toList text.toList) := by
      rw [roles, hasRole]
    obtain ⟨administrator, answer, isTrue⟩ := isAdministrator_forCaller present each
    refine ⟨administrator, answer, isTrue.trans ?_⟩
    simp only [occursIn_iff]
  · have empty : text = "" := by simpa [roles, Json.isPresent] using present
    refine ⟨false, isAdministrator_of_absent (Bool.eq_false_iff.mpr present), nofun, ?_⟩
    rintro ⟨role, isAdminRole, occurs⟩
    rw [empty] at occurs
    exact absurd (String.toList_eq_nil_iff.mp (List.infix_nil.mp occurs)) isAdminRole.ne_empty

end Session

end UserDirectory
