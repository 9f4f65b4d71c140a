/-
This file says which stored items are records and what is said of the others. An
item is taken member by member: a member may be absent, null or empty where a record
has a value for that, and must otherwise be of its kind. Of an item that is no
record one fault is told. The user must be named first; then there must be accounts
to list, and then a date that can be read; and only of an item that comes so far are
the kinds of all members looked at, and all that are wrong are told together.
-/

import Mathlib.Data.List.Basic
import UserDirectory.Proofs.Concurrent.Calls
import UserDirectory.Proofs.Json.Checking
import UserDirectory.Record

namespace UserDirectory

/-! ### Members of a record -/

/-- A name that may be absent or null. -/
inductive GivesName : Option Json → Option String → Prop where
  | absent : GivesName none none
  | null : GivesName (some .null) none
  | text (name : String) : GivesName (some (.str name)) (some name)

/-- The words that mean a truth value, in lower case. -/
def flagWords : Bool → List String
  | false => ["0", "off", "f", "false", "n", "no"]
  | true => ["1", "on", "t", "true", "y", "yes"]

/-- A text in lower case, as far as its letters are those of English. -/
def plainWord (text : String) : String :=
  String.ofList (text.toList.map Char.toLower)

/-- The whole number that a number is, if it is one. -/
def Json.wholeNumber? : Json → Option Int
  | .int value => some value
  | .float value => value.whole?
  | _ => none

/-- A document means a truth value: it is that value, or zero or one, or a word. -/
inductive Json.MeansFlag : Json → Bool → Prop where
  | flag (flag : Bool) : MeansFlag (.bool flag) flag
  | number {document : Json} {flag : Bool} (whole : document.wholeNumber? = some flag.toInt) :
    MeansFlag document flag
  | word {text : String} {flag : Bool} (spells : plainWord text ∈ flagWords flag) :
    MeansFlag (.str text) flag

/-- A truth value that may be absent, which sets it. -/
inductive GivesFlag : Option Json → Bool → Prop where
  | absent : GivesFlag none true
  | means {document : Json} {flag : Bool} (means : document.MeansFlag flag) :
    GivesFlag (some document) flag

/-- Accounts that may be absent or empty, and are a list of texts, or the characters of a text, or
the names of an object. -/
inductive GivesAccounts : Option Json → List String → Prop where
  | absent : GivesAccounts none []
  | empty {document : Json} (empty : document.isPresent = false) :
    GivesAccounts (some document) []
  | texts (accounts : List String) : GivesAccounts (some (.arr (accounts.map .str))) accounts
  | characters (text : String) :
    GivesAccounts (some (.str text)) (text.toList.map Char.toString)
  | names (members : List (String × Json)) :
    GivesAccounts (some (.obj members)) (members.map (·.1))

/-- A date that may be absent or empty. -/
inductive GivesDate : Option Json → Option Timestamp → Prop where
  | absent : GivesDate none none
  | empty {document : Json} (empty : document.isPresent = false) : GivesDate (some document) none
  | moment {text : String} {moment : Timestamp} (read : Timestamp.parse text = .ok moment) :
    GivesDate (some (.str text)) (some moment)

/-- An item is a record, member by member. -/
structure Record.IsStoredAs (record : Record) (item : Json) : Prop where
  userId : item.member? "userId" = some (.str record.userId)
  login : item.member? "login" = some (.str record.login)
  name : GivesName (item.member? "name") record.name
  email : GivesName (item.member? "email") record.email
  isActive : GivesFlag (item.member? "active") record.isActive
  isLocal : GivesFlag (item.member? "local") record.isLocal
  externalLogin : GivesName (item.member? "externalLogin") record.externalLogin
  externalIdentityProvider :
    GivesName (item.member? "externalIdentityProvider") record.externalIdentityProvider
  scmAccounts : GivesAccounts (item.member? "scmAccounts") record.scmAccounts
  lastConnection : GivesDate (item.member? "lastConnectionDate") record.lastConnection

/-! ### What is wrong with an item -/

/-- Whether a document is made of elements. -/
def Json.hasElements : Json → Bool
  | .str _ | .arr _ | .obj _ => true
  | _ => false

/-- What a member is to be. -/
inductive MemberKind where
  /-- A text. -/
  | text
  /-- A text, or null, or nothing. -/
  | optionalText
  /-- A truth value, or nothing. -/
  | flag

/-- What is wrong with a whole number that is to mean a truth value. One that is too large for a
word is not even taken for an attempt at one. -/
def numberDefect? (number : Int) : Option Defect :=
  if number = 0 ∨ number = 1 then none
  else if Checked.fitsWord number then some .unreadableFlag
  else some .notFlag

/-- What is wrong with a document that is to mean a truth value. -/
def Json.flagDefect? : Json → Option Defect
  | .bool _ => none
  | .int value => numberDefect? value
  | .float value =>
    match value.whole? with
    | some number => numberDefect? number
    | none => some .notFlag
  | .str text =>
    if plainWord text ∈ flagWords false ∨ plainWord text ∈ flagWords true then none
    else some .unreadableFlag
  | _ => some .notFlag

/-- What is wrong with a member that is to be of some kind. -/
def MemberKind.defect? : MemberKind → Option Json → Option Defect
  | .text, some (.str _) => none
  | .text, _ => some .notText
  | .optionalText, none => none
  | .optionalText, some .null => none
  | .optionalText, some (.str _) => none
  | .optionalText, some _ => some .notText
  | .flag, none => none
  | .flag, some document => document.flagDefect?

/-- The members that are fields of a record as they stand, in the order of the fields: the field,
the member, and what it is to be. -/
def plainMembers : List (String × String × MemberKind) :=
  [("user_id", "userId", .text), ("login", "login", .text), ("name", "name", .optionalText),
    ("email", "email", .optionalText), ("active", "active", .flag), ("local", "local", .flag),
    ("external_login", "externalLogin", .optionalText),
    ("external_identity_provider", "externalIdentityProvider", .optionalText)]

/-- What is wrong with the accounts of a list: those that are no texts. -/
def accountProblems : Option Json → List FieldProblem
  | some (.arr accounts) => accounts.zipIdx.filterMap fun (account, position) =>
      if account.text?.isSome then none
      else some ⟨[.field "scm_accounts", .index position], .notText⟩
  | _ => []

/-- Everything that is wrong with the kinds of the members of an item, in the order of the fields of
a record. -/
def Json.illTyped (item : Json) : List FieldProblem :=
  (plainMembers.flatMap fun (field, member, kind) =>
    ((kind.defect? (item.member? member)).map fun defect => ⟨[.field field], defect⟩).toList) ++
      accountProblems (item.member? "scmAccounts")

/-- An item names its user. -/
def Json.NamesUser (item : Json) : Prop :=
  (item.member? "userId").isSome ∧ (item.member? "login").isSome

/-- An item has accounts to list, if it has any. -/
def Json.ListsAccounts (item : Json) : Prop :=
  ∀ accounts, item.member? "scmAccounts" = some accounts → accounts.isPresent = true →
    accounts.hasElements = true

/-- The first thing that keeps an item from being a record. -/
inductive Json.FailsFirst (item : Json) : Fault → Prop where
  | noUserId (absent : item.member? "userId" = none) : item.FailsFirst (.missing "userId")
  | noLogin (known : (item.member? "userId").isSome) (absent : item.member? "login" = none) :
    item.FailsFirst (.missing "login")
  | noList (named : item.NamesUser) {accounts : Json}
    (given : item.member? "scmAccounts" = some accounts) (present : accounts.isPresent = true)
    (single : accounts.hasElements = false) : item.FailsFirst .unsuitable
  | noText (named : item.NamesUser) (listed : item.ListsAccounts) {date : Json}
    (given : item.member? "lastConnectionDate" = some date) (present : date.isPresent = true)
    (other : date.text? = none) : item.FailsFirst .lacksMember
  | noMoment (named : item.NamesUser) (listed : item.ListsAccounts) {text : String}
    {problem : Timestamp.Problem} (given : item.member? "lastConnectionDate" = some (.str text))
    (nonempty : text ≠ "") (unread : Timestamp.parse text = .error problem) :
    item.FailsFirst (.timestamp problem)
  | illTyped (named : item.NamesUser) (listed : item.ListsAccounts)
    (dated : ∃ moment, GivesDate (item.member? "lastConnectionDate") moment)
    (wrong : item.illTyped ≠ []) : item.FailsFirst (.malformed item.illTyped)

/-! ### Single members -/

open Checked

theorem givesName_iff {member : Option Json} {name : Option String} :
    GivesName member name ↔ optionalText (member.getD .null) = .valid name := by
  constructor
  · rintro (_ | _ | _) <;> rfl
  · intro checked
    cases member with
    | none =>
      cases checked
      exact .absent
    | some document =>
      cases document with
      | null =>
        cases checked
        exact .null
      | str text =>
        cases checked
        exact .text text
      | _ => cases checked

theorem numericFlag_eq_valid_iff {value : Int} {flag : Bool} :
    numericFlag value = .valid flag ↔ value = flag.toInt := by
  unfold numericFlag
  by_cases zero : value = 0
  · cases flag <;> simp [zero]
  · by_cases one : value = 1
    · cases flag <;> simp [one]
    · cases flag <;> by_cases fits : fitsWord value = true <;> simp [zero, one, fits, defect]

theorem parameterBool?_eq_some_iff {text : String} {flag : Bool} :
    Number.parameterBool? text = some flag ↔ plainWord text ∈ flagWords flag := by
  have apart : ∀ word ∈ flagWords true, word ∉ flagWords false := by decide
  show (if plainWord text ∈ flagWords false then some false
    else if plainWord text ∈ flagWords true then some true else none) = some flag ↔ _
  by_cases unset : plainWord text ∈ flagWords false
  · cases flag with
    | false => simp [unset]
    | true => simpa [unset] using fun set => apart _ set unset
  · by_cases set : plainWord text ∈ flagWords true <;> cases flag <;> simp [unset, set]

theorem meansFlag_iff {document : Json} {flag : Bool} :
    document.MeansFlag flag ↔ Checked.flag document = .valid flag := by
  constructor
  · intro means
    cases means with
    | flag => rfl
    | number whole =>
      cases document with
      | int value => exact numericFlag_eq_valid_iff.mpr (Option.some.inj whole)
      | float value =>
        have found : value.whole? = some flag.toInt := whole
        rw [Checked.flag, found]
        exact numericFlag_eq_valid_iff.mpr rfl
      | _ => cases whole
    | word spells => rw [Checked.flag, parameterBool?_eq_some_iff.mpr spells]
  · intro checked
    cases document with
    | bool value =>
      cases checked
      exact .flag flag
    | int value => exact .number (congrArg some (numericFlag_eq_valid_iff.mp checked))
    | float value =>
      rw [Checked.flag] at checked
      cases found : value.whole? with
      | none =>
        rw [found] at checked
        cases checked
      | some number =>
        rw [found] at checked
        exact .number (found.trans (congrArg some (numericFlag_eq_valid_iff.mp checked)))
    | str text =>
      rw [Checked.flag] at checked
      cases read : Number.parameterBool? text with
      | none =>
        rw [read] at checked
        cases checked
      | some value =>
        rw [read, Checked.valid.injEq] at checked
        exact .word (parameterBool?_eq_some_iff.mp (checked ▸ read))
    | _ => cases checked

theorem givesFlag_iff {member : Option Json} {flag : Bool} :
    GivesFlag member flag ↔ Checked.flag (member.getD (.bool true)) = .valid flag := by
  cases member with
  | none =>
    constructor
    · rintro ⟨⟩
      rfl
    · intro checked
      cases checked
      exact .absent
  | some document =>
    rw [Option.getD_some, ← meansFlag_iff]
    exact ⟨fun given => by cases given with | means means => exact means, .means⟩

/-! ### Members of the wrong kind -/

theorem finds_text (document : Json) :
    (text document).Finds (MemberKind.text.defect? (some document)) := by
  cases document with
  | str value => exact .nothing value
  | _ => exact .one _

theorem finds_optionalText (member : Option Json) :
    (optionalText (member.getD .null)).Finds (MemberKind.optionalText.defect? member) := by
  cases member with
  | none => exact .nothing none
  | some document =>
    cases document with
    | null => exact .nothing none
    | str value => exact .nothing (some value)
    | _ => exact .one _

theorem finds_numericFlag (number : Int) : (numericFlag number).Finds (numberDefect? number) := by
  unfold numericFlag numberDefect?
  by_cases zero : number = 0
  · simpa [zero] using Finds.nothing false
  · by_cases one : number = 1
    · simpa [one] using Finds.nothing true
    · by_cases fits : fitsWord number = true
      · simpa [zero, one, fits] using Finds.one .unreadableFlag
      · simpa [zero, one, fits] using Finds.one .notFlag

theorem finds_flag (member : Option Json) :
    (Checked.flag (member.getD (.bool true))).Finds (MemberKind.flag.defect? member) := by
  cases member with
  | none => exact .nothing true
  | some document =>
    cases document with
    | bool value => exact .nothing value
    | int value => exact finds_numericFlag value
    | float value =>
      rw [Option.getD_some, Checked.flag, MemberKind.defect?, Json.flagDefect?]
      cases value.whole? with
      | none => exact .one .notFlag
      | some number => exact finds_numericFlag number
    | str text =>
      rw [Option.getD_some, Checked.flag, MemberKind.defect?, Json.flagDefect?]
      cases read : Number.parameterBool? text with
      | none =>
        have unspelled (flag : Bool) : plainWord text ∉ flagWords flag := fun spells => by
          rw [parameterBool?_eq_some_iff.mpr spells] at read
          cases read
        simpa [unspelled] using Finds.one .unreadableFlag
      | some flag =>
        have spells := parameterBool?_eq_some_iff.mp read
        cases flag <;> simpa [spells] using Finds.nothing _
    | _ => exact .one .notFlag

/-! ### Accounts and dates -/

namespace Record

theorem accountsOf_of_blank {document : Json} (blank : document.isPresent = false) :
    accountsOf document = .ok [] := by
  rw [accountsOf, blank]
  rfl

theorem accountsOf_of_present {document : Json} (present : document.isPresent = true) :
    accountsOf document = document.elements := by
  rw [accountsOf, if_pos present]

/-- A list, a text or an object has elements even if it counts as absent for being empty. -/
theorem accountsOf_arr (items : List Json) : accountsOf (.arr items) = .ok items := by
  cases items <;> rfl

theorem accountsOf_str (text : String) :
    accountsOf (.str text) = .ok ((text.toList.map Char.toString).map .str) := by
  rw [List.map_map]
  by_cases empty : text = ""
  · rw [empty]
    rfl
  · exact accountsOf_of_present (decide_eq_true empty)

theorem accountsOf_obj (members : List (String × Json)) :
    accountsOf (.obj members) = .ok ((members.map (·.1)).map .str) := by
  rw [List.map_map]
  cases members <;> rfl

theorem accountsOf_eq_error_iff {document : Json} {fault : Fault} :
    accountsOf document = .error fault ↔
      (document.isPresent = true ∧ document.hasElements = false) ∧ fault = .unsuitable := by
  cases present : document.isPresent with
  | false => simp [accountsOf_of_blank present]
  | true =>
    rw [accountsOf_of_present present]
    cases document <;> simp [Json.elements, Json.hasElements, eq_comm]

/-- What has no elements is listed only if it counts as absent, and then nothing is listed. -/
theorem blank_of_single {document : Json} {elements : List Json}
    (single : document.hasElements = false) (listed : accountsOf document = .ok elements) :
    document.isPresent = false ∧ elements = [] := by
  cases present : document.isPresent with
  | false =>
    rw [accountsOf_of_blank present, Except.ok.injEq] at listed
    exact ⟨rfl, listed.symm⟩
  | true =>
    rw [accountsOf_eq_error_iff.mpr ⟨⟨present, single⟩, rfl⟩] at listed
    cases listed

theorem map_str_injective : Function.Injective (List.map Json.str) :=
  List.map_injective_iff.mpr fun _ _ => Json.str.inj

/-- The accounts that are listed, if they are texts, are those that a member gives. -/
theorem accountsOf_eq_ok_iff {member : Option Json} {accounts : List String} :
    accountsOf (member.getD .null) = .ok (accounts.map .str) ↔ GivesAccounts member accounts := by
  constructor
  · intro listed
    cases member with
    | none =>
      have none_listed : accounts = [] := map_str_injective (Except.ok.inj listed).symm
      rw [none_listed]
      exact .absent
    | some document =>
      rw [Option.getD_some] at listed
      cases document with
      | arr items =>
        rw [accountsOf_arr, Except.ok.injEq] at listed
        rw [listed]
        exact .texts accounts
      | str text =>
        rw [accountsOf_str, Except.ok.injEq] at listed
        rw [← map_str_injective listed]
        exact .characters text
      | obj members =>
        rw [accountsOf_obj, Except.ok.injEq] at listed
        rw [← map_str_injective listed]
        exact .names members
      | _ =>
        obtain ⟨blank, none_listed⟩ := blank_of_single rfl listed
        rw [List.map_eq_nil_iff.mp none_listed]
        exact .empty blank
  · intro given
    cases given with
    | absent => rfl
    | empty blank => exact accountsOf_of_blank blank
    | texts => exact accountsOf_arr _
    | characters text => exact accountsOf_str text
    | names members => exact accountsOf_obj members

/-- Of the accounts that are listed those of a list may be wrong; what else is listed is texts. -/
theorem problems_accountsOf {member : Option Json} {elements : List Json}
    (listed : accountsOf (member.getD .null) = .ok elements) :
    (texts elements).problems.map
      (fun field => { field with path := .field "scm_accounts" :: field.path }) =
        accountProblems member := by
  have noneWrong {accounts : List String} : (texts (accounts.map .str)).problems = [] := by
    rw [texts_eq_valid_iff.mpr rfl]
    rfl
  cases member with
  | none =>
    cases listed
    rfl
  | some document =>
    rw [Option.getD_some] at listed
    cases document with
    | arr items =>
      rw [accountsOf_arr, Except.ok.injEq] at listed
      rw [texts, problems_eachFrom_text, List.map_filterMap, ← listed, accountProblems]
      refine List.filterMap_congr fun (account, position) _ => ?_
      cases account <;> rfl
    | str text =>
      rw [accountsOf_str, Except.ok.injEq] at listed
      rw [← listed, noneWrong]
      rfl
    | obj members =>
      rw [accountsOf_obj, Except.ok.injEq] at listed
      rw [← listed, noneWrong]
      rfl
    | _ =>
      rw [(blank_of_single rfl listed).2]
      rfl

theorem lastConnectionOf_of_blank {document : Json} (blank : document.isPresent = false) :
    lastConnectionOf document = .ok none := by
  unfold lastConnectionOf
  rw [blank]
  rfl

/-- An empty text is no date, but then it counts as absent. -/
theorem lastConnectionOf_str {text : String} (nonempty : text ≠ "") :
    lastConnectionOf (.str text) = ((Timestamp.parse text).mapError .timestamp).map some :=
  if_pos (decide_eq_true nonempty)

theorem lastConnectionOf_of_other {document : Json} (present : document.isPresent = true)
    (other : document.text? = none) : lastConnectionOf document = .error .lacksMember := by
  unfold lastConnectionOf
  rw [present]
  cases document <;> first | rfl | cases other

/-- A date that can be read has characters. -/
theorem nonempty_of_parse {text : String} {moment : Timestamp}
    (read : Timestamp.parse text = .ok moment) : text ≠ "" := by
  rintro rfl
  cases read

theorem lastConnectionOf_eq_ok_iff {member : Option Json} {moment : Option Timestamp} :
    lastConnectionOf (member.getD .null) = .ok moment ↔ GivesDate member moment := by
  constructor
  · intro read
    cases member with
    | none =>
      cases read
      exact .absent
    | some document =>
      rw [Option.getD_some] at read
      cases present : document.isPresent with
      | false =>
        rw [lastConnectionOf_of_blank present, Except.ok.injEq] at read
        exact read ▸ .empty present
      | true =>
        cases document with
        | str text =>
          rw [lastConnectionOf_str (of_decide_eq_true present), map_eq_ok_iff] at read
          obtain ⟨found, parsed, rfl⟩ := read
          exact .moment (mapError_eq_ok_iff.mp parsed)
        | _ =>
          rw [lastConnectionOf_of_other present rfl] at read
          cases read
  · intro given
    cases given with
    | absent => rfl
    | empty blank => exact lastConnectionOf_of_blank blank
    | moment read =>
      rw [Option.getD_some, lastConnectionOf_str (nonempty_of_parse read), read]
      rfl

/-- What is said of a date that cannot be read. -/
theorem lastConnectionOf_eq_error_iff {document : Json} {fault : Fault} :
    lastConnectionOf document = .error fault ↔ document.isPresent = true ∧
      ((document.text? = none ∧ fault = .lacksMember) ∨
        ∃ text problem, document = .str text ∧ Timestamp.parse text = .error problem ∧
          fault = .timestamp problem) := by
  cases present : document.isPresent with
  | false => simp [lastConnectionOf_of_blank present]
  | true =>
    cases document with
    | str text =>
      rw [lastConnectionOf_str (of_decide_eq_true present)]
      cases read : Timestamp.parse text with
      | ok moment => simp [Except.mapError, Except.map, Json.text?, read]
      | error problem =>
        simp [Except.mapError, Except.map, Json.text?, read]
        exact eq_comm
    | _ => simp [lastConnectionOf_of_other present rfl, Json.text?, eq_comm]

/-! ### All members together -/

variable {userId login name email active isLocal externalLogin provider : Json}
  {accounts : List Json} {lastConnection : Option Timestamp}

theorem check_eq_valid_iff {record : Record} :
    check userId login name email active isLocal externalLogin provider accounts lastConnection =
        .valid record ↔
      text userId = .valid record.userId ∧ text login = .valid record.login ∧
      optionalText name = .valid record.name ∧ optionalText email = .valid record.email ∧
      Checked.flag active = .valid record.isActive ∧
      Checked.flag isLocal = .valid record.isLocal ∧
      optionalText externalLogin = .valid record.externalLogin ∧
      optionalText provider = .valid record.externalIdentityProvider ∧
      texts accounts = .valid record.scmAccounts ∧ lastConnection = record.lastConnection := by
  constructor
  · intro valid
    obtain ⟨_, _, upToAccounts, ⟨⟩, rfl⟩ := seq_eq_valid_iff.mp valid
    obtain ⟨_, _, upToProvider, listed, rfl⟩ := seq_eq_valid_iff.mp upToAccounts
    obtain ⟨_, _, upToExternal, provided, rfl⟩ := seq_eq_valid_iff.mp upToProvider
    obtain ⟨_, _, upToLocal, external, rfl⟩ := seq_eq_valid_iff.mp upToExternal
    obtain ⟨_, _, upToActive, kept, rfl⟩ := seq_eq_valid_iff.mp upToLocal
    obtain ⟨_, _, upToEmail, enabled, rfl⟩ := seq_eq_valid_iff.mp upToActive
    obtain ⟨_, _, upToName, mailed, rfl⟩ := seq_eq_valid_iff.mp upToEmail
    obtain ⟨_, _, upToLogin, called, rfl⟩ := seq_eq_valid_iff.mp upToName
    obtain ⟨_, _, upToUserId, known, rfl⟩ := seq_eq_valid_iff.mp upToLogin
    obtain ⟨_, identified, rfl⟩ := map_eq_valid_iff.mp upToUserId
    rw [under_eq_valid_iff] at *
    exact ⟨identified, known, called, mailed, enabled, kept, external, provided, listed, rfl⟩
  · rintro ⟨identified, known, called, mailed, enabled, kept, external, provided, listed, rfl⟩
    rw [check, identified, known, called, mailed, enabled, kept, external, provided, listed]
    rfl

theorem isFrank_check :
    (check userId login name email active isLocal externalLogin provider accounts
      lastConnection).IsFrank := by
  have frankText (document : Json) (step : PathStep) :
      ((optionalText document).under step).IsFrank :=
    (finds_optionalText (some document)).isFrank.under step
  have frankFlag (document : Json) (step : PathStep) :
      ((Checked.flag document).under step).IsFrank :=
    (finds_flag (some document)).isFrank.under step
  have identified := ((isFrank_text userId).under (.field "user_id")).map Record.mk
  have named := (identified.seq ((isFrank_text login).under (.field "login"))).seq
    (frankText name (.field "name"))
  have mailed := named.seq (frankText email (.field "email"))
  have kept := (mailed.seq (frankFlag active (.field "active"))).seq
    (frankFlag isLocal (.field "local"))
  have external := (kept.seq (frankText externalLogin (.field "external_login"))).seq
    (frankText provider (.field "external_identity_provider"))
  exact (external.seq ((isFrank_eachFrom_text 0 accounts).under (.field "scm_accounts"))).seq
    (isFrank_pure lastConnection)

/-- The check of an item that names its user and has accounts to list finds wrong just what is ill
typed. -/
theorem problems_check {item : Json} {elements : List Json}
    (identified : item.member? "userId" = some userId) (known : item.member? "login" = some login)
    (listed : accountsOf ((item.member? "scmAccounts").getD .null) = .ok elements) :
    (check userId login ((item.member? "name").getD .null) ((item.member? "email").getD .null)
      ((item.member? "active").getD (.bool true)) ((item.member? "local").getD (.bool true))
      ((item.member? "externalLogin").getD .null)
      ((item.member? "externalIdentityProvider").getD .null) elements lastConnection).problems =
        item.illTyped := by
  rw [check]
  simp only [problems_seq, problems_map, problems_pure]
  rw [(finds_text _).problems_under, (finds_text _).problems_under,
    (finds_optionalText _).problems_under, (finds_optionalText _).problems_under,
    (finds_flag _).problems_under, (finds_flag _).problems_under,
    (finds_optionalText _).problems_under, (finds_optionalText _).problems_under, problems_under,
    problems_accountsOf listed, ← identified, ← known]
  simp only [Json.illTyped, plainMembers, List.flatMap_cons, List.flatMap_nil, List.append_assoc,
    List.append_nil]

/-! ### Items -/

theorem eq_some_of_present {member : Option Json}
    (present : (member.getD .null).isPresent = true) : member = some (member.getD .null) := by
  cases member with
  | none => cases present
  | some document => rfl

theorem namesUser_iff {item : Json} : item.NamesUser ↔
    ∃ userId login, item.member? "userId" = some userId ∧ item.member? "login" = some login := by
  rw [Json.NamesUser, Option.isSome_iff_exists, Option.isSome_iff_exists]
  exact ⟨fun ⟨⟨userId, identified⟩, login, known⟩ => ⟨userId, login, identified, known⟩,
    fun ⟨userId, login, identified, known⟩ => ⟨⟨userId, identified⟩, login, known⟩⟩

theorem listsAccounts_iff {item : Json} : item.ListsAccounts ↔
    ∃ elements, accountsOf ((item.member? "scmAccounts").getD .null) = .ok elements := by
  constructor
  · intro lists
    cases listed : accountsOf ((item.member? "scmAccounts").getD .null) with
    | ok elements => exact ⟨elements, rfl⟩
    | error fault =>
      obtain ⟨⟨present, single⟩, -⟩ := accountsOf_eq_error_iff.mp listed
      rw [lists _ (eq_some_of_present present) present] at single
      cases single
  · rintro ⟨elements, listed⟩ accounts given present
    rw [given, Option.getD_some] at listed
    cases single : accounts.hasElements with
    | true => rfl
    | false =>
      rw [accountsOf_eq_error_iff.mpr ⟨⟨present, single⟩, rfl⟩] at listed
      cases listed

theorem ofItem_obj {item : Json} {members : List (String × Json)} (isObject : item = .obj members) :
    ofItem item = (item.required "userId").bind fun userId =>
      (item.required "login").bind fun login =>
        (accountsOf ((item.member? "scmAccounts").getD .null)).bind fun accounts =>
          (lastConnectionOf ((item.member? "lastConnectionDate").getD .null)).bind
            fun lastConnection =>
              (check userId login ((item.member? "name").getD .null)
                ((item.member? "email").getD .null)
                ((item.member? "active").getD (.bool true))
                ((item.member? "local").getD (.bool true))
                ((item.member? "externalLogin").getD .null)
                ((item.member? "externalIdentityProvider").getD .null) accounts
                lastConnection).outcome := by
  rw [isObject]
  rfl

theorem ofItem_eq_ok_iff {item : Json} {members : List (String × Json)}
    (isObject : item = .obj members) {record : Record} :
    ofItem item = .ok record ↔ record.IsStoredAs item := by
  rw [ofItem_obj isObject]
  simp only [bind_eq_ok_iff, Json.required_eq_ok_iff, lastConnectionOf_eq_ok_iff, outcome_eq_ok_iff,
    check_eq_valid_iff, text_eq_valid_iff, texts_eq_valid_iff, ← givesName_iff, ← givesFlag_iff]
  constructor
  · rintro ⟨_, userId, _, login, _, listed, _, dated, rfl, rfl, name, email, isActive, isLocal,
      externalLogin, provider, rfl, rfl⟩
    exact ⟨userId, login, name, email, isActive, isLocal, externalLogin, provider,
      accountsOf_eq_ok_iff.mp listed, dated⟩
  · rintro ⟨userId, login, name, email, isActive, isLocal, externalLogin, provider, accounts, dated⟩
    exact ⟨_, userId, _, login, _, accountsOf_eq_ok_iff.mpr accounts, _, dated, rfl, rfl, name,
      email, isActive, isLocal, externalLogin, provider, rfl, rfl⟩

theorem ofItem_eq_error_iff {item : Json} {members : List (String × Json)}
    (isObject : item = .obj members) {fault : Fault} :
    ofItem item = .error fault ↔ item.FailsFirst fault := by
  rw [ofItem_obj isObject]
  subst isObject
  simp only [bind_eq_error_iff, Json.required_eq_ok_iff, Json.required_eq_error_iff,
    lastConnectionOf_eq_ok_iff, isFrank_check.outcome_eq_error_iff]
  -- Each part is reached only if those before it were found, and so the faults exclude each other.
  constructor
  · rintro (⟨absent, rfl⟩ | ⟨userId, identified, ⟨absent, rfl⟩ | ⟨login, known, named⟩⟩)
    · exact .noUserId absent
    · exact .noLogin (Option.isSome_of_eq_some identified) absent
    have names := namesUser_iff.mpr ⟨userId, login, identified, known⟩
    obtain unlisted | ⟨elements, listed, later⟩ := named
    · obtain ⟨⟨present, single⟩, rfl⟩ := accountsOf_eq_error_iff.mp unlisted
      exact .noList names (eq_some_of_present present) present single
    have lists := listsAccounts_iff.mpr ⟨elements, listed⟩
    obtain undated | ⟨moment, dated, wrong, rfl⟩ := later
    · obtain ⟨present, ⟨other, rfl⟩ | ⟨text, problem, isText, unread, rfl⟩⟩ :=
        lastConnectionOf_eq_error_iff.mp undated
      · exact .noText names lists (eq_some_of_present present) present other
      · rw [isText] at present
        exact .noMoment names lists (isText ▸ eq_some_of_present (isText ▸ present))
          (of_decide_eq_true present) unread
    · rw [problems_check identified known listed] at wrong ⊢
      exact .illTyped names lists ⟨moment, dated⟩ wrong
  · intro fails
    cases fails with
    | noUserId absent => exact .inl ⟨absent, rfl⟩
    | noLogin known absent =>
      obtain ⟨userId, identified⟩ := Option.isSome_iff_exists.mp known
      exact .inr ⟨userId, identified, .inl ⟨absent, rfl⟩⟩
    | noList named given present single =>
      obtain ⟨userId, login, identified, known⟩ := namesUser_iff.mp named
      rw [given, Option.getD_some]
      exact .inr ⟨userId, identified, .inr ⟨login, known,
        .inl (accountsOf_eq_error_iff.mpr ⟨⟨present, single⟩, rfl⟩)⟩⟩
    | noText named lists given present other =>
      obtain ⟨userId, login, identified, known⟩ := namesUser_iff.mp named
      obtain ⟨elements, listed⟩ := listsAccounts_iff.mp lists
      rw [given, Option.getD_some]
      exact .inr ⟨userId, identified, .inr ⟨login, known, .inr ⟨elements, listed,
        .inl (lastConnectionOf_of_other present other)⟩⟩⟩
    | noMoment named lists given nonempty unread =>
      obtain ⟨userId, login, identified, known⟩ := namesUser_iff.mp named
      obtain ⟨elements, listed⟩ := listsAccounts_iff.mp lists
      rw [given, Option.getD_some]
      exact .inr ⟨userId, identified, .inr ⟨login, known, .inr ⟨elements, listed,
        .inl (lastConnectionOf_eq_error_iff.mpr
          ⟨decide_eq_true nonempty, .inr ⟨_, _, rfl, unread, rfl⟩⟩)⟩⟩⟩
    | illTyped named lists dated wrong =>
      obtain ⟨userId, login, identified, known⟩ := namesUser_iff.mp named
      obtain ⟨elements, listed⟩ := listsAccounts_iff.mp lists
      obtain ⟨moment, dated⟩ := dated
      refine .inr ⟨userId, identified, .inr ⟨login, known, .inr ⟨elements, listed,
        .inr ⟨moment, dated, ?_⟩⟩⟩⟩
      rw [problems_check identified known listed]
      exact ⟨wrong, rfl⟩

/-- An object is read as a record if and only if it is stored as that record, and of any other
object the first thing that keeps it from being one is told. -/
theorem ofItem_reads_or_blames (members : List (String × Json)) :
    (∀ record, ofItem (.obj members) = .ok record ↔ record.IsStoredAs (.obj members)) ∧
      (∀ fault, ofItem (.obj members) = .error fault ↔ (Json.obj members).FailsFirst fault) :=
  ⟨fun _ => ofItem_eq_ok_iff rfl, fun _ => ofItem_eq_error_iff rfl⟩

/-- A member of the wrong kind is not told of while another one is missing. -/
example : ofItem (.obj [("userId", .int 1), ("active", .null)]) = .error (.missing "login") :=
  rfl

example : ofItem (.obj [("userId", .int 1), ("login", .str "ada"), ("active", .null)]) =
    .error (.malformed [⟨[.field "user_id"], .notText⟩, ⟨[.field "active"], .notFlag⟩]) :=
  rfl

end Record

end UserDirectory
