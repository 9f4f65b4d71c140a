/-
This file says whose tokens a search shows. A record is chosen for each login, the
last one that carries it, and tokens are counted under the identifier of every
record; but the counts are kept by login, and there a count of zero leaves no
trace. So a record without tokens is shown with those of another record of its
login, if one has any. A record that has tokens is shown with its own, and so is
every record whose login no other one carries.
-/

import UserDirectory.Proofs.Search.Redaction

namespace UserDirectory

namespace Service

variable {service : Service} {criteria : Criteria} {session : Session} {backends : Backends}

/-- Whatever a search gathers, it knows for each login the tokens that the look-up of its records
tells. -/
theorem tokensOf_gather {entries : List (String × Int)}
    (holding : backends.tokens.holding = .counts entries)
    (unscripted : backends.tokens.prepared = []) {page : IndexPage} {gathering : Gathering}
    (gathered : service.gather criteria backends = .ok (page, gathering)) (login : String) :
    tokensOf gathering.tokenCounts login =
      .int (service.toldTokens backends gathering.records login) := by
  unfold gather at gathered
  split at gathered
  · obtain ⟨found, -, gathered⟩ := bind_eq_ok_iff.mp gathered
    split at gathered
    · cases gathered
      rfl
    · obtain ⟨⟨records, groups⟩, -, gathered⟩ := bind_eq_ok_iff.mp gathered
      obtain ⟨⟨counts, managed⟩, told, equal⟩ := map_eq_ok_iff.mp gathered
      obtain ⟨-, rfl⟩ := Prod.mk.inj equal
      have tokens := (service.tokens_ends holding unscripted records
        (Or.inl trivial : True ∨ _)).2
      have anyManaged : Meets True (fun _ => True) (service.lookUpRecords records
          (service.afterLogins found.logins backends)).2.outcome := by
        cases (service.lookUpRecords records
          (service.afterLogins found.logins backends)).2.outcome <;> trivial
      have both := Awaited.meets_both
        (service.meets_await .userTokens tokens (Or.inl trivial))
        (service.meets_await .managedInstance anyManaged (Or.inl trivial))
      change Meets True _ (service.recordStage records
        (service.afterLogins found.logins backends)).outcome at both
      rw [told] at both
      exact both.1 login
  · cases gathered
    rfl

/-- The record that stands for a login is told its own tokens, unless it has none and another record
of the login has some. -/
theorem toldTokens_eq_iff {records : List Record} {login : String} {record : Record}
    (last : (records.reverse.find? fun other => other.login = login) = some record) :
    service.toldTokens backends records login = service.tokenCount backends record.userId ↔
      service.tokenCount backends record.userId ≠ 0 ∨
        ∀ other ∈ records, other.login = login → service.tokenCount backends other.userId = 0 := by
  have lastUser : ((records.map fun other => (other.userId, other.login)).reverse.find?
      fun user => user.2 = login) = some (record.userId, record.login) := by
    rw [← List.map_reverse, List.find?_map, Function.comp_def, last]
    rfl
  rw [toldTokens, lastCount_eq_iff lastUser, List.forall_mem_map]

/-- What a caller is told of the tokens of some records that are shown, of all that were found: to
whom the tokens are shown they are those of the last record of the login that has any. They are the
record's own, unless it has none and another record of its login has some. -/
def TellsTokens (service : Service) (session : Session) (backends : Backends)
    (found shown : List Record) (users : List UserView) : Prop :=
  ∀ (position : Nat) (record : Record), shown[position]? = some record →
    ∃ (tiers : Tiers) (view : UserView), Tiers.decide session record.userId = .ok tiers ∧
      users[position]? = some view ∧ (tiers.privileged = true →
        view.tokensCount = some (service.toldTokens backends found record.login) ∧
        (view.tokensCount = some (service.tokenCount backends record.userId) ↔
          service.tokenCount backends record.userId ≠ 0 ∨
            ∀ other ∈ found, other.login = record.login →
              service.tokenCount backends other.userId = 0))

/-- What is checked of tokens is shown to whom they are shown at all. -/
theorem tokensCount_of_view {gathering : Gathering} {resolver : Record → Except Fault String}
    {record : Record} {view : UserView}
    (viewed : gathering.view session resolver record = .ok view) {tiers : Tiers}
    (decided : Tiers.decide session record.userId = .ok tiers)
    (privileged : tiers.privileged = true) {tokens : Int}
    (told : tokensOf gathering.tokenCounts record.login = .int tokens) :
    view.tokensCount = some tokens := by
  obtain ⟨_, _, extras, same, _, checked, rfl⟩ := Gathering.view_eq_ok_iff.mp viewed
  rw [decided, Except.ok.injEq] at same
  subst same
  have included : tiers.includes "tokensCount" = true := by
    rw [Tiers.includes_of_privileged (by decide), privileged]
  obtain ⟨-, -, counted, -⟩ := Extras.check_eq_valid_iff.mp checked
  rw [if_pos included, told] at counted
  rw [Record.view]
  exact (if_pos included).trans (Checked.valid.inj counted).symm

/-- A search that succeeds shows the last record of each login of the page, with the tokens that
were told of the login. -/
theorem search_tells_tokens {entries : List (String × Int)}
    (holding : backends.tokens.holding = .counts entries)
    (unscripted : backends.tokens.prepared = []) {response : SearchResponse}
    (searched : (service.search criteria session backends).2.outcome = .ok response) :
    ∃ page gathering, service.gather criteria backends = .ok (page, gathering) ∧
      response.users.map (·.login) =
        (orderByLogins gathering.records page.logins).map (·.login) ∧
      service.TellsTokens session backends gathering.records
        (orderByLogins gathering.records page.logins) response.users := by
  obtain ⟨page, gathering, users, gathered, viewed, rfl⟩ := gather_of_search searched
  have shows := shows_of_views viewed
  refine ⟨page, gathering, gathered, shows.logins, fun position record listed => ?_⟩
  obtain ⟨view, tiers, shown, decided, equal⟩ := shows.views position record listed
  refine ⟨tiers, view, decided, shown, fun privileged => ?_⟩
  have told := tokensCount_of_view equal decided privileged
    (tokensOf_gather holding unscripted gathered record.login)
  refine ⟨told, ?_⟩
  obtain ⟨login, -, last⟩ := List.mem_filterMap.mp (List.mem_of_getElem? listed)
  have carries : record.login = login := by simpa using List.find?_some last
  rw [told, Option.some.injEq]
  exact toldTokens_eq_iff (carries ▸ last)

/-- A small directory in which two stored items carry one login. The store hands out the first of
them last, and only the user of the second one has tokens. -/
def sharedLogin : Backends :=
  { Sample.backends {} with
    entries :=
      { users :=
          { items := [
              (partitionKey "ada", .obj [("userId", .str "u1"), ("login", .str "ada")]),
              (partitionKey "cy", .obj [("userId", .str "u2"), ("login", .str "ada")])] } }
    tokens := { holding := .counts [("u2", 2)] } }

/-- The record that stands for the shared login. -/
def lastAda : Record :=
  ⟨"u1", "ada", none, none, true, true, none, none, [], none⟩

/-- What an administrator is shown of the shared login. -/
def sharedResponse : SearchResponse :=
  Sample.criteria.response 4 (List.replicate 2
    (lastAda.view ⟨true, true⟩ ⟨none, ["admins", "staff"], some 2, false⟩))

theorem sharedLogin_searched : (Sample.service.search Sample.criteria (Sample.session ["Admin"])
    sharedLogin).2.outcome = .ok sharedResponse := by
  decide +kernel

theorem sharedLogin_pageRecords :
    Sample.service.pageRecords Sample.criteria sharedLogin = .ok [lastAda, lastAda] := by
  decide +kernel

/-- For the shared login the tokens of the other user are told. -/
theorem sharedLogin_tells_tokens : sharedLogin.tokens.holding = .counts [("u2", 2)] ∧
    sharedLogin.tokens.prepared = [] ∧
    (Sample.service.search Sample.criteria (Sample.session ["Admin"]) sharedLogin).2.outcome =
      .ok sharedResponse ∧
    ∃ found, sharedResponse.users.map (·.login) = ["ada", "ada"] ∧
      Sample.service.TellsTokens (Sample.session ["Admin"]) sharedLogin found [lastAda, lastAda]
        sharedResponse.users := by
  have holding : sharedLogin.tokens.holding = .counts [("u2", 2)] := rfl
  refine ⟨holding, rfl, sharedLogin_searched, ?_⟩
  obtain ⟨page, gathering, gathered, logins, tells⟩ :=
    search_tells_tokens holding rfl sharedLogin_searched
  have listed := sharedLogin_pageRecords
  rw [pageRecords, gathered] at listed
  have shown : orderByLogins gathering.records page.logins = [lastAda, lastAda] :=
    Except.ok.inj listed
  rw [shown] at logins tells
  exact ⟨gathering.records, logins, tells⟩

/-- An administrator can be shown tokens of a user who has none. -/
theorem sharedLogin_tells_other : ∃ response records,
    (Sample.service.search Sample.criteria (Sample.session ["Admin"]) sharedLogin).2.outcome =
      .ok response ∧
    Sample.service.pageRecords Sample.criteria sharedLogin = .ok records ∧
    (Sample.session ["Admin"]).isAdministrator = .ok true ∧
    ¬ ∀ (position : Nat) record view, records[position]? = some record →
      response.users[position]? = some view →
        view.tokensCount = some (Sample.service.tokenCount sharedLogin record.userId) := by
  refine ⟨_, _, sharedLogin_searched, sharedLogin_pageRecords, by decide +kernel, fun own => ?_⟩
  exact absurd (own 0 lastAda _ rfl rfl) (by decide +kernel)

end Service

end UserDirectory
