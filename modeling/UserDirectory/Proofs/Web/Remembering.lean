/-
This file proves that what a site remembers makes no difference to its answers.
Between requests a site remembers only what tokens are checked with, and that is
never more than what it would find out anew: for whom tokens are issued, and the
published keys. So as long as tokens are issued as before, a site answers like one
that remembers nothing, except that it need not download the keys again; and what it
remembers then is again what it would find out.
-/

import UserDirectory.Proofs.Search.Repeating
import UserDirectory.Web.Site

namespace UserDirectory

/-! ### What is published -/

namespace Publication

/-- What is published, however long a download takes. -/
def published : Publication → Publication
  | .late _ publication => publication.published
  | publication => publication

theorem usableKeys_published (publication : Publication) :
    publication.published.usableKeys = publication.usableKeys := by
  induction publication with
  | late _ publication inductionHypothesis => exact inductionHypothesis
  | keys _ => rfl
  | document _ => rfl
  | silence => rfl

end Publication

namespace Surroundings

/-- Tokens are issued alike in two surroundings: for the same application, and with the same keys
published. -/
structure IssuesAlike (first second : Surroundings) : Prop where
  tenant : first.environment.get? "ENTRA_TENANT_ID" = second.environment.get? "ENTRA_TENANT_ID"
  client : first.environment.get? "ENTRA_CLIENT_ID" = second.environment.get? "ENTRA_CLIENT_ID"
  published : first.publication.published = second.publication.published

variable {first second : Surroundings}

theorem IssuesAlike.registration (alike : first.IssuesAlike second) :
    Registration.ofEnvironment first.environment =
      Registration.ofEnvironment second.environment := by
  unfold Registration.ofEnvironment Environment.nonempty?
  rw [alike.tenant, alike.client]

theorem IssuesAlike.usableKeys (alike : first.IssuesAlike second) :
    first.publication.usableKeys = second.publication.usableKeys := by
  rw [← first.publication.usableKeys_published, alike.published,
    second.publication.usableKeys_published]

end Surroundings

/-! ### What a site remembers -/

namespace Validator

/-- What a validator remembers is what is published. -/
def RemembersRightly (validator : Validator) (publication : Publication) : Prop :=
  ∀ known, validator.keys = some known → publication.usableKeys = .ok known

variable {validator : Validator} {publication : Publication}

theorem RemembersRightly.knownKeys_eq (rightly : validator.RemembersRightly publication) :
    validator.knownKeys publication = publication.usableKeys := by
  unfold knownKeys
  cases remembered : validator.keys with
  | none => rfl
  | some known => exact (rightly known remembered).symm

/-- After a look at the published keys those that are remembered are remembered rightly. -/
theorem RemembersRightly.informed (rightly : validator.RemembersRightly publication) :
    (validator.informed publication).RemembersRightly publication := by
  intro known remembered
  rw [Validator.informed, rightly.knownKeys_eq] at remembered
  cases found : publication.usableKeys with
  | error fault =>
    rw [found] at remembered
    cases remembered
  | ok usable =>
    simp only [found] at remembered
    split at remembered
    · cases remembered
    · rw [Option.some.inj remembered]

/-- Checking a token leaves a validator for the same application that remembers rightly. -/
theorem RemembersRightly.validate (rightly : validator.RemembersRightly publication) (now : Int)
    (token : Option BearerToken) :
    (validator.validate publication now token).validator.registration = validator.registration ∧
      (validator.validate publication now token).validator.RemembersRightly publication := by
  unfold Validator.validate
  cases token with
  | none => exact ⟨rfl, rightly⟩
  | some token =>
    simp only
    split
    · exact ⟨rfl, rightly.informed⟩
    · exact ⟨rfl, rightly⟩

/-- What is said of a token is settled by the application and the published keys. -/
theorem RemembersRightly.outcome_eq (rightly : validator.RemembersRightly publication) (now : Int)
    (token : Option BearerToken) :
    (validator.validate publication now token).outcome =
      ((⟨validator.registration, none⟩ : Validator).validate publication now token).outcome := by
  unfold Validator.validate
  cases token with
  | none => rfl
  | some token =>
    simp only
    split
    · simp only [rightly.knownKeys_eq]
      rfl
    · rfl

/-- A validator downloads what one downloads that remembers nothing, unless it remembers the
keys. -/
theorem downloads_validate (validator : Validator) (publication : Publication) (now : Int)
    (token : Option BearerToken) :
    (validator.validate publication now token).downloads =
        ((⟨validator.registration, none⟩ : Validator).validate publication now token).downloads ∨
      (validator.validate publication now token).downloads = [] := by
  unfold Validator.validate
  cases token with
  | none => exact Or.inl rfl
  | some token =>
    simp only
    split
    · rw [downloads]
      cases validator.keys with
      | none => exact Or.inl rfl
      | some known => exact Or.inr rfl
    · exact Or.inl rfl

end Validator

namespace Site

/-- What a site remembers is what it would find out in some surroundings. -/
def Suits (site : Site) (surroundings : Surroundings) : Prop :=
  ∀ validator, site.validator = some validator →
    Registration.ofEnvironment surroundings.environment = .ok validator.registration ∧
      validator.RemembersRightly surroundings.publication

/-- What was settled when two sites were launched is the same. -/
structure FoundedAlike (first second : Site) : Prop where
  informsOrigins : first.informsOrigins = second.informsOrigins
  manual : first.manual = second.manual

variable {site fresh : Site} {surroundings : Surroundings}

/-- What is found out where tokens are issued alike is the same. -/
theorem Suits.of_alike {other : Surroundings} (suits : site.Suits surroundings)
    (alike : surroundings.IssuesAlike other) : site.Suits other := by
  intro validator remembered
  obtain ⟨registered, rightly⟩ := suits validator remembered
  refine ⟨alike.registration ▸ registered, fun known inKeys => ?_⟩
  rw [← alike.usableKeys]
  exact rightly known inKeys

/-- What is remembered after a token was checked is again what would be found out. -/
theorem suits_validate {validator : Validator}
    (registered : Registration.ofEnvironment surroundings.environment =
      .ok validator.registration)
    (rightly : validator.RemembersRightly surroundings.publication) (now : Int)
    (token : Option BearerToken) :
    Suits { site with
      validator := some (validator.validate surroundings.publication now token).validator }
      surroundings := by
  obtain ⟨sameRegistration, rightlyAgain⟩ := rightly.validate now token
  rintro _ ⟨⟩
  exact ⟨by rw [registered, sameRegistration], rightlyAgain⟩

/-- Whoever is identified is identified as by a site that remembers nothing, and keys are downloaded
as by that one or not at all. -/
theorem Suits.identify (suits : site.Suits surroundings) (forgetful : fresh.validator = none)
    (token : String) :
    (site.identify surroundings token).2.2 = (fresh.identify surroundings token).2.2 ∧
      ((site.identify surroundings token).2.1 = (fresh.identify surroundings token).2.1 ∨
        (site.identify surroundings token).2.1 = []) ∧
      (site.identify surroundings token).1.Suits surroundings ∧
      (site.identify surroundings token).1.FoundedAlike site := by
  unfold Site.identify
  simp only [forgetful, Validator.ofEnvironment]
  cases remembered : site.validator with
  | none =>
    cases registered : Registration.ofEnvironment surroundings.environment with
    | error fault => exact ⟨rfl, Or.inl rfl, suits, rfl, rfl⟩
    | ok registration =>
      have rightly : Validator.RemembersRightly ⟨registration, none⟩ surroundings.publication :=
        nofun
      exact ⟨rfl, Or.inl rfl, suits_validate registered rightly _ _, rfl, rfl⟩
  | some validator =>
    obtain ⟨registered, rightly⟩ := suits validator remembered
    simp only [registered, Except.map]
    exact ⟨rightly.outcome_eq _ _, validator.downloads_validate _ _ _,
      suits_validate registered rightly _ _, rfl, rfl⟩

/-- The session of a request is the one that a site has which remembers nothing, found with the same
downloads or with none. -/
theorem Suits.session (suits : site.Suits surroundings) (forgetful : fresh.validator = none)
    (request : Request) :
    (site.session surroundings request).2.2 = (fresh.session surroundings request).2.2 ∧
      ((site.session surroundings request).2.1 = (fresh.session surroundings request).2.1 ∨
        (site.session surroundings request).2.1 = 0) ∧
      (site.session surroundings request).1.Suits surroundings ∧
      (site.session surroundings request).1.FoundedAlike site := by
  unfold Site.session
  simp only
  split
  · exact ⟨rfl, Or.inl rfl, suits, rfl, rfl⟩
  · rename_i token _
    obtain ⟨same, downloads, suitsAgain, founded⟩ := suits.identify forgetful token
    refine ⟨congrArg (Except.map _) same, ?_, suitsAgain, founded⟩
    rcases downloads with asFresh | none
    · exact Or.inl (by rw [asFresh])
    · exact Or.inr (by rw [none, List.length_nil, Nat.zero_mul])

end Site

/-! ### Answers -/

/-- An answer is the one that a site gives which has just been launched: it says the same after the
same time, leaving aside the download of keys, which that one may have to do and this one not. -/
structure Answer.AsFresh (answer fresh : Answer) : Prop where
  response : answer.response = fresh.response
  time : answer.time = fresh.time
  downloading : answer.downloading = fresh.downloading ∨ answer.downloading = 0

namespace Site

variable {site fresh : Site} {surroundings : Surroundings} {stores : Backends}

/-- A site answers as a fresh one does among stores that are the same at rest. It leaves the stores
as they were at rest, and a site that suits its surroundings as before. -/
structure Continues (site : Site) (surroundings : Surroundings) (answer fresh : Answer) :
    Prop where
  afresh : answer.AsFresh fresh
  unchanged : answer.backends.rested = surroundings.backends.rested
  suits : answer.site.Suits surroundings
  founded : answer.site.FoundedAlike site

theorem Suits.continues_unmoved (suits : site.Suits surroundings) (fresh : Site)
    (stores : Backends) (response : Response) :
    site.Continues surroundings
      { site := site, backends := surroundings.backends, response := response }
      { site := fresh, backends := stores, response := response } :=
  ⟨⟨rfl, rfl, Or.inl rfl⟩, rfl, suits, rfl, rfl⟩

/-- A search is answered as by a site that remembers nothing. -/
theorem Suits.search (suits : site.Suits surroundings) (forgetful : fresh.validator = none)
    (repeatable : surroundings.backends.IsRepeatable)
    (alike : stores.rested = surroundings.backends.rested) (request : Request) :
    site.Continues surroundings (site.search surroundings request)
      (fresh.search { surroundings with backends := stores } request) := by
  obtain ⟨same, downloading, suitsAgain, founded⟩ := suits.session forgetful request
  have sameThere : (site.session surroundings request).2.2 =
      (fresh.session { surroundings with backends := stores } request).2.2 := same
  unfold Site.search
  simp only [← sameThere]
  cases settle surroundings.environment request (site.session surroundings request).2.2 with
  | error response => exact ⟨⟨rfl, rfl, downloading⟩, rfl, suitsAgain, founded⟩
  | ok settled =>
    obtain ⟨service, criteria, session⟩ := settled
    obtain ⟨-, found⟩ := service.search_of_alike repeatable alike criteria session
    obtain ⟨unchanged, -⟩ := service.search_of_alike repeatable rfl criteria session
    simp only [found]
    exact ⟨⟨rfl, rfl, downloading⟩, unchanged, suitsAgain, founded⟩

theorem Suits.serve (suits : site.Suits surroundings) (forgetful : fresh.validator = none)
    (founded : site.FoundedAlike fresh) (repeatable : surroundings.backends.IsRepeatable)
    (alike : stores.rested = surroundings.backends.rested) (request : Request) :
    site.Continues surroundings (site.serve surroundings request)
      (fresh.serve { surroundings with backends := stores } request) := by
  have unmoved := suits.continues_unmoved fresh stores
  unfold Site.serve
  simp only [founded.manual]
  split
  · exact unmoved _
  · exact unmoved _
  · split
    · exact unmoved _
    · exact unmoved _
  · split
    · exact unmoved _
    · exact unmoved _
  · split
    · exact unmoved _
    · exact suits.search forgetful repeatable alike request

/-- A request is answered as by a site that has just been launched and was founded alike. -/
theorem Suits.answer (suits : site.Suits surroundings) (forgetful : fresh.validator = none)
    (founded : site.FoundedAlike fresh) (repeatable : surroundings.backends.IsRepeatable)
    (alike : stores.rested = surroundings.backends.rested) (request : Request) :
    site.Continues surroundings (site.answer surroundings request)
      (fresh.answer { surroundings with backends := stores } request) := by
  have served := suits.serve forgetful founded repeatable alike request
  unfold Site.answer
  simp only [← founded.informsOrigins]
  split
  · cases CrossOrigin.question? request with
    | some question => exact suits.continues_unmoved fresh stores _
    | none =>
      simp only [← served.afresh.response]
      split
      · exact served
      · obtain ⟨⟨-, time, downloading⟩, unchanged, suitsAgain, foundedAgain⟩ := served
        exact ⟨⟨rfl, time, downloading⟩, unchanged, suitsAgain, foundedAgain⟩
  · exact served

end Site

end UserDirectory
