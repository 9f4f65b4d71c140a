/-
This file proves that requests do not affect one another. A process meets one request
after another, each in surroundings of its own. As long as tokens are issued as
before, every answer is the one that a site gives which has just been launched there,
except that keys need not be downloaded again. What a site says about origins is
settled when it is launched, and is the one thing that a change of the settings does
not reach.

A search that fails may leave calls behind that go on, and those may keep others
waiting. How a request fares meanwhile is not said here, only that it remembers what
it would remember anyway, and does no more to the stores than to call them. A request
that comes when all earlier calls have ended is undisturbed.
-/

import UserDirectory.Proofs.Search.Lasting
import UserDirectory.Proofs.Web.Launching
import UserDirectory.Proofs.Web.Remembering

namespace UserDirectory

/-! ### Calls of stores -/

/-- Stores as they are left by some calls, whichever they are. -/
inductive Backends.Called (original : Backends) : Backends → Prop where
  | never : Called original original
  | index {backends : Backends} (called : Called original backends) (name : String)
    (query : IndexQuery) :
    Called original { backends with
      index := ((IndexShelf.search name query).run backends.index).state }
  | entries {backends : Backends} (called : Called original backends) (table : BatchTable)
    (request : BatchRequest) :
    Called original { backends with
      entries := ((Entries.serve table request).run backends.entries).state }
  | groups {backends : Backends} (called : Called original backends) (query : PageQuery)
    (start : Option Position) :
    Called original { backends with
      groups := ((PagedShelf.ask query start).run backends.groups).state }
  | tokens {backends : Backends} (called : Called original backends) (query : PageQuery)
    (start : Option Position) :
    Called original { backends with
      tokens := ((PagedShelf.ask query start).run backends.tokens).state }

/-- Calls leave stores as they were at rest. -/
theorem Backends.Called.rested_eq {original backends : Backends}
    (repeatable : original.IsRepeatable) (called : original.Called backends) :
    backends.rested = original.rested := by
  have atRest := repeatable.rested
  -- Each call leaves its own store as it was at rest, and the others alone.
  have kept {σ α : Type} {rest : σ → σ} {call : Call σ Fault α} {state original : σ}
      (repeats : call.Repeats fun other => rest other = original) (same : rest state = original) :
      rest (call.run state).state = original := by
    obtain ⟨_, _, repeats⟩ := repeats
    exact (repeats state same).1
  induction called with
  | never => rfl
  | @index backends called name query inductionHypothesis =>
    have index := kept (IndexShelf.repeats_search atRest.index name query)
      (congrArg Backends.index inductionHypothesis)
    show ({ backends.rested with index := _ } : Backends) = _
    rw [inductionHypothesis]
    exact congrArg (fun index => ({ original.rested with index := index } : Backends)) index
  | @entries backends called table request inductionHypothesis =>
    have entries := kept (Entries.repeats_serve atRest.entries table request)
      (congrArg Backends.entries inductionHypothesis)
    show ({ backends.rested with entries := _ } : Backends) = _
    rw [inductionHypothesis]
    exact congrArg (fun entries => ({ original.rested with entries := entries } : Backends)) entries
  | @groups backends called query start inductionHypothesis =>
    have groups := kept (PagedShelf.repeats_ask atRest.groups query start)
      (congrArg Backends.groups inductionHypothesis)
    show ({ backends.rested with groups := _ } : Backends) = _
    rw [inductionHypothesis]
    exact congrArg (fun groups => ({ original.rested with groups := groups } : Backends)) groups
  | @tokens backends called query start inductionHypothesis =>
    have tokens := kept (PagedShelf.repeats_ask atRest.tokens query start)
      (congrArg Backends.tokens inductionHypothesis)
    show ({ backends.rested with tokens := _ } : Backends) = _
    rw [inductionHypothesis]
    exact congrArg (fun tokens => ({ original.rested with tokens := tokens } : Backends)) tokens

/-! ### Calls that have ended -/

namespace Answer

/-- How long an answer takes in all, in milliseconds. -/
def elapsed (answer : Answer) : Rat :=
  answer.downloading + answer.time

/-- All calls have ended that were made for a good answer. -/
def IsSettled (answer : Answer) : Prop :=
  answer.response.status = 200 → ∀ instant ∈ answer.callsEnd, instant ≤ answer.time

theorem isSettled_of_no_calls (site : Site) (backends : Backends) (downloading : Nat)
    (response : Response) : IsSettled
      { site := site, backends := backends, downloading := downloading, response := response } :=
  fun _ _ member => absurd member List.not_mem_nil

end Answer

namespace Site

theorem isSettled_search (site : Site) (surroundings : Surroundings) (request : Request) :
    (site.search surroundings request).IsSettled := by
  unfold Site.search
  simp only
  split
  · exact Answer.isSettled_of_no_calls _ _ _ _
  · rename_i service criteria session _
    intro succeeds
    cases outcome : (service.search criteria session surroundings.backends).2.outcome with
    | ok page => exact Service.searchEnds_le outcome
    | error failure =>
      simp only [outcome] at succeeds
      cases failure with
      | assembly fault => cases succeeds
      | dependency failure =>
        have status : failure.response.status = if failure.timedOut then 504 else 503 := rfl
        rw [SearchFailure.response, status] at succeeds
        split at succeeds
        · cases succeeds
        · cases succeeds

theorem isSettled_answer (site : Site) (surroundings : Surroundings) (request : Request) :
    (site.answer surroundings request).IsSettled := by
  have unmoved (response : Response) : Answer.IsSettled
      { site := site, backends := surroundings.backends, response := response } :=
    Answer.isSettled_of_no_calls _ _ _ _
  have served : (site.serve surroundings request).IsSettled := by
    unfold Site.serve
    simp only
    split
    · exact unmoved _
    · exact unmoved _
    · split
      · exact unmoved _
      · exact unmoved _
    · split
      · exact unmoved _
      · exact unmoved _
    · split
      · exact unmoved _
      · exact site.isSettled_search surroundings request
  unfold Site.answer
  split
  · split
    · exact unmoved _
    · simp only
      split
      · exact served
      · exact served
  · exact served

end Site

/-! ### Processes -/

/-- A process that runs a site. -/
structure Process where
  /-- The site, with what it remembers. -/
  site : Site
  /-- The instants at which earlier answers were given and at which the calls made for them end. -/
  busy : List Rat

/-- A request that a process meets at an instant, and the answer to it. -/
structure Encounter where
  /-- The process that the request meets. -/
  process : Process
  /-- When it does. -/
  arrival : Rat
  /-- Where it does. -/
  surroundings : Surroundings
  /-- The request. -/
  request : Request
  /-- The answer. -/
  answer : Answer

namespace Encounter

/-- A request is undisturbed if earlier ones are answered and all calls made for them have ended. -/
def IsUndisturbed (encounter : Encounter) : Prop :=
  ∀ instant ∈ encounter.process.busy, instant ≤ encounter.arrival

instance (encounter : Encounter) : Decidable encounter.IsUndisturbed :=
  inferInstanceAs (Decidable (∀ instant ∈ encounter.process.busy, instant ≤ encounter.arrival))

/-- The answer of the site to the request, if nothing disturbs it. -/
def siteAnswer (encounter : Encounter) : Answer :=
  encounter.process.site.answer encounter.surroundings encounter.request

/-- What can happen to a request. If earlier calls go on, then how long it waits for them is not
known, and so neither is the answer; but it has done no more to the stores than to call them, and
checking a token takes no call. -/
inductive Happens (encounter : Encounter) : Prop where
  | undisturbed (alone : encounter.IsUndisturbed)
    (answered : encounter.answer = encounter.siteAnswer)
  | disturbed (waits : ¬ encounter.IsUndisturbed)
    (remembers : encounter.answer.site = encounter.siteAnswer.site)
    (called : encounter.surroundings.backends.Called encounter.answer.backends)

/-- The process after the answer. -/
def left (encounter : Encounter) : Process :=
  let ready := encounter.arrival + encounter.answer.downloading
  ⟨encounter.answer.site, encounter.process.busy ++
    (ready + encounter.answer.time) :: encounter.answer.callsEnd.map (ready + ·)⟩

end Encounter

/-- What happens one after another to the requests that a process meets. -/
inductive Process.Runs : Process → List Encounter → Prop where
  | done (process : Process) : Runs process []
  | next {encounter : Encounter} {rest : List Encounter} (happens : encounter.Happens)
    (later : Runs encounter.left rest) : Runs encounter.process (encounter :: rest)

/-- What happens to requests that arrive at some instants, each in surroundings of its own, if
nothing disturbs them. -/
def Process.encounters (process : Process) :
    List (Rat × Surroundings × Request) → List Encounter
  | [] => []
  | (arrival, surroundings, request) :: rest =>
    let encounter : Encounter :=
      ⟨process, arrival, surroundings, request, process.site.answer surroundings request⟩
    encounter :: encounter.left.encounters rest

theorem Process.runs_encounters {arrivals : List (Rat × Surroundings × Request)}
    {process : Process}
    (undisturbed : ∀ encounter ∈ process.encounters arrivals, encounter.IsUndisturbed) :
    process.Runs (process.encounters arrivals) := by
  induction arrivals generalizing process with
  | nil => exact .done process
  | cons arrival rest inductionHypothesis =>
    rw [encounters, List.forall_mem_cons] at undisturbed
    exact .next (.undisturbed undisturbed.1 rfl) (inductionHypothesis undisturbed.2)

theorem Process.arrival_of_mem_encounters {arrivals : List (Rat × Surroundings × Request)}
    {process : Process} {encounter : Encounter} (member : encounter ∈ process.encounters arrivals) :
    (encounter.arrival, encounter.surroundings, encounter.request) ∈ arrivals := by
  induction arrivals generalizing process with
  | nil => cases member
  | cons arrival rest inductionHypothesis =>
    rcases List.mem_cons.mp member with rfl | inRest
    · exact List.mem_cons_self
    · exact List.mem_cons_of_mem _ (inductionHypothesis inRest)

/-- Whether a site that is launched is one for development. -/
def Surroundings.IsDevelopment (surroundings : Surroundings) : Prop :=
  (surroundings.environment.get? "ENVIRONMENT").getD "development" = "development"

instance (surroundings : Surroundings) : Decidable surroundings.IsDevelopment :=
  inferInstanceAs
    (Decidable ((surroundings.environment.get? "ENVIRONMENT").getD "development" = "development"))

namespace Encounter

/-- A request does not depend on those before. If it is undisturbed, its answer is the one that a
site gives which has just been launched there with nothing to create, and a page of users is given
only when all calls have ended. In any case the stores are left as they were at rest. -/
structure IsIndependent (manual : Manual → Request → Response) (encounter : Encounter) : Prop where
  afresh : encounter.IsUndisturbed → ∀ site left,
    encounter.surroundings.launch manual = .ok (site, left) →
      left.backends.index.existing = encounter.surroundings.backends.index.existing →
        encounter.answer.AsFresh (site.answer left encounter.request)
  settled : encounter.IsUndisturbed → encounter.answer.IsSettled
  unchanged : encounter.answer.backends.rested = encounter.surroundings.backends.rested

/-- The request is answered as if it were the first one to a site that is launched there: with the
same status and body, after the same time. -/
def GoesAsFirst (manual : Manual → Request → Response) (encounter : Encounter) : Prop :=
  ∀ site left, encounter.surroundings.launch manual = .ok (site, left) →
    let first := site.answer left encounter.request
    encounter.answer.response.status = first.response.status ∧
      encounter.answer.response.content = first.response.content ∧
      encounter.answer.elapsed = first.elapsed

end Encounter

/-! ### Sequences of requests -/

/-- A process that remembers what it would find out deals with each request on its own. -/
theorem isIndependent_of_suits {manual : Manual → Request → Response} {process : Process}
    {encounters : List Encounter} (runs : process.Runs encounters)
    (suits : ∀ encounter ∈ encounters, process.site.Suits encounter.surroundings)
    (founded : ∀ encounter ∈ encounters,
      process.site.FoundedAlike (encounter.surroundings.freshSite manual))
    (alike : ∀ first ∈ encounters, ∀ second ∈ encounters,
      first.surroundings.IssuesAlike second.surroundings)
    (repeatable : ∀ encounter ∈ encounters, encounter.surroundings.backends.IsRepeatable) :
    ∀ encounter ∈ encounters, encounter.IsIndependent manual := by
  -- What suits the surroundings of one request suits those of every later one.
  induction runs with
  | done process => exact fun _ member => absurd member List.not_mem_nil
  | @next encounter rest happens later inductionHypothesis =>
    rw [List.forall_mem_cons] at suits founded repeatable
    have continues (stores : Backends)
        (atRest : stores.rested = encounter.surroundings.backends.rested) :
        encounter.process.site.Continues encounter.surroundings encounter.siteAnswer
          ((encounter.surroundings.freshSite manual).answer
            { encounter.surroundings with backends := stores } encounter.request) :=
      suits.1.answer rfl founded.1 repeatable.1 atRest encounter.request
    have itself := continues _ rfl
    have remembers : encounter.answer.site = encounter.siteAnswer.site := by
      cases happens with
      | undisturbed alone answered => rw [answered]
      | disturbed waits remembers called => exact remembers
    refine List.forall_mem_cons.mpr ⟨⟨fun alone site left launch nothing_created => ?_,
      fun alone => ?_, ?_⟩, inductionHypothesis (fun other member => ?_) (fun other member => ?_)
        (fun one inRest other member => ?_) repeatable.2⟩
    · have launched := Surroundings.launched_of_launch launch
      rw [launched.fresh, launched.left_eq]
      cases happens with
      | undisturbed _ answered =>
        rw [answered]
        exact (continues _ (launched.rested_eq nothing_created)).afresh
      | disturbed waits _ _ => exact absurd alone waits
    · cases happens with
      | undisturbed _ answered =>
        rw [answered]
        exact encounter.process.site.isSettled_answer _ _
      | disturbed waits _ _ => exact absurd alone waits
    · cases happens with
      | undisturbed _ answered =>
        rw [answered]
        exact itself.unchanged
      | disturbed _ _ called => exact called.rested_eq repeatable.1
    · show encounter.answer.site.Suits other.surroundings
      rw [remembers]
      exact itself.suits.of_alike
        (alike encounter List.mem_cons_self other (List.mem_cons_of_mem _ member))
    · show encounter.answer.site.FoundedAlike _
      rw [remembers]
      have asBefore := founded.2 other member
      exact ⟨itself.founded.informsOrigins.trans asBefore.informsOrigins,
        itself.founded.manual.trans asBefore.manual⟩
    · exact alike one (List.mem_cons_of_mem _ inRest) other (List.mem_cons_of_mem _ member)

namespace Process

/-- Requests do not affect one another. As long as tokens are issued alike and the settings agree
with those at the launch on whether this is development, every request that is undisturbed is
answered as by a site that has just been launched in its place, and none changes what is stored. -/
theorem answers_independent {manual : Manual → Request → Response} {start left : Surroundings}
    {site : Site} (launch : start.launch manual = .ok (site, left)) {encounters : List Encounter}
    (runs : Process.Runs ⟨site, []⟩ encounters)
    (alike : ∀ first ∈ encounters, ∀ second ∈ encounters,
      first.surroundings.IssuesAlike second.surroundings)
    (development : ∀ encounter ∈ encounters,
      start.IsDevelopment ↔ encounter.surroundings.IsDevelopment)
    (repeatable : ∀ encounter ∈ encounters, encounter.surroundings.backends.IsRepeatable) :
    ∀ encounter ∈ encounters, encounter.IsIndependent manual := by
  obtain rfl := (Surroundings.launched_of_launch launch).fresh
  refine isIndependent_of_suits runs (fun _ _ => ?_) (fun encounter member => ?_) alike repeatable
  · exact fun _ remembered => nomatch remembered
  · exact ⟨decide_eq_decide.mpr (development encounter member), rfl⟩

end Process

namespace Sample

/-- Surroundings with a kind of environment, in which the published keys come late and some users
are stored, unless their store always fails. -/
def surroundings (kind : String) (delay : Nat) (sample : Sample)
    (failure : Option FailureRule := none) : Surroundings where
  environment := ⟨[("ENVIRONMENT", kind), ("ENTRA_TENANT_ID", "tid"), ("ENTRA_CLIENT_ID", "cid"),
    ("OPENSEARCH_HOSTS", "http://index"), ("DYNAMODB_USERS_TABLE_NAME", "users"),
    ("DYNAMODB_GROUP_MEMBERSHIPS_TABLE_NAME", "groups"),
    ("DYNAMODB_USER_TOKENS_TABLE_NAME", "tokens"),
    ("DYNAMODB_MANAGED_USERS_TABLE_NAME", "managed")]⟩
  publication := .late delay (.keys ["key"])
  reader := fun text => if text = "good" then
      some ⟨.obj [("kid", .str "key"), ("alg", .str "RS256")],
        .obj [("iss", .str "https://login.microsoftonline.com/tid/v2.0"), ("aud", .str "cid"),
          ("oid", .str "u2")], .byKey "key"⟩
    else none
  now := 0
  backends := { sample.backends with
    index := { sample.backends.index with existing := ["users"] }
    entries := { sample.backends.entries with
      users := { sample.backends.entries.users with
        desk := { delay := sample.delay, failure := failure } } } }

/-- A search that carries a token. -/
def tokenRequest (token : String) : Request :=
  ⟨"testserver", "GET", "/api/users/search", "", [("Authorization", "Bearer " ++ token)]⟩

/-- The question of a page of the front end whether it may ask. -/
def originQuestion : Request :=
  ⟨"testserver", "OPTIONS", "/ping", "",
    [("Origin", "http://localhost:4200"), ("Access-Control-Request-Method", "GET")]⟩

/-- Surroundings of this kind, in which no failure is counted. -/
def IsHome (home : Surroundings) : Prop :=
  ∃ kind delay sample failure, home = surroundings kind delay sample failure ∧
    ∀ number cause, failure ≠ some (.atCall number cause)

theorem isHome (kind : String) (delay : Nat) (sample : Sample) :
    IsHome (surroundings kind delay sample) :=
  ⟨kind, delay, sample, none, rfl, nofun⟩

theorem isHome_failing (kind : String) (delay : Nat) (sample : Sample) (cause : Outage) :
    IsHome (surroundings kind delay sample (some (.always cause))) :=
  ⟨kind, delay, sample, some (.always cause), rfl, nofun⟩

theorem IsHome.alike {first second : Surroundings} (one : IsHome first) (other : IsHome second) :
    first.IssuesAlike second := by
  obtain ⟨kind, delay, sample, failure, rfl, -⟩ := one
  obtain ⟨otherKind, otherDelay, otherSample, otherFailure, rfl, -⟩ := other
  exact ⟨rfl, rfl, rfl⟩

theorem IsHome.repeatable {home : Surroundings} (isHome : IsHome home) :
    home.backends.IsRepeatable := by
  obtain ⟨kind, delay, sample, failure, rfl, uncounted⟩ := isHome
  exact ⟨nofun, ⟨⟨uncounted, rfl⟩, ⟨nofun, rfl⟩⟩, ⟨nofun, nofun⟩, ⟨nofun, nofun⟩⟩

/-- A process that has been launched in a kind of environment. -/
def process (kind : String) : Process :=
  ⟨(surroundings kind 0 {}).freshSite unwritten, []⟩

/-- A token comes twice, the second time among other users. Then comes one that is none. Then
records cannot be read, and when groups have been read in vain the question of a page comes. -/
def arrivals : List (Rat × Surroundings × Request) :=
  [(0, surroundings "development" 200 {}, tokenRequest "good"),
    (1000, surroundings "development" 300 disguised, tokenRequest "good"),
    (2000, surroundings "development" 300 {}, tokenRequest "bad"),
    (3000, surroundings "development" 300 {} (some (.always ⟨.connection, "lost"⟩)),
      tokenRequest "good"),
    (3070, surroundings "development" 300 {}, originQuestion)]

/-- A page asks once before and once after it has come about that this is development. -/
def changes : List (Rat × Surroundings × Request) :=
  [(0, surroundings "production" 0 {}, originQuestion),
    (1000, surroundings "development" 0 {}, originQuestion)]

/-- A token comes twice, while keys come late. -/
def repetition : List (Rat × Surroundings × Request) :=
  [(0, surroundings "development" 200 {}, tokenRequest "good"),
    (1000, surroundings "development" 200 {}, tokenRequest "good")]

theorem isHome_arrivals : ∀ arrival ∈ arrivals, IsHome arrival.2.1 := by
  intro arrival member
  simp only [arrivals, List.mem_cons, List.not_mem_nil, or_false] at member
  rcases member with rfl | rfl | rfl | rfl | rfl
  · exact isHome _ _ _
  · exact isHome _ _ _
  · exact isHome _ _ _
  · exact isHome_failing _ _ _ _
  · exact isHome _ _ _

theorem isHome_changes : ∀ arrival ∈ changes, IsHome arrival.2.1 := by
  intro arrival member
  simp only [changes, List.mem_cons, List.not_mem_nil, or_false] at member
  rcases member with rfl | rfl
  · exact isHome _ _ _
  · exact isHome _ _ _

theorem isHome_repetition : ∀ arrival ∈ repetition, IsHome arrival.2.1 := by
  intro arrival member
  simp only [repetition, List.mem_cons, List.not_mem_nil, or_false] at member
  rcases member with rfl | rfl
  · exact isHome _ _ _
  · exact isHome _ _ _

/-- Any two requests that arrive at home come where tokens are issued alike. -/
theorem alike_of_isHome {process : Process} {arrivals : List (Rat × Surroundings × Request)}
    (home : ∀ arrival ∈ arrivals, IsHome arrival.2.1) :
    ∀ first ∈ process.encounters arrivals, ∀ second ∈ process.encounters arrivals,
      first.surroundings.IssuesAlike second.surroundings :=
  fun _ first _ second =>
    (home _ (Process.arrival_of_mem_encounters first)).alike
      (home _ (Process.arrival_of_mem_encounters second))

theorem repeatable_of_isHome {process : Process} {arrivals : List (Rat × Surroundings × Request)}
    (home : ∀ arrival ∈ arrivals, IsHome arrival.2.1) :
    ∀ encounter ∈ process.encounters arrivals, encounter.surroundings.backends.IsRepeatable :=
  fun _ member => (home _ (Process.arrival_of_mem_encounters member)).repeatable

/-- Requests to a process come where tokens are issued alike and nothing is used up, none is
disturbed, and still one is not answered as if it were the first. -/
structure Depends (kind : String) (arrivals : List (Rat × Surroundings × Request)) : Prop where
  launched : ∃ left, (surroundings kind 0 {}).launch unwritten = .ok ((process kind).site, left)
  runs : (process kind).Runs ((process kind).encounters arrivals)
  undisturbed : ∀ encounter ∈ (process kind).encounters arrivals, encounter.IsUndisturbed
  alike : ∀ first ∈ (process kind).encounters arrivals,
    ∀ second ∈ (process kind).encounters arrivals,
      first.surroundings.IssuesAlike second.surroundings
  repeatable : ∀ encounter ∈ (process kind).encounters arrivals,
    encounter.surroundings.backends.IsRepeatable
  depends : ∃ encounter ∈ (process kind).encounters arrivals, ¬ encounter.GoesAsFirst unwritten

theorem depends_changes : Depends "production" changes := by
  have undisturbed : ∀ encounter ∈ (process "production").encounters changes,
      encounter.IsUndisturbed := by decide +kernel
  refine ⟨⟨_, Surroundings.launch_eq_ok (by decide +kernel)⟩, Process.runs_encounters undisturbed,
    undisturbed, alike_of_isHome isHome_changes, repeatable_of_isHome isHome_changes,
    ⟨_, List.mem_cons_of_mem _ List.mem_cons_self, fun goesAsFirst => ?_⟩⟩
  -- The first site says that the method is not allowed, the second one answers the question.
  obtain ⟨status, -⟩ := goesAsFirst _ _ (Surroundings.launch_eq_ok (by decide +kernel))
  exact absurd status (by decide +kernel)

theorem depends_repetition : Depends "development" repetition := by
  have undisturbed : ∀ encounter ∈ (process "development").encounters repetition,
      encounter.IsUndisturbed := by decide +kernel
  refine ⟨⟨_, Surroundings.launch_eq_ok (by decide +kernel)⟩, Process.runs_encounters undisturbed,
    undisturbed, alike_of_isHome isHome_repetition, repeatable_of_isHome isHome_repetition,
    ⟨_, List.mem_cons_of_mem _ List.mem_cons_self, fun goesAsFirst => ?_⟩⟩
  -- The first site knows the keys already, the second one downloads them.
  obtain ⟨-, -, elapsed⟩ := goesAsFirst _ _ (Surroundings.launch_eq_ok (by decide +kernel))
  exact absurd elapsed (by decide +kernel)

end Sample

namespace Process

/-- A token is used twice, its keys being downloaded once; another one is rejected; a search fails;
and a question about origins is answered. Each of these requests is answered on its own, as by a
site that can be launched there. -/
theorem sample_answers_independent :
    (∃ left, (Sample.surroundings "development" 0 {}).launch unwritten =
      .ok ((Sample.process "development").site, left)) ∧
    (((Sample.process "development").encounters Sample.arrivals).map fun encounter =>
        (encounter.answer.response.status, encounter.answer.downloading, encounter.answer.time)) =
      [(200, 200, 91), (200, 0, 89), (401, 0, 0), (503, 0, 30), (200, 0, 0)] ∧
    ∀ encounter ∈ (Sample.process "development").encounters Sample.arrivals,
      encounter.IsUndisturbed ∧ encounter.IsIndependent unwritten ∧
        ∃ site left, encounter.surroundings.launch unwritten = .ok (site, left) ∧
          encounter.answer.AsFresh (site.answer left encounter.request) := by
  have undisturbed : ∀ encounter ∈ (Sample.process "development").encounters Sample.arrivals,
      encounter.IsUndisturbed := by decide +kernel
  have prepared : ∀ encounter ∈ (Sample.process "development").encounters Sample.arrivals,
      ((prepare encounter.surroundings.environment).run
          encounter.surroundings.backends.index).outcome = .ok () ∧
        encounter.surroundings.prepared.backends.index.existing =
          encounter.surroundings.backends.index.existing := by decide +kernel
  have launch : (Sample.surroundings "development" 0 {}).launch unwritten =
      .ok ((Sample.process "development").site, _) :=
    Surroundings.launch_eq_ok (by decide +kernel)
  have independent := answers_independent launch (runs_encounters undisturbed)
    (Sample.alike_of_isHome Sample.isHome_arrivals) (by decide +kernel)
    (Sample.repeatable_of_isHome Sample.isHome_arrivals)
  refine ⟨⟨_, launch⟩, by decide +kernel, fun encounter member => ⟨undisturbed encounter member,
    independent encounter member, ?_⟩⟩
  obtain ⟨succeeds, nothing_created⟩ := prepared encounter member
  have relaunch : encounter.surroundings.launch unwritten = .ok _ :=
    Surroundings.launch_eq_ok succeeds
  exact ⟨_, _, relaunch, (independent encounter member).afresh (undisturbed encounter member) _ _
    relaunch nothing_created⟩

/-- What is said of origins depends on the settings at the launch, and the time that an answer takes
on whether keys have been downloaded before. -/
theorem answers_depend_on_launch :
    Sample.Depends "production" Sample.changes ∧
      Sample.Depends "development" Sample.repetition :=
  ⟨Sample.depends_changes, Sample.depends_repetition⟩

end Process

end UserDirectory
