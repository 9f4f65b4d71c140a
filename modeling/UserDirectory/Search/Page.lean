/-
Putting a page of users together. The index gives the order; the records, groups, tokens and managed
users come from their own stores. Each user is shown as the caller may see it, and what other stores
say of it is checked only as far as it is shown.
-/

import UserDirectory.Avatar
import UserDirectory.Criteria
import UserDirectory.Lookup.Groups
import UserDirectory.Lookup.Managed
import UserDirectory.Lookup.Tokens
import UserDirectory.Lookup.Users
import UserDirectory.Search.Failure
import UserDirectory.Visibility

namespace UserDirectory

/-- Where a page stands among all results. -/
structure Paging where
  /-- The page, from 1. -/
  pageIndex : Int
  /-- The size of a page. -/
  pageSize : Int
  /-- The number of all results. -/
  total : Int
deriving Repr, DecidableEq

/-- A page of users as a caller sees it. -/
structure SearchResponse where
  /-- Where the page stands. -/
  paging : Paging
  /-- The users of the page. -/
  users : List UserView
deriving Repr, DecidableEq

/-- A page of users as it is sent. -/
def SearchResponse.toJson (response : SearchResponse) : Json :=
  .obj [
    ("paging", .obj [
      ("pageIndex", .int response.paging.pageIndex),
      ("pageSize", .int response.paging.pageSize),
      ("total", .int response.paging.total)]),
    ("users", .arr (response.users.map UserView.toJson))]

/-- The page of given users that criteria ask for. -/
def Criteria.response (criteria : Criteria) (total : Int) (users : List UserView) :
    SearchResponse :=
  ⟨⟨criteria.page, criteria.pageSize, total⟩, users⟩

/-- What the stores know of the users of a page. -/
structure Gathering where
  /-- The records. -/
  records : List Record
  /-- The names of groups by login. -/
  groups : List (String × List Json)
  /-- The numbers of tokens by login. -/
  tokenCounts : List (String × Json)
  /-- Whether users are managed, by identifier. -/
  managed : List (String × Bool)

/-- Check what other stores say of a user, as far as the tiers show it. -/
def Extras.check (tiers : Tiers) (avatar : Json) (groups : List Json) (tokens : Json)
    (managed : Bool) : Checked Extras :=
  Extras.mk
    <$> (if tiers.includes "avatar" then
           (Checked.optionalText (avatar.orElse .null)).under (.field "avatar")
         else pure none)
    <*> (if tiers.includes "groups" then (Checked.texts groups).under (.field "groups")
         else pure [])
    <*> (if tiers.includes "tokensCount" then
           (Checked.optionalWhole tokens).under (.field "tokensCount")
         else pure none)
    <*> pure managed

/-- The avatar of a user, if the tiers show it and the user has an email. -/
def Record.shownAvatar (record : Record) (resolver : Record → Except Fault String)
    (tiers : Tiers) : Except SearchFailure (Option String) :=
  if tiers.includes "avatar" && (record.email.filter (· ≠ "")).isSome then
    match resolver record with
    | .ok avatar => .ok (some avatar)
    | .error fault => .error (.dependency ⟨.avatarResolver, .failed fault⟩)
  else .ok none

/-- A user of the page as the caller of a session sees it. -/
def Gathering.view (gathering : Gathering) (session : Session)
    (resolver : Record → Except Fault String) (record : Record) :
    Except SearchFailure UserView := do
  let tiers ← (Tiers.decide session record.userId).mapError .assembly
  let avatar ← record.shownAvatar resolver tiers
  let extras ← (Extras.check tiers ((avatar.map .str).getD .null)
    (groupsOf gathering.groups record.login)
    (tokensOf gathering.tokenCounts record.login)
    (isManaged gathering.managed record.userId)).outcome.mapError .assembly
  pure (record.view tiers extras)

/-- The users of a page in the order of the index. -/
def Gathering.views (gathering : Gathering) (session : Session)
    (resolver : Record → Except Fault String) (logins : List String) :
    Except SearchFailure (List UserView) :=
  (orderByLogins gathering.records logins).mapM (gathering.view session resolver)

end UserDirectory
