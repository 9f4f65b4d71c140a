/-
What a caller searches for. The parameters of a request are filled up with defaults and checked
against the limits of the search; of several violations the first in a fixed order is reported.
Accepted criteria keep every request to the index within the results that it can return. A violation
is worded with the numbers at fault, and numbers of too many digits cannot be written.
-/

import UserDirectory.Fault

namespace UserDirectory

/-- The page shown when none is asked for. -/
def defaultPage : Int := 1

/-- The size of a page when none is asked for. -/
def defaultPageSize : Int := 50

/-- The greatest size of a page. -/
def maxPageSize : Int := 500

/-- How far into the results a page may reach. -/
def maxReturnableResults : Int := 10000

/-- The fewest characters of a text to search for. -/
def minQueryLength : Nat := 2

/-- A parameter of a search that has limits. -/
inductive Parameter where
  /-- The text to search for. -/
  | query
  /-- The page. -/
  | page
  /-- The size of a page. -/
  | pageSize
deriving Repr, DecidableEq

/-- The name of a parameter in a request. -/
def Parameter.name : Parameter → String
  | .query => "q"
  | .page => "p"
  | .pageSize => "ps"

/-- How the parameters of a search violate its limits. -/
inductive Violation where
  /-- The page is too large. -/
  | pageTooLarge
  /-- The page has no room. -/
  | pageTooSmall (size : Int)
  /-- There is no such page. -/
  | noSuchPage (page : Int)
  /-- The page reaches too far into the results. -/
  | tooFar (last : Int)
  /-- The text to search for is too short. -/
  | queryTooShort (length : Nat)
deriving Repr, DecidableEq

namespace Violation

/-- The parameter that a violation is about. -/
def parameter : Violation → Parameter
  | .pageTooLarge | .pageTooSmall _ => .pageSize
  | .noSuchPage _ | .tooFar _ => .page
  | .queryTooShort _ => .query

/-- The limit that is violated. -/
def limit : Violation → Int
  | .pageTooLarge => maxPageSize
  | .pageTooSmall _ | .noSuchPage _ => 1
  | .tooFar _ => maxReturnableResults
  | .queryTooShort _ => minQueryLength

/-- The wording of a violation. -/
def message : Violation → String
  | .pageTooLarge =>
    "The '" ++ Parameter.pageSize.name ++ "' parameter must be less than " ++ toString maxPageSize
  | .pageTooSmall size => "Page size must be greater or equal to 1 (got " ++ toString size ++ ")"
  | .noSuchPage page => "Page must be greater or equal to 1 (got " ++ toString page ++ ")"
  | .tooFar last =>
    "Can return only the first " ++ toString maxReturnableResults ++ " results. " ++ toString last
      ++ "th result asked."
  | .queryTooShort length =>
    "'" ++ Parameter.query.name ++ "' length (" ++ toString length
      ++ ") is shorter than the minimum authorized (" ++ toString minQueryLength ++ ")"

/-- Whether the number that a violation is worded with can be written. -/
def isWritable : Violation → Bool
  | .pageTooSmall size => Number.isWritable size
  | .noSuchPage page => Number.isWritable page
  | .tooFar last => Number.isWritable last
  | .pageTooLarge | .queryTooShort _ => true

end Violation

/-- Why the parameters of a search are refused. -/
inductive Refusal where
  /-- They violate a limit. -/
  | violation (violation : Violation)
  /-- They violate a limit, and the violation cannot be worded. -/
  | fault (fault : Fault)
deriving Repr, DecidableEq

/-- The refusal for a violation. -/
def Violation.refusal (violation : Violation) : Refusal :=
  if violation.isWritable then .violation violation else .fault .unwritable

/-- What a caller searches for. -/
structure Criteria where
  /-- The text to search for; nothing means every user. -/
  query : Option String
  /-- Whether deactivated users are searched instead of active ones. -/
  deactivated : Bool
  /-- The page, from 1. -/
  page : Int
  /-- The size of a page. -/
  pageSize : Int
deriving Repr, DecidableEq

namespace Criteria

/-- How many results come before the page. -/
def offset (criteria : Criteria) : Int :=
  (criteria.page - 1) * criteria.pageSize

/-- The first violated limit, if there is one. -/
def violation? (query : Option String) (page pageSize : Int) : Option Violation :=
  if maxPageSize < pageSize then some .pageTooLarge
  else if pageSize < 1 then some (.pageTooSmall pageSize)
  else if page < 1 then some (.noSuchPage page)
  else if maxReturnableResults < page * pageSize then some (.tooFar (page * pageSize))
  else match query with
    | some text => if text.length < minQueryLength then some (.queryTooShort text.length) else none
    | none => none

/-- The criteria of the parameters of a request. Parameters that are absent take their defaults, and
an empty text means none. -/
def ofParameters (query : Option String) (deactivated : Option Bool) (page pageSize : Option Int) :
    Except Refusal Criteria :=
  let query := query.filter (· ≠ "")
  let page := page.getD defaultPage
  let pageSize := pageSize.getD defaultPageSize
  match violation? query page pageSize with
  | some violation => .error violation.refusal
  | none => .ok ⟨query, deactivated.getD false, page, pageSize⟩

end Criteria

end UserDirectory
