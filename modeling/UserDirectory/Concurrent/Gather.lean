/-
A watch over several tasks, step by step. All tasks begin at once, and from then on one thing
happens after the other: a task ends what it is doing, or whoever waits is cancelled, which at one
instant comes before every end. After each of them whoever waits looks at what has ended. As long as
all values can still come it goes on waiting. The first task that ended without a value is the
reason why they cannot: then every task that has not ended is cancelled, and the reason is reported
once all have ended. A task that is cancelled at its work cleans up, and one that is cancelled while
it cleans up leaves the rest undone. What takes no time at all is never interrupted.
-/

import UserDirectory.Concurrent.Task

namespace UserDirectory

variable {ε α : Type}

/-! ### Tasks that have begun -/

/-- Why a gathering has no values. -/
inductive Stop (ε : Type) where
  /-- A task failed, or the cleanup of a cancelled one. -/
  | failed (failure : ε)
  /-- Whoever waited was cancelled. -/
  | cancelled
deriving Repr, DecidableEq

/-- Where a task stands. -/
inductive Standing where
  /-- It is at its work. -/
  | working
  /-- It was cancelled at an instant and cleans up. -/
  | cleaning (since : Nat)
  /-- It has ended. -/
  | ended (course : Course)
deriving Repr, DecidableEq

/-- A task that has begun. -/
structure Job (ε α : Type) where
  /-- The task. -/
  task : Task ε α
  /-- Where it stands. -/
  standing : Standing

namespace Job

/-- A task when it begins. One that takes no time has ended by then. -/
def ofTask (task : Task ε α) : Job ε α :=
  ⟨task, if task.duration = 0 then .ended task.ownCourse else .working⟩

/-- When a task ends what it is doing, unless it has ended. -/
def due? (job : Job ε α) : Option Nat :=
  match job.standing with
  | .working => some job.task.duration
  | .cleaning since => some (since + job.task.cleanup)
  | .ended _ => none

/-- Whether a task has ended. -/
def hasEnded (job : Job ε α) : Bool :=
  job.due?.isNone

/-- End what a task is doing. -/
def finish (job : Job ε α) : Job ε α :=
  match job.standing with
  | .working => ⟨job.task, .ended job.task.ownCourse⟩
  | .cleaning since => ⟨job.task, .ended ⟨.cancelled, since + job.task.cleanup⟩⟩
  | .ended _ => job

/-- Cancel a task at an instant. -/
def cancel (instant : Nat) (job : Job ε α) : Job ε α :=
  match job.standing with
  | .working =>
    ⟨job.task, if job.task.cleanup = 0 then .ended ⟨.cancelled, instant⟩ else .cleaning instant⟩
  | .cleaning _ => ⟨job.task, .ended ⟨.abandoned, instant⟩⟩
  | .ended _ => job

/-- The course of a task that has ended. -/
def course? (job : Job ε α) : Option Course :=
  match job.standing with
  | .ended course => some course
  | _ => none

/-- The value of a task that has ended with one. -/
def value? (job : Job ε α) : Option α :=
  match job.standing with
  | .ended ⟨.done, _⟩ => job.task.outcome.toOption
  | _ => none

/-- What a task reports that has ended without a value. -/
def complaint? (job : Job ε α) : Option (Stop ε) :=
  match job.standing with
  | .ended ⟨.failed, _⟩ => job.task.failure?.map .failed
  | .ended ⟨.cancelled, _⟩ =>
    match job.task.cleanupFailure with
    | some failure => some (.failed failure)
    | none => some .cancelled
  | .ended ⟨.abandoned, _⟩ => some .cancelled
  | _ => none

end Job

/-- An instant at which something is due, and for what in a list. -/
structure Due where
  /-- The position in the list. -/
  position : Nat
  /-- The instant. -/
  instant : Nat
deriving Repr, DecidableEq

/-- What is due first in a list, the earlier one of two that are due at one instant. -/
def earliest {β : Type} (due? : β → Option Nat) : List β → Option Due
  | [] => none
  | first :: rest =>
    let later := (earliest due? rest).map fun due => { due with position := due.position + 1 }
    match due? first with
    | none => later
    | some instant =>
      match later with
      | none => some ⟨0, instant⟩
      | some later => if instant ≤ later.instant then some ⟨0, instant⟩ else some later

/-- What is due first is due somewhere in the list. -/
theorem due_of_earliest {β : Type} {due? : β → Option Nat} {items : List β} {due : Due}
    (first : earliest due? items = some due) :
    ∃ item, items[due.position]? = some item ∧ due? item = some due.instant := by
  induction items generalizing due with
  | nil => cases first
  | cons item rest inductionHypothesis =>
    have inRest {later : Due}
        (mapped : (earliest due? rest).map (fun due => { due with position := due.position + 1 }) =
          some later) :
        ∃ other, (item :: rest)[later.position]? = some other ∧
          due? other = some later.instant := by
      obtain ⟨due, first, rfl⟩ := Option.map_eq_some_iff.mp mapped
      exact inductionHypothesis first
    simp only [earliest] at first
    split at first
    · exact inRest first
    · rename_i instant own
      split at first
      · cases first
        exact ⟨item, rfl, own⟩
      · rename_i later mapped
        split at first
        · cases first
          exact ⟨item, rfl, own⟩
        · cases first
          exact inRest mapped

/-! ### Waiting -/

/-- What whoever waits is doing. -/
inductive Waiter (ε α : Type) where
  /-- It waits for the values. -/
  | gathering
  /-- It waits until all tasks have ended, to report why there are no values. -/
  | stopping (reason : Stop ε)
  /-- It has the values, or has reported why there are none. -/
  | finished (outcome : Except (Stop ε) (List α))

/-- What becomes of the waiting when it is cancelled. Whatever was to be reported is lost. -/
def Waiter.cancel : Waiter ε α → Waiter ε α
  | .stopping _ => .stopping .cancelled
  | waiter => waiter

/-- What happens while tasks are watched. -/
inductive Event where
  /-- A task ends what it is doing. -/
  | ends (due : Due)
  /-- Whoever waits is cancelled at an instant. -/
  | cancelled (instant : Nat)
deriving Repr, DecidableEq

/-- A watch over several tasks. -/
structure Watch (ε α : Type) where
  /-- When something happened last. -/
  clock : Nat
  /-- The tasks. -/
  jobs : List (Job ε α)
  /-- What whoever waits is doing. -/
  waiter : Waiter ε α
  /-- When whoever waits is still to be cancelled. -/
  cancellation : Option Nat

namespace Watch

/-- Whether all tasks have ended. -/
def allEnded (watch : Watch ε α) : Bool :=
  watch.jobs.all Job.hasEnded

/-- Report why there are no values if all tasks have ended. -/
def settle (watch : Watch ε α) : Watch ε α :=
  match watch.waiter with
  | .stopping reason =>
    if watch.allEnded then { watch with waiter := .finished (.error reason) } else watch
  | _ => watch

/-- Give up the values for a reason: cancel every task that has not ended. -/
def giveUp (watch : Watch ε α) (reason : Stop ε) : Watch ε α :=
  settle { watch with jobs := watch.jobs.map (Job.cancel watch.clock), waiter := .stopping reason }

/-- Look at what has ended. -/
def look (watch : Watch ε α) : Watch ε α :=
  match watch.waiter with
  | .gathering =>
    match watch.jobs.findSome? Job.complaint? with
    | some reason => watch.giveUp reason
    | none =>
      if watch.allEnded then
        { watch with waiter := .finished (.ok (watch.jobs.filterMap Job.value?)) }
      else watch
  | _ => watch.settle

/-- Begin to watch tasks; whoever waits may be cancelled at an instant. -/
def start (tasks : List (Task ε α)) (cancellation : Option Nat) : Watch ε α :=
  look ⟨0, tasks.map Job.ofTask, .gathering, cancellation⟩

/-- What happens next. Nothing does when the waiting is over. -/
def next? (watch : Watch ε α) : Option Event :=
  match watch.waiter with
  | .finished _ => none
  | _ =>
    match earliest Job.due? watch.jobs, watch.cancellation with
    | some due, some instant =>
      some (if instant ≤ due.instant then .cancelled instant else .ends due)
    | some due, none => some (.ends due)
    | none, some instant => some (.cancelled instant)
    | none, none => none

/-- The watch after something has happened. -/
def after (watch : Watch ε α) : Event → Watch ε α
  | .ends due =>
    look { watch with
      clock := due.instant
      jobs := watch.jobs.modify due.position Job.finish }
  | .cancelled instant =>
    look ⟨instant, watch.jobs.map (Job.cancel instant), watch.waiter.cancel, none⟩

/-! ### Every event uses something up -/

/-- How many things can still happen: the tasks that have not ended, and the cancellation. -/
def remaining (watch : Watch ε α) : Nat :=
  watch.jobs.countP (!·.hasEnded) + watch.cancellation.toList.length

theorem countP_cancel_le (instant : Nat) (jobs : List (Job ε α)) :
    (jobs.map (Job.cancel instant)).countP (!·.hasEnded) ≤ jobs.countP (!·.hasEnded) := by
  rw [List.countP_map]
  refine List.countP_mono_left fun job _ pending => ?_
  obtain ⟨task, standing⟩ := job
  cases standing with
  | working => rfl
  | cleaning since => rfl
  | ended course => exact pending

theorem remaining_settle (watch : Watch ε α) : watch.settle.remaining = watch.remaining := by
  unfold settle
  split
  · split <;> rfl
  · rfl

theorem remaining_look_le (watch : Watch ε α) : watch.look.remaining ≤ watch.remaining := by
  unfold look
  split
  · split
    · rw [giveUp, remaining_settle]
      exact Nat.add_le_add_right (countP_cancel_le _ _) _
    · split <;> exact Nat.le_refl _
  · exact Nat.le_of_eq (remaining_settle watch)

theorem countP_finish {jobs : List (Job ε α)} {position : Nat} {job : Job ε α}
    (there : jobs[position]? = some job) (pending : job.hasEnded = false) :
    (jobs.modify position Job.finish).countP (!·.hasEnded) < jobs.countP (!·.hasEnded) := by
  have ended : job.finish.hasEnded = true := by
    obtain ⟨task, standing⟩ := job
    cases standing <;> rfl
  induction jobs generalizing position with
  | nil => cases there
  | cons first rest inductionHypothesis =>
    cases position with
    | zero =>
      cases there
      rw [List.modify_zero_cons, List.countP_cons_of_neg (by simp [ended]),
        List.countP_cons_of_pos (by simp [pending])]
      exact Nat.lt_succ_self _
    | succ position =>
      rw [List.modify_succ_cons, List.countP_cons, List.countP_cons]
      exact Nat.add_lt_add_right (inductionHypothesis there) _

/-- What can happen: a task ends what is due first, before any cancellation, or whoever waits is
cancelled, not after anything that is due. -/
theorem next_cases {watch : Watch ε α} {event : Event} (next : watch.next? = some event) :
    (∃ due, event = .ends due ∧ earliest Job.due? watch.jobs = some due ∧
      ∀ instant, watch.cancellation = some instant → due.instant < instant) ∨
    (∃ instant, event = .cancelled instant ∧ watch.cancellation = some instant ∧
      ∀ due, earliest Job.due? watch.jobs = some due → instant ≤ due.instant) := by
  unfold next? at next
  split at next
  · cases next
  · cases first : earliest Job.due? watch.jobs with
    | none =>
      cases pending : watch.cancellation with
      | none => simp [first, pending] at next
      | some instant => exact .inr ⟨instant, by simp_all, rfl, nofun⟩
    | some due =>
      cases pending : watch.cancellation with
      | none => exact .inl ⟨due, by simp_all, rfl, nofun⟩
      | some instant =>
        simp only [first, pending, Option.some.injEq] at next
        split at next
        · exact .inr ⟨instant, next.symm, rfl, fun _ same => Option.some.inj same ▸ ‹_›⟩
        · exact .inl ⟨due, next.symm, rfl, fun _ same =>
            Option.some.inj same ▸ Nat.lt_of_not_le ‹_›⟩

theorem remaining_after_lt {watch : Watch ε α} {event : Event} (next : watch.next? = some event) :
    (watch.after event).remaining < watch.remaining := by
  obtain ⟨due, rfl, first, _⟩ | ⟨instant, rfl, pending, _⟩ := next_cases next
  · obtain ⟨job, there, isDue⟩ := due_of_earliest first
    refine Nat.lt_of_le_of_lt (remaining_look_le _) (Nat.add_lt_add_right ?_ _)
    exact countP_finish there (by rw [Job.hasEnded, isDue]; rfl)
  · refine Nat.lt_of_le_of_lt (remaining_look_le _) ?_
    rw [remaining, remaining, pending]
    exact Nat.lt_succ_of_le (countP_cancel_le _ _)

/-! ### Watching to the end -/

/-- The watch when nothing more happens. -/
def run (watch : Watch ε α) : Watch ε α :=
  match _happens : watch.next? with
  | none => watch
  | some event => (watch.after event).run
termination_by watch.remaining
decreasing_by exact remaining_after_lt _happens

theorem run_of_still {watch : Watch ε α} (still : watch.next? = none) : watch.run = watch := by
  rw [run]
  split
  · rfl
  · rename_i next
    cases still.symm.trans next

theorem run_of_next {watch : Watch ε α} {event : Event} (next : watch.next? = some event) :
    watch.run = (watch.after event).run := by
  rw [run]
  split
  · rename_i still
    cases still.symm.trans next
  · rename_i happens
    cases next.symm.trans happens
    rfl

end Watch

/-- The outcome of waiting for tasks, and the course of each. -/
structure Gathered (ε α : Type) where
  /-- When the waiting ended. -/
  time : Nat
  /-- The values in the order of the tasks, or why there are none. -/
  outcome : Except (Stop ε) (List α)
  /-- The course of each task. -/
  courses : List Course

/-- What a watch has come to. One that is not over has no values. -/
def Watch.gathered (watch : Watch ε α) : Gathered ε α where
  time := watch.clock
  outcome := match watch.waiter with
    | .finished outcome => outcome
    | .stopping reason => .error reason
    | .gathering => .error .cancelled
  courses := watch.jobs.filterMap Job.course?

/-- Gather tasks; whoever waits may be cancelled at an instant. A cancellation after the end has no
effect. -/
def Gather.gather (tasks : List (Task ε α)) (cancelled : Option Nat) : Gathered ε α :=
  (Watch.start tasks cancelled).run.gathered

end UserDirectory
