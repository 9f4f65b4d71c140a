/-
This file proves that nothing is left running when the waiting for several tasks
ends, whatever the tasks do and whenever whoever waits is cancelled. Two things
hold of a watch at every time. Whatever has ended has ended by now, and whatever
is still to come is due from now on, so that the clock never runs backwards. And
whoever waits has been answered exactly when all tasks have ended: a reason to
give up is kept back until then. Since every event uses something up, a watch
that is followed to its end is over, and by the second fact all tasks have ended.
-/

import UserDirectory.Concurrent.Gather

namespace UserDirectory

variable {ε α : Type}

/-! ### One task -/

namespace Job

@[simp] theorem task_finish (job : Job ε α) : job.finish.task = job.task := by
  unfold finish
  split <;> rfl

@[simp] theorem task_cancel (instant : Nat) (job : Job ε α) :
    (job.cancel instant).task = job.task := by
  unfold cancel
  split <;> rfl

theorem hasEnded_iff {job : Job ε α} :
    job.hasEnded = true ↔ ∃ course, job.standing = .ended course := by
  obtain ⟨task, standing⟩ := job
  cases standing with
  | working => simp [hasEnded, due?]
  | cleaning since => simp [hasEnded, due?]
  | ended course => simp [hasEnded, due?]

theorem finish_of_ended {job : Job ε α} (ended : job.hasEnded = true) : job.finish = job := by
  obtain ⟨course, isEnded⟩ := hasEnded_iff.mp ended
  rw [finish, isEnded]

theorem cancel_of_ended {job : Job ε α} (ended : job.hasEnded = true) (instant : Nat) :
    job.cancel instant = job := by
  obtain ⟨course, isEnded⟩ := hasEnded_iff.mp ended
  rw [cancel, isEnded]

theorem hasEnded_eq_false_iff {job : Job ε α} :
    job.hasEnded = false ↔ ∃ instant, job.due? = some instant := by
  rw [hasEnded, Option.isNone_eq_false_iff, Option.isSome_iff_exists]

/-- A task ends what it is doing when that is due. -/
theorem finish_of_due {job : Job ε α} {instant : Nat} (due : job.due? = some instant) :
    ∃ ending, job.finish.standing = .ended ⟨ending, instant⟩ := by
  obtain ⟨task, standing⟩ := job
  cases standing with
  | working =>
    cases due
    exact ⟨_, rfl⟩
  | cleaning since =>
    cases due
    exact ⟨_, rfl⟩
  | ended course => cases due

/-- A task that is cancelled is due from then on, if it has not ended. -/
theorem le_due_cancel {job : Job ε α} {instant later : Nat}
    (due : (job.cancel instant).due? = some later) : instant ≤ later := by
  obtain ⟨task, standing⟩ := job
  cases standing with
  | working =>
    by_cases idle : task.cleanup = 0
    · simp [cancel, due?, idle] at due
    · simp only [cancel, due?, idle, if_false, Option.some.injEq] at due
      exact due ▸ Nat.le_add_right instant task.cleanup
  | cleaning since => cases due
  | ended course => cases due

/-- A task that is cancelled has ended before, or ends then. -/
theorem ended_cancel {job : Job ε α} {instant : Nat} {course : Course}
    (ended : (job.cancel instant).standing = .ended course) :
    job.standing = .ended course ∨ course.time = instant := by
  obtain ⟨task, standing⟩ := job
  cases standing with
  | working =>
    by_cases idle : task.cleanup = 0
    · simp only [cancel, idle, if_true, Standing.ended.injEq] at ended
      exact Or.inr (by rw [← ended])
    · simp [cancel, idle] at ended
  | cleaning since =>
    cases ended
    exact Or.inr rfl
  | ended other => exact Or.inl ended

end Job

/-! ### What is due first -/

theorem exists_earliest {β : Type} {due? : β → Option Nat} {items : List β} {item : β}
    (member : item ∈ items) {instant : Nat} (isDue : due? item = some instant) :
    ∃ due, earliest due? items = some due := by
  induction items with
  | nil => cases member
  | cons head rest inductionHypothesis =>
    rcases List.mem_cons.mp member with rfl | inRest
    · simp only [earliest, isDue]
      split
      · exact ⟨_, rfl⟩
      · split <;> exact ⟨_, rfl⟩
    · obtain ⟨due, first⟩ := inductionHypothesis inRest
      simp only [earliest, first, Option.map_some]
      split
      · exact ⟨_, rfl⟩
      · split <;> exact ⟨_, rfl⟩

/-- Nothing is due before what is due first, and of what is due at the same instant it comes first
in the list. -/
theorem earliest_least {β : Type} {due? : β → Option Nat} {items : List β} {due : Due}
    (first : earliest due? items = some due) {position : Nat} {item : β}
    (there : items[position]? = some item) {instant : Nat} (isDue : due? item = some instant) :
    due.instant < instant ∨ (due.instant = instant ∧ due.position ≤ position) := by
  induction items generalizing due position with
  | nil => cases there
  | cons head rest inductionHypothesis =>
    -- The head is compared with what is due first in the rest; a tie goes to the head.
    cases position with
    | zero =>
      cases there
      simp only [earliest, isDue] at first
      split at first
      · cases first
        exact Or.inr ⟨rfl, Nat.le_refl _⟩
      · split at first
        · cases first
          exact Or.inr ⟨rfl, Nat.le_refl _⟩
        · rename_i before
          cases first
          exact Or.inl (Nat.lt_of_not_le before)
    | succ position =>
      rw [List.getElem?_cons_succ] at there
      obtain ⟨other, later⟩ := exists_earliest (List.mem_of_getElem? there) isDue
      have least : other.instant < instant ∨
          (other.instant = instant ∧ other.position + 1 ≤ position + 1) :=
        (inductionHypothesis later there).imp_right (And.imp_right Nat.succ_le_succ)
      simp only [earliest, later, Option.map_some] at first
      split at first
      · cases first
        exact least
      · split at first
        · rename_i before
          cases first
          simp only at before ⊢
          omega
        · cases first
          exact least

/-- A task among others when one of them has ended what it was doing. -/
theorem mem_finish {jobs : List (Job ε α)} {position : Nat} {job : Job ε α}
    (member : job ∈ jobs.modify position Job.finish) :
    (∃ before, jobs[position]? = some before ∧ job = before.finish) ∨
      (∃ other, other ≠ position ∧ jobs[other]? = some job) := by
  obtain ⟨other, there⟩ := List.mem_iff_getElem?.mp member
  rw [List.getElem?_modify] at there
  obtain ⟨before, found, rfl⟩ := Option.map_eq_some_iff.mp there
  by_cases same : position = other
  · exact Or.inl ⟨before, same ▸ found, if_pos same⟩
  · rw [if_neg same]
    exact Or.inr ⟨other, Ne.symm same, found⟩

/-- What is the same of a task before and after its end is the same of all tasks when one ends. -/
theorem map_modify_finish {β : Type} {jobs : List (Job ε α)} {property : Job ε α → β}
    (same : ∀ job ∈ jobs, property job.finish = property job) (position : Nat) :
    (jobs.modify position Job.finish).map property = jobs.map property := by
  refine List.ext_getElem? fun other => ?_
  rw [List.getElem?_map, List.getElem?_map, List.getElem?_modify]
  cases there : jobs[other]? with
  | none => rfl
  | some job =>
    simp only [Option.map_eq_map, Option.map_some]
    split
    · rw [same job (List.mem_of_getElem? there)]
    · rfl

namespace Watch

/-! ### The clock -/

/-- What has ended has ended by now, and what is still to come is due from now on. -/
structure Timely (watch : Watch ε α) : Prop where
  past : ∀ job ∈ watch.jobs, ∀ course, job.standing = .ended course → course.time ≤ watch.clock
  future : ∀ job ∈ watch.jobs, ∀ instant, job.due? = some instant → watch.clock ≤ instant
  cancellation : ∀ instant, watch.cancellation = some instant → watch.clock ≤ instant

/-- Cancelling all tasks at an instant keeps the clock. -/
theorem Timely.cancelAll {watch : Watch ε α} (timely : watch.Timely) {instant : Nat}
    (later : watch.clock ≤ instant) (waiter : Waiter ε α) {cancellation : Option Nat}
    (pending : ∀ other, cancellation = some other → instant ≤ other) :
    Timely ⟨instant, watch.jobs.map (Job.cancel instant), waiter, cancellation⟩ := by
  refine ⟨fun job member course ended => ?_, fun job member other due => ?_, pending⟩
  · obtain ⟨before, there, rfl⟩ := List.mem_map.mp member
    rcases Job.ended_cancel ended with earlier | now
    · exact Nat.le_trans (timely.past before there course earlier) later
    · exact Nat.le_of_eq now
  · obtain ⟨before, there, rfl⟩ := List.mem_map.mp member
    exact Job.le_due_cancel due

theorem Timely.settle {watch : Watch ε α} (timely : watch.Timely) : watch.settle.Timely := by
  unfold Watch.settle
  split
  · split
    · exact ⟨timely.past, timely.future, timely.cancellation⟩
    · exact timely
  · exact timely

theorem Timely.look {watch : Watch ε α} (timely : watch.Timely) : watch.look.Timely := by
  unfold Watch.look
  split
  · split
    · rename_i reason _
      exact (timely.cancelAll (Nat.le_refl _) (.stopping reason) timely.cancellation).settle
    · split
      · exact ⟨timely.past, timely.future, timely.cancellation⟩
      · exact timely
  · exact timely.settle

theorem timely_start (tasks : List (Task ε α)) (cancelled : Option Nat) :
    (start tasks cancelled).Timely := by
  refine Timely.look ⟨fun job member course ended => ?_, fun _ _ _ _ => Nat.zero_le _,
    fun _ _ => Nat.zero_le _⟩
  obtain ⟨task, _, rfl⟩ := List.mem_map.mp member
  by_cases idle : task.duration = 0
  · simp only [Job.ofTask, idle, if_true, Standing.ended.injEq] at ended
    rw [← ended]
    exact Nat.le_of_eq idle
  · simp [Job.ofTask, idle] at ended

/-- Whatever happens next, the clock keeps its order. -/
theorem Timely.after {watch : Watch ε α} (timely : watch.Timely) {event : Event}
    (next : watch.next? = some event) : (watch.after event).Timely := by
  obtain ⟨due, rfl, first, earlier⟩ | ⟨instant, rfl, pending, _⟩ := next_cases next
  · obtain ⟨ending, there, isDue⟩ := due_of_earliest first
    have now : watch.clock ≤ due.instant :=
      timely.future ending (List.mem_of_getElem? there) due.instant isDue
    obtain ⟨how, finished⟩ := Job.finish_of_due isDue
    refine Timely.look ⟨fun job member course ended => ?_, fun job member instant later => ?_,
      fun instant pending => Nat.le_of_lt (earlier instant pending)⟩
    · rcases mem_finish member with ⟨before, found, rfl⟩ | ⟨position, _, found⟩
      · cases there.symm.trans found
        rw [finished, Standing.ended.injEq] at ended
        exact Nat.le_of_eq (by rw [← ended])
      · exact Nat.le_trans (timely.past job (List.mem_of_getElem? found) course ended) now
    · rcases mem_finish member with ⟨before, found, rfl⟩ | ⟨position, _, found⟩
      · cases there.symm.trans found
        rw [Job.due?, finished] at later
        cases later
      · rcases earliest_least first found later with before | ⟨same, _⟩
        · exact Nat.le_of_lt before
        · exact Nat.le_of_eq same
  · have spent : ∀ other, (none : Option Nat) = some other → instant ≤ other := nofun
    exact (timely.cancelAll (timely.cancellation instant pending) _ spent).look

/-! ### Whoever waits -/

/-- Whoever waits has its answer exactly when all tasks have ended. -/
def Answered (watch : Watch ε α) : Prop :=
  (∃ outcome, watch.waiter = .finished outcome) ↔ watch.allEnded = true

theorem answered_settle {watch : Watch ε α} {reason : Stop ε}
    (stopping : watch.waiter = .stopping reason) : watch.settle.Answered := by
  unfold Watch.settle
  simp only [stopping]
  by_cases ended : watch.allEnded = true
  · rw [if_pos ended]
    exact ⟨fun _ => ended, fun _ => ⟨_, rfl⟩⟩
  · rw [if_neg ended]
    refine ⟨fun ⟨outcome, isFinished⟩ => ?_, fun allEnded => absurd allEnded ended⟩
    rw [stopping] at isFinished
    cases isFinished

/-- Looking at what has ended answers whoever waits when, and only when, it is time. -/
theorem answered_look {watch : Watch ε α} (waits : ∀ outcome, watch.waiter ≠ .finished outcome) :
    watch.look.Answered := by
  unfold Watch.look
  cases waiter : watch.waiter with
  | gathering =>
    simp only
    split
    · exact answered_settle rfl
    · by_cases ended : watch.allEnded = true
      · rw [if_pos ended]
        exact ⟨fun _ => ended, fun _ => ⟨_, rfl⟩⟩
      · rw [if_neg ended]
        exact ⟨fun ⟨outcome, isFinished⟩ => absurd isFinished (waits outcome),
          fun allEnded => absurd allEnded ended⟩
  | stopping reason => exact answered_settle waiter
  | finished outcome => exact absurd waiter (waits outcome)

theorem waits_of_next {watch : Watch ε α} {event : Event} (next : watch.next? = some event)
    (outcome : Except (Stop ε) (List α)) : watch.waiter ≠ .finished outcome := by
  intro isFinished
  simp only [next?, isFinished] at next
  cases next

theorem answered_after {watch : Watch ε α} {event : Event} (next : watch.next? = some event) :
    (watch.after event).Answered := by
  have waits := waits_of_next next
  cases event with
  | ends due => exact answered_look waits
  | cancelled instant =>
    refine answered_look fun outcome isFinished => ?_
    cases waiter : watch.waiter with
    | gathering => simp [waiter, Waiter.cancel] at isFinished
    | stopping reason => simp [waiter, Waiter.cancel] at isFinished
    | finished outcome => exact waits outcome waiter

/-- As long as some task has not ended, something happens next. -/
theorem finished_of_still {watch : Watch ε α} (answered : watch.Answered)
    (still : watch.next? = none) : ∃ outcome, watch.waiter = .finished outcome := by
  by_cases ended : watch.allEnded = true
  · exact answered.mpr ended
  · have pending : ∃ job ∈ watch.jobs, ∃ instant, job.due? = some instant := by
      simpa [allEnded, Job.hasEnded_eq_false_iff] using ended
    obtain ⟨job, member, instant, isDue⟩ := pending
    obtain ⟨due, first⟩ := exists_earliest member isDue
    unfold next? at still
    split at still
    · exact ⟨_, ‹_›⟩
    · cases cancellation : watch.cancellation <;> simp [first, cancellation] at still

/-! ### The tasks stay the same -/

theorem jobs_settle (watch : Watch ε α) : watch.settle.jobs = watch.jobs := by
  unfold settle
  split
  · split <;> rfl
  · rfl

theorem tasks_look (watch : Watch ε α) :
    watch.look.jobs.map (·.task) = watch.jobs.map (·.task) := by
  unfold look
  split
  · split
    · rw [giveUp, jobs_settle, List.map_map]
      exact List.map_congr_left fun job _ => Job.task_cancel watch.clock job
    · split <;> rfl
  · rw [jobs_settle]

theorem tasks_after (watch : Watch ε α) (event : Event) :
    (watch.after event).jobs.map (·.task) = watch.jobs.map (·.task) := by
  cases event with
  | ends due =>
    rw [after, tasks_look]
    exact map_modify_finish (fun job _ => Job.task_finish job) due.position
  | cancelled instant =>
    rw [after, tasks_look, List.map_map]
    exact List.map_congr_left fun job _ => Job.task_cancel instant job

/-! ### To the end -/

/-- What becomes of a watch over some tasks. -/
inductive Reached (tasks : List (Task ε α)) (cancelled : Option Nat) : Watch ε α → Prop where
  | start : Reached tasks cancelled (start tasks cancelled)
  | after {watch : Watch ε α} {event : Event} :
    Reached tasks cancelled watch → watch.next? = some event →
      Reached tasks cancelled (watch.after event)

namespace Reached

variable {tasks : List (Task ε α)} {cancelled : Option Nat} {watch : Watch ε α}

theorem timely (reached : Reached tasks cancelled watch) : watch.Timely := by
  induction reached with
  | start => exact timely_start tasks cancelled
  | after _ next inductionHypothesis => exact inductionHypothesis.after next

theorem answered (reached : Reached tasks cancelled watch) : watch.Answered := by
  induction reached with
  | start => exact answered_look nofun
  | after _ next _ => exact answered_after next

theorem tasks_eq (reached : Reached tasks cancelled watch) :
    watch.jobs.map (·.task) = tasks := by
  induction reached with
  | start =>
    rw [Watch.start, tasks_look, List.map_map]
    exact List.map_id tasks
  | after _ _ inductionHypothesis => exact (tasks_after _ _).trans inductionHypothesis

/-- Wherever a watch is taken up, it comes to the same end. -/
theorem run_eq (reached : Reached tasks cancelled watch) :
    watch.run = (Watch.start tasks cancelled).run := by
  induction reached with
  | start => rfl
  | after _ next inductionHypothesis => rw [← inductionHypothesis, run_of_next next]

theorem run (reached : Reached tasks cancelled watch) : Reached tasks cancelled watch.run := by
  induction watch using Watch.run.induct with
  | case1 watch still => rwa [run_of_still still]
  | case2 watch event next inductionHypothesis =>
    rw [run_of_next next]
    exact inductionHypothesis (reached.after next)

end Reached

theorem next?_run (watch : Watch ε α) : watch.run.next? = none := by
  induction watch using run.induct with
  | case1 watch still => rwa [run_of_still still]
  | case2 watch event next inductionHypothesis => rwa [run_of_next next]

theorem next?_of_finished {watch : Watch ε α} {outcome : Except (Stop ε) (List α)}
    (isFinished : watch.waiter = .finished outcome) : watch.next? = none := by
  rw [next?, isFinished]

/-- When all tasks have ended, they stay as they are, whatever else might happen. -/
theorem jobs_after_of_finished {watch : Watch ε α} {outcome : Except (Stop ε) (List α)}
    (isFinished : watch.waiter = .finished outcome) (ended : watch.allEnded = true)
    (event : Event) : (watch.after event).jobs = watch.jobs := by
  have each : ∀ job ∈ watch.jobs, job.hasEnded = true := List.all_eq_true.mp ended
  cases event with
  | ends due =>
    simp only [after, look, isFinished, jobs_settle]
    have same : (watch.jobs.modify due.position Job.finish).map id = watch.jobs.map id :=
      map_modify_finish (fun job member => congrArg id (Job.finish_of_ended (each job member))) _
    rwa [List.map_id, List.map_id] at same
  | cancelled instant =>
    simp only [after, look, isFinished, Waiter.cancel, jobs_settle]
    have same : watch.jobs.map (Job.cancel instant) = watch.jobs.map id :=
      List.map_congr_left fun job member => Job.cancel_of_ended (each job member) instant
    rwa [List.map_id] at same

end Watch

/-! ### Nothing is left running -/

/-- Whatever the tasks do, and whether or not and whenever whoever waits is cancelled: the waiting
comes to an end, and at that instant every task that was begun has ended. Nothing happens from then
on, and nothing that might happen would change what has become of a task. -/
theorem Gather.none_left_running (tasks : List (Task ε α)) (cancelled : Option Nat) :
    (∃ watch outcome, Watch.Reached tasks cancelled watch ∧ watch.waiter = .finished outcome) ∧
    ∀ watch outcome, Watch.Reached tasks cancelled watch → watch.waiter = .finished outcome →
      watch.jobs.map (·.task) = tasks ∧
      (∀ job ∈ watch.jobs, ∃ course, job.standing = .ended course ∧ course.time ≤ watch.clock) ∧
      watch.next? = none ∧
      (∀ event, (watch.after event).jobs = watch.jobs) ∧
      gather tasks cancelled = ⟨watch.clock, outcome, watch.jobs.filterMap Job.course?⟩ := by
  have last : Watch.Reached tasks cancelled (Watch.start tasks cancelled).run :=
    Watch.Reached.start.run
  obtain ⟨outcome, isFinished⟩ := Watch.finished_of_still last.answered (Watch.next?_run _)
  refine ⟨⟨_, outcome, last, isFinished⟩, fun watch outcome reached isFinished => ?_⟩
  have still : watch.next? = none := Watch.next?_of_finished isFinished
  have ended : watch.allEnded = true := reached.answered.mp ⟨outcome, isFinished⟩
  refine ⟨reached.tasks_eq, fun job member => ?_, still,
    Watch.jobs_after_of_finished isFinished ended, ?_⟩
  · obtain ⟨course, isEnded⟩ := Job.hasEnded_iff.mp (List.all_eq_true.mp ended job member)
    exact ⟨course, isEnded, reached.timely.past job member course isEnded⟩
  · rw [gather, ← reached.run_eq, Watch.run_of_still still, Watch.gathered, isFinished]

end UserDirectory
