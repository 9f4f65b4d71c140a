/-
This file describes a watch over several tasks by its legs. On a leg all tasks
that take part have waited since the same instant, each for a time of its own:
on the first leg for the end of its work, on the one after a failure for the end
of its cleanup. How far the watch has come is then told by an instant and, since
of tasks that end together the first one goes first, a position. Exactly the
tasks that end before that point have ended, and when what is due first ends,
the point moves right behind it.
-/

import UserDirectory.Proofs.Concurrent.Runs
import UserDirectory.Proofs.Concurrent.Watching

namespace UserDirectory

variable {ε α : Type}

/-! ### The failure that happens first -/

/-- When a task fails, if it does. -/
def Task.failsAt? (task : Task ε α) : Option Nat :=
  task.failure?.map fun _ => task.duration

namespace Gather

theorem earliest_failsAt (tasks : List (Task ε α)) :
    earliest Task.failsAt? tasks =
      (firstFailure tasks).map fun failure => ⟨failure.position, failure.time⟩ := by
  induction tasks with
  | nil => rfl
  | cons task rest inductionHypothesis =>
    rw [earliest, inductionHypothesis, firstFailure, Task.failsAt?]
    cases task.failure? with
    | none => cases firstFailure rest <;> rfl
    | some cause =>
      cases firstFailure rest with
      | none => rfl
      | some later =>
        simp only [Option.map_some]
        split <;> rfl

theorem cause_of_firstFailure {tasks : List (Task ε α)} {failure : Failure ε}
    (first : firstFailure tasks = some failure) :
    ∃ task, tasks[failure.position]? = some task ∧ task.failure? = some failure.cause ∧
      task.duration = failure.time := by
  induction tasks generalizing failure with
  | nil => cases first
  | cons task rest inductionHypothesis =>
    have inRest {later : Failure ε}
        (mapped : (firstFailure rest).map
          (fun failure => { failure with position := failure.position + 1 }) = some later) :
        ∃ other, (task :: rest)[later.position]? = some other ∧
          other.failure? = some later.cause ∧ other.duration = later.time := by
      obtain ⟨failure, first, rfl⟩ := Option.map_eq_some_iff.mp mapped
      exact inductionHypothesis first
    simp only [firstFailure] at first
    split at first
    · exact inRest first
    · rename_i cause own
      split at first
      · cases first
        exact ⟨task, rfl, own, rfl⟩
      · rename_i later mapped
        split at first
        · cases first
          exact ⟨task, rfl, own, rfl⟩
        · cases first
          exact inRest mapped

/-- No task fails before the first failure, and of those that fail at that instant it is the
earliest one's. -/
theorem firstFailure_least {tasks : List (Task ε α)} {failure : Failure ε}
    (first : firstFailure tasks = some failure) {position : Nat} {task : Task ε α}
    (there : tasks[position]? = some task) {cause : ε} (fails : task.failure? = some cause) :
    failure.time < task.duration ∨
      (failure.time = task.duration ∧ failure.position ≤ position) := by
  have early : earliest Task.failsAt? tasks = some ⟨failure.position, failure.time⟩ := by
    rw [earliest_failsAt, first, Option.map_some]
  have isDue : task.failsAt? = some task.duration := by
    rw [Task.failsAt?, fails, Option.map_some]
  exact earliest_least early there isDue

/-- A failure that comes before all others is the first one. -/
theorem firstFailure_eq {tasks : List (Task ε α)} {position : Nat} {task : Task ε α}
    (there : tasks[position]? = some task) {cause : ε} (fails : task.failure? = some cause)
    (least : ∀ other otherTask, tasks[other]? = some otherTask → otherTask.failure?.isSome →
      task.duration < otherTask.duration ∨
        (task.duration = otherTask.duration ∧ position ≤ other)) :
    firstFailure tasks = some ⟨position, task.duration, cause⟩ := by
  cases first : firstFailure tasks with
  | none =>
    have unfailed := (Run.firstFailure_eq_none_iff tasks).mp first task
      (List.mem_of_getElem? there)
    cases unfailed.symm.trans fails
  | some failure =>
    obtain ⟨found, foundThere, foundFails, foundTime⟩ := cause_of_firstFailure first
    have notBefore := firstFailure_least first there fails
    have notAfter := least failure.position found foundThere (by rw [foundFails]; rfl)
    have same : failure.position = position := by omega
    rw [same] at foundThere
    cases there.symm.trans foundThere
    cases fails.symm.trans foundFails
    obtain ⟨_, _, _⟩ := failure
    simp only at same foundTime ⊢
    rw [same, foundTime]

end Gather

/-! ### Legs of a watch -/

theorem Interruption.misses_iff {interruption : Interruption} {position start wait : Nat} :
    interruption.misses position start wait = true ↔ wait = 0 ∨
      start + wait < interruption.time ∨
        (start + wait = interruption.time ∧ position < interruption.spared) := by
  simp [misses, or_assoc]

/-- The point to which a watch has come when what was due first has ended. -/
def Due.point (due : Due) : Interruption :=
  ⟨due.instant, due.position + 1⟩

/-- A leg of a watch: tasks that all wait from the same instant, each for a time of its own. -/
structure Leg (ε α : Type) where
  /-- The instant. -/
  start : Nat
  /-- How long the task at a position waits. -/
  wait : Nat → Task ε α → Nat
  /-- Where a task stands as long as it waits. -/
  during : Standing
  /-- The course of a task that has ended. -/
  course : Nat → Task ε α → Course
  due_during : ∀ position task, wait position task ≠ 0 →
    (⟨task, during⟩ : Job ε α).due? = some (start + wait position task)
  finish_during : ∀ position task, wait position task ≠ 0 →
    (⟨task, during⟩ : Job ε α).finish = ⟨task, .ended (course position task)⟩

namespace Leg

/-- The leg on which all tasks are at their work. -/
def work : Leg ε α where
  start := 0
  wait _ task := task.duration
  during := .working
  course _ task := task.ownCourse
  due_during _ _ _ := by rw [Nat.zero_add]; rfl
  finish_during _ _ _ := rfl

/-- The leg on which the tasks that an interruption has struck clean up. -/
def cleanup (interruption : Interruption) : Leg ε α where
  start := interruption.time
  wait position task := if interruption.misses position 0 task.duration then 0 else task.cleanup
  during := .cleaning interruption.time
  course position task := task.course position interruption
  due_during position task waits := by
    by_cases missed : interruption.misses position 0 task.duration = true
    · exact absurd (if_pos missed) waits
    · rw [if_neg missed]
      rfl
  finish_during position task waits := by
    by_cases missed : interruption.misses position 0 task.duration = true
    · exact absurd (if_pos missed) waits
    · rw [Task.course, if_neg missed]
      rfl

variable (leg : Leg ε α)

/-- Whether the task at a position has ended when the watch has come to a point. -/
def isPast (now : Interruption) (position : Nat) (task : Task ε α) : Bool :=
  now.misses position leg.start (leg.wait position task)

/-- The task at a position when the watch has come to a point. -/
def job (now : Interruption) (position : Nat) (task : Task ε α) : Job ε α :=
  ⟨task, if leg.isPast now position task then .ended (leg.course position task) else leg.during⟩

/-- The tasks when the watch has come to a point. -/
def jobs (tasks : List (Task ε α)) (now : Interruption) : List (Job ε α) :=
  tasks.mapIdx (leg.job now)

theorem mapIdx_const {β γ : Type} (f : β → γ) (items : List β) :
    items.mapIdx (fun _ => f) = items.map f := by
  refine List.ext_getElem? fun position => ?_
  rw [List.getElem?_mapIdx, List.getElem?_map]

variable {leg} {tasks : List (Task ε α)} {now : Interruption}

theorem job_of_past {position : Nat} {task : Task ε α}
    (past : leg.isPast now position task = true) :
    leg.job now position task = ⟨task, .ended (leg.course position task)⟩ := by
  rw [job, if_pos past]

theorem job_of_not_past {position : Nat} {task : Task ε α}
    (pending : leg.isPast now position task ≠ true) :
    leg.job now position task = ⟨task, leg.during⟩ := by
  rw [job, if_neg pending]

theorem wait_of_not_past {position : Nat} {task : Task ε α}
    (pending : leg.isPast now position task ≠ true) : leg.wait position task ≠ 0 :=
  fun atOnce => pending (Interruption.misses_iff.mpr (Or.inl atOnce))

theorem due_job {position : Nat} {task : Task ε α} {instant : Nat} :
    (leg.job now position task).due? = some instant ↔
      leg.isPast now position task ≠ true ∧ leg.start + leg.wait position task = instant := by
  by_cases past : leg.isPast now position task = true
  · rw [job_of_past past]
    exact ⟨nofun, fun ⟨pending, _⟩ => absurd past pending⟩
  · rw [job_of_not_past past, leg.due_during position task (wait_of_not_past past),
      Option.some.injEq]
    exact ⟨fun same => ⟨past, same⟩, fun ⟨_, same⟩ => same⟩

theorem getElem?_jobs {position : Nat} {task : Task ε α}
    (there : tasks[position]? = some task) :
    (leg.jobs tasks now)[position]? = some (leg.job now position task) := by
  rw [jobs, List.getElem?_mapIdx, there, Option.map_some]

theorem task_of_getElem?_jobs {position : Nat} {job : Job ε α}
    (there : (leg.jobs tasks now)[position]? = some job) :
    ∃ task, tasks[position]? = some task ∧ job = leg.job now position task := by
  rw [jobs, List.getElem?_mapIdx] at there
  obtain ⟨task, found, rfl⟩ := Option.map_eq_some_iff.mp there
  exact ⟨task, found, rfl⟩

theorem task_of_earliest {due : Due} (first : earliest Job.due? (leg.jobs tasks now) = some due) :
    ∃ task, tasks[due.position]? = some task ∧ leg.isPast now due.position task ≠ true ∧
      leg.start + leg.wait due.position task = due.instant := by
  obtain ⟨job, there, isDue⟩ := due_of_earliest first
  obtain ⟨task, found, rfl⟩ := task_of_getElem?_jobs there
  exact ⟨task, found, due_job.mp isDue⟩

/-- Behind what was due first, exactly one task more has ended. -/
theorem isPast_point {due : Due} (first : earliest Job.due? (leg.jobs tasks now) = some due)
    {position : Nat} {task : Task ε α} (there : tasks[position]? = some task) :
    leg.isPast due.point position task = true ↔
      leg.isPast now position task = true ∨ position = due.position := by
  obtain ⟨found, foundThere, notPast, ends⟩ := task_of_earliest first
  have pending := notPast
  rw [ne_eq, isPast, Interruption.misses_iff] at pending
  -- What is due first ends at the new point itself. Of the other tasks, those that ended before the
  -- old point also end before the new one, and nothing else is due before.
  by_cases same : position = due.position
  · subst same
    cases there.symm.trans foundThere
    refine iff_of_true (Interruption.misses_iff.mpr ?_) (Or.inr rfl)
    exact Or.inr (Or.inr ⟨ends, Nat.lt_succ_self _⟩)
  · rw [or_iff_left same]
    by_cases past : leg.isPast now position task = true
    · refine iff_of_true (Interruption.misses_iff.mpr ?_) past
      rw [isPast, Interruption.misses_iff] at past
      simp only [Due.point]
      omega
    · have least := earliest_least first (getElem?_jobs there) (due_job.mpr ⟨past, rfl⟩)
      refine iff_of_false (fun past' => ?_) past
      rw [isPast, Interruption.misses_iff] at past past'
      simp only [Due.point] at past'
      omega

/-- When the task that is due first has ended, the watch has come to the point behind it. -/
theorem jobs_modify {due : Due} (first : earliest Job.due? (leg.jobs tasks now) = some due) :
    (leg.jobs tasks now).modify due.position Job.finish = leg.jobs tasks due.point := by
  refine List.ext_getElem? fun position => ?_
  rw [jobs, jobs, List.getElem?_modify, List.getElem?_mapIdx, List.getElem?_mapIdx]
  cases there : tasks[position]? with
  | none => rfl
  | some task =>
    have past := isPast_point first there
    simp only [Option.map_eq_map, Option.map_some, Option.some.injEq]
    by_cases same : due.position = position
    · subst same
      obtain ⟨found, foundThere, notPast, _⟩ := task_of_earliest first
      cases there.symm.trans foundThere
      rw [if_pos rfl, job_of_not_past notPast, job_of_past (past.mpr (Or.inr rfl)),
        leg.finish_during _ _ (wait_of_not_past notPast)]
    · have unchanged : leg.isPast due.point position task = leg.isPast now position task := by
        rw [Bool.eq_iff_iff, past]
        exact or_iff_left (Ne.symm same)
      rw [if_neg same, job, job, unchanged]

/-- When all tasks have ended, the watch is behind all of them. -/
theorem isPast_of_allEnded (ended : (leg.jobs tasks now).all Job.hasEnded = true) {position : Nat}
    {task : Task ε α} (there : tasks[position]? = some task) :
    leg.isPast now position task = true := by
  have isFinished := List.all_eq_true.mp ended _ (List.mem_of_getElem? (getElem?_jobs there))
  by_cases past : leg.isPast now position task = true
  · exact past
  · rw [Job.hasEnded, due_job.mpr ⟨past, rfl⟩] at isFinished
    cases isFinished

/-- The tasks when each has run its course. -/
def atEnd (leg : Leg ε α) (tasks : List (Task ε α)) : List (Job ε α) :=
  tasks.mapIdx fun position task => ⟨task, .ended (leg.course position task)⟩

theorem jobs_of_allEnded (ended : (leg.jobs tasks now).all Job.hasEnded = true) :
    leg.jobs tasks now = leg.atEnd tasks := by
  refine List.ext_getElem? fun position => ?_
  rw [atEnd, jobs, List.getElem?_mapIdx, List.getElem?_mapIdx]
  cases there : tasks[position]? with
  | none => rfl
  | some task => rw [Option.map_some, Option.map_some, job_of_past (isPast_of_allEnded ended there)]

theorem course?_atEnd (leg : Leg ε α) (tasks : List (Task ε α)) :
    (leg.atEnd tasks).filterMap Job.course? = tasks.mapIdx leg.course := by
  rw [atEnd, List.mapIdx_eq_zipIdx_map, List.mapIdx_eq_zipIdx_map, List.filterMap_map]
  exact congrFun List.filterMap_eq_map _

end Leg

end UserDirectory
