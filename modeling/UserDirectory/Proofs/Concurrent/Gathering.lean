/-
This file says what comes of several tasks while nobody cancels whoever waits.
The watch has two legs, the work of all tasks and, from the first failure on, the
cleanups of those that it strikes. No task has failed before the point to which
the first leg has come, so that the first thing to report is the failure that
happens first: the watch comes to just what is told of the tasks at once. Tasks
that end before that failure keep their values, and the end comes with the
longest of the cleanups.
-/

import UserDirectory.Proofs.Concurrent.Legs

namespace UserDirectory

variable {ε α : Type}

/-! ### The watch of somebody who is not cancelled -/

namespace Gather

/-- How far a watch has come that nobody cancels: all tasks are at their work, or some clean up
after the first failure, or all have run their course. -/
inductive Undisturbed (tasks : List (Task ε α)) : Watch ε α → Prop where
  | working (now : Interruption)
    (unfailed : ∀ position task, tasks[position]? = some task →
      Leg.work.isPast now position task = true → task.failure? = none) :
    Undisturbed tasks ⟨now.time, Leg.work.jobs tasks now, .gathering, none⟩
  | cleaning {failure : Failure ε} (first : firstFailure tasks = some failure)
    (now : Interruption) :
    Undisturbed tasks
      ⟨now.time, (Leg.cleanup failure.interruption).jobs tasks now,
        .stopping (.failed failure.cause), none⟩
  | done (clock : Nat) (first : firstFailure tasks = none) :
    Undisturbed tasks ⟨clock, Leg.work.atEnd tasks, .finished (.ok (values tasks)), none⟩
  | failed (clock : Nat) {failure : Failure ε} (first : firstFailure tasks = some failure) :
    Undisturbed tasks
      ⟨clock, (Leg.cleanup failure.interruption).atEnd tasks,
        .finished (.error (.failed failure.cause)), none⟩

variable {tasks : List (Task ε α)}

theorem undisturbed_settle {failure : Failure ε} (first : firstFailure tasks = some failure)
    (now : Interruption) :
    Undisturbed tasks (Watch.settle ⟨now.time, (Leg.cleanup failure.interruption).jobs tasks now,
      .stopping (.failed failure.cause), none⟩) := by
  by_cases ended : ((Leg.cleanup failure.interruption).jobs tasks now).all Job.hasEnded = true
  · rw [Watch.settle, Watch.allEnded]
    simp only [ended, if_true]
    rw [Leg.jobs_of_allEnded ended]
    exact Undisturbed.failed now.time first
  · rw [Watch.settle, Watch.allEnded]
    simp only [ended]
    exact Undisturbed.cleaning first now

/-- When all tasks have run their own course, their values are there. -/
theorem values_atEnd (tasks : List (Task ε α)) :
    (Leg.work.atEnd tasks).filterMap Job.value? = values tasks := by
  have plain : Leg.work.atEnd tasks = tasks.map fun task => ⟨task, .ended task.ownCourse⟩ :=
    Leg.mapIdx_const (fun task => (⟨task, .ended task.ownCourse⟩ : Job ε α)) tasks
  rw [plain, List.filterMap_map, values]
  refine List.filterMap_congr fun task _ => ?_
  obtain ⟨duration, outcome, cleanup, cleanupFailure⟩ := task
  cases outcome <;> rfl

/-- A task at its work has something to report when it has failed. -/
theorem complaint_work {now : Interruption} {position : Nat} {task : Task ε α} {reason : Stop ε} :
    (Leg.work.job now position task).complaint? = some reason ↔
      Leg.work.isPast now position task = true ∧
        ∃ cause, task.failure? = some cause ∧ reason = .failed cause := by
  by_cases past : Leg.work.isPast now position task = true
  · rw [Leg.job_of_past past, and_iff_right past]
    cases fails : task.failure? with
    | none => simp [Job.complaint?, Leg.work, Task.ownCourse, fails]
    | some cause =>
      simp only [Job.complaint?, Leg.work, Task.ownCourse, fails, Option.isSome_some, if_true,
        Option.map_some, Option.some.injEq]
      exact ⟨fun same => ⟨cause, rfl, same.symm⟩, fun ⟨_, found, same⟩ => by rw [same, found]⟩
  · rw [Leg.job_of_not_past past]
    exact ⟨nofun, fun ⟨isPast, _⟩ => absurd isPast past⟩

/-- A task is at its work as long as a failure that happens now can strike it. -/
theorem isPast_work_iff {now interruption : Interruption} (same : interruption.time = now.time)
    (spared : now.time = 0 ∨ interruption.spared = now.spared) (position : Nat)
    (task : Task ε α) :
    Leg.work.isPast now position task = true ↔
      interruption.misses position 0 task.duration = true := by
  simp only [Leg.isPast, Interruption.misses_iff, Leg.work]
  omega

/-- A failure strikes a task that is still at its work, and it begins to clean up. -/
theorem cancel_job_work {now interruption : Interruption} (same : interruption.time = now.time)
    (spared : now.time = 0 ∨ interruption.spared = now.spared) (position : Nat)
    (task : Task ε α) :
    (Leg.work.job now position task).cancel now.time =
      (Leg.cleanup interruption).job ⟨now.time, 0⟩ position task := by
  have missed := isPast_work_iff same spared position task
  -- A task that the failure misses has ended. One without cleanup ends as soon as it is struck.
  by_cases past : Leg.work.isPast now position task = true
  · have atOnce : (Leg.cleanup interruption).isPast ⟨now.time, 0⟩ position task = true :=
      Interruption.misses_iff.mpr (Or.inl (if_pos (missed.mp past)))
    rw [Leg.job_of_past past, Leg.job_of_past atOnce]
    simp only [Leg.cleanup, Task.course, if_pos (missed.mp past)]
    rfl
  · have struck : ¬ interruption.misses position 0 task.duration = true :=
      fun isMissed => past (missed.mpr isMissed)
    have waits : (Leg.cleanup interruption).wait position task = task.cleanup := if_neg struck
    have atOnce : (Leg.cleanup interruption).isPast ⟨now.time, 0⟩ position task = true ↔
        task.cleanup = 0 := by
      rw [Leg.isPast, Interruption.misses_iff, waits]
      simp only [Leg.cleanup]
      omega
    rw [Leg.job_of_not_past past]
    by_cases idle : task.cleanup = 0
    · rw [Leg.job_of_past (atOnce.mpr idle)]
      simp [Job.cancel, Leg.work, Leg.cleanup, Task.course, struck, idle, same]
    · rw [Leg.job_of_not_past (fun past => idle (atOnce.mp past))]
      simp [Job.cancel, Leg.work, Leg.cleanup, idle, same]

theorem cancel_jobs_work {now interruption : Interruption} (same : interruption.time = now.time)
    (spared : now.time = 0 ∨ interruption.spared = now.spared) (tasks : List (Task ε α)) :
    (Leg.work.jobs tasks now).map (Job.cancel now.time) =
      (Leg.cleanup interruption).jobs tasks ⟨now.time, 0⟩ := by
  refine List.ext_getElem? fun position => ?_
  rw [Leg.jobs, Leg.jobs, List.getElem?_map, List.getElem?_mapIdx, List.getElem?_mapIdx,
    Option.map_map]
  exact congrArg (Option.map · tasks[position]?)
    (funext fun task => cancel_job_work same spared position task)

/-- No task failed before a point. At the instant when all begin several can fail at once, later
only the one that has just ended. -/
def UnfailedBefore (tasks : List (Task ε α)) (now : Interruption) : Prop :=
  ∀ position task, tasks[position]? = some task → Leg.work.isPast now position task = true →
    task.failure?.isSome = true →
      task.duration = now.time ∧ (now.time = 0 ∨ now.spared = position + 1)

/-- If no task failed before, whatever is to report is the first failure, and it happens now. -/
theorem firstFailure_of_complaint {now : Interruption} (unfailed : UnfailedBefore tasks now)
    {reason : Stop ε}
    (complaint : (Leg.work.jobs tasks now).findSome? Job.complaint? = some reason) :
    ∃ failure, firstFailure tasks = some failure ∧ reason = .failed failure.cause ∧
      failure.time = now.time ∧ (now.time = 0 ∨ now.spared = failure.position + 1) := by
  obtain ⟨before, job, behind, split, complains, silent⟩ :=
    List.findSome?_eq_some_iff.mp complaint
  have jobThere : (Leg.work.jobs tasks now)[before.length]? = some job := by simp [split]
  obtain ⟨task, there, rfl⟩ := Leg.task_of_getElem?_jobs jobThere
  obtain ⟨past, cause, fails, rfl⟩ := complaint_work.mp complains
  obtain ⟨failsNow, position⟩ := unfailed before.length task there past (by rw [fails]; rfl)
  refine ⟨_, firstFailure_eq there fails fun other otherTask otherThere otherFails => ?_, rfl,
    failsNow, position⟩
  by_cases otherPast : Leg.work.isPast now other otherTask = true
  · -- Two tasks have failed at this very instant, and only the later one is not silent.
    obtain ⟨otherFailsNow, _⟩ := unfailed other otherTask otherThere otherPast otherFails
    refine Or.inr ⟨failsNow.trans otherFailsNow.symm, Nat.le_of_not_lt fun earlier => ?_⟩
    have found : (Leg.work.jobs tasks now)[other]? = some (Leg.work.job now other otherTask) :=
      Leg.getElem?_jobs otherThere
    rw [split, List.getElem?_append_left earlier] at found
    obtain ⟨otherCause, otherFailure⟩ := Option.isSome_iff_exists.mp otherFails
    have quiet := silent _ (List.mem_of_getElem? found)
    rw [complaint_work.mpr ⟨otherPast, otherCause, otherFailure, rfl⟩] at quiet
    cases quiet
  · rw [Leg.isPast, Interruption.misses_iff] at otherPast
    simp only [Leg.work] at otherPast
    omega

/-- Whoever waits looks at tasks of which none failed before. -/
theorem undisturbed_look {now : Interruption} (unfailed : UnfailedBefore tasks now) :
    Undisturbed tasks (Watch.look ⟨now.time, Leg.work.jobs tasks now, .gathering, none⟩) := by
  rw [Watch.look]
  cases complaint : (Leg.work.jobs tasks now).findSome? Job.complaint? with
  | none =>
    have succeeded : ∀ position task, tasks[position]? = some task →
        Leg.work.isPast now position task = true → task.failure? = none := by
      intro position task there past
      cases fails : task.failure? with
      | none => rfl
      | some cause =>
        have silent := List.findSome?_eq_none_iff.mp complaint _
          (List.mem_of_getElem? (Leg.getElem?_jobs there))
        rw [complaint_work.mpr ⟨past, cause, fails, rfl⟩] at silent
        cases silent
    by_cases ended : (Leg.work.jobs tasks now).all Job.hasEnded = true
    · have first : firstFailure tasks = none := by
        refine (Run.firstFailure_eq_none_iff tasks).mpr fun task member => ?_
        obtain ⟨position, there⟩ := List.mem_iff_getElem?.mp member
        exact succeeded position task there (Leg.isPast_of_allEnded ended there)
      simp only [Watch.allEnded, ended, if_true]
      rw [Leg.jobs_of_allEnded ended, values_atEnd]
      exact Undisturbed.done now.time first
    · simp only [Watch.allEnded, ended]
      exact Undisturbed.working now succeeded
  | some reason =>
    obtain ⟨failure, first, rfl, failsNow, position⟩ := firstFailure_of_complaint unfailed complaint
    have strikesNow : failure.interruption.time = now.time := failsNow
    simp only [Watch.giveUp, cancel_jobs_work strikesNow (position.imp_right Eq.symm) tasks]
    exact undisturbed_settle first ⟨now.time, 0⟩

theorem undisturbed_start (tasks : List (Task ε α)) :
    Undisturbed tasks (Watch.start tasks none) := by
  have past (position : Nat) (task : Task ε α) :
      Leg.work.isPast ⟨0, 0⟩ position task = true ↔ task.duration = 0 := by
    rw [Leg.isPast, Interruption.misses_iff]
    simp only [Leg.work]
    omega
  have jobs : tasks.map Job.ofTask = Leg.work.jobs tasks ⟨0, 0⟩ := by
    refine List.ext_getElem? fun position => ?_
    rw [Leg.jobs, List.getElem?_mapIdx, List.getElem?_map]
    refine congrArg (Option.map · tasks[position]?) (funext fun task => ?_)
    rw [Job.ofTask, Leg.job]
    simp only [past]
    rfl
  have unfailed : UnfailedBefore tasks ⟨0, 0⟩ :=
    fun position task _ isPast _ => ⟨(past position task).mp isPast, Or.inl rfl⟩
  rw [Watch.start, jobs]
  exact undisturbed_look unfailed

/-- Whatever happens next: a task ends, and nothing else. -/
theorem Undisturbed.after {watch : Watch ε α} (undisturbed : Undisturbed tasks watch)
    {event : Event} (next : watch.next? = some event) : Undisturbed tasks (watch.after event) := by
  cases undisturbed with
  | working now succeeded =>
    obtain ⟨due, rfl, first, _⟩ | ⟨_, _, pending, _⟩ := Watch.next_cases next
    · rw [Watch.after]
      have unfailed : UnfailedBefore tasks due.point := by
        intro position task there past fails
        rcases (Leg.isPast_point first there).mp past with before | rfl
        · rw [succeeded position task there before] at fails
          cases fails
        · obtain ⟨found, foundThere, _, ends⟩ := Leg.task_of_earliest first
          cases there.symm.trans foundThere
          exact ⟨(Nat.zero_add _).symm.trans ends, Or.inr rfl⟩
      simp only [Leg.jobs_modify first]
      exact undisturbed_look unfailed
    · cases pending
  | cleaning firstFailure now =>
    obtain ⟨due, rfl, first, _⟩ | ⟨_, _, pending, _⟩ := Watch.next_cases next
    · rw [Watch.after]
      simp only [Leg.jobs_modify first]
      exact undisturbed_settle firstFailure due.point
    · cases pending
  | done clock first => cases next
  | failed clock first => cases next

end Gather

/-! ### The clock of somebody who is not cancelled -/

namespace Watch

/-- The clock shows the beginning, or when some task ended. -/
def Attained (watch : Watch ε α) : Prop :=
  watch.clock = 0 ∨ ∃ job ∈ watch.jobs, ∃ ending, job.standing = .ended ⟨ending, watch.clock⟩

theorem clock_look (watch : Watch ε α) : watch.look.clock = watch.clock := by
  have settle (watch : Watch ε α) : watch.settle.clock = watch.clock := by
    unfold Watch.settle
    split
    · split <;> rfl
    · rfl
  unfold look
  split
  · split
    · exact settle _
    · split <;> rfl
  · exact settle watch

/-- Whoever looks leaves alone what has ended. -/
theorem mem_look {watch : Watch ε α} {job : Job ε α} (member : job ∈ watch.jobs) {course : Course}
    (ended : job.standing = .ended course) : job ∈ watch.look.jobs := by
  have untouched : job.cancel watch.clock = job := by rw [Job.cancel, ended]
  unfold look
  split
  · split
    · rw [giveUp, jobs_settle]
      exact List.mem_map.mpr ⟨job, member, untouched⟩
    · split <;> exact member
  · rwa [jobs_settle]

theorem Attained.look {watch : Watch ε α} (attained : watch.Attained) : watch.look.Attained := by
  rw [Attained, clock_look]
  rcases attained with zero | ⟨job, member, ending, ended⟩
  · exact Or.inl zero
  · exact Or.inr ⟨job, mem_look member ended, ending, ended⟩

theorem attained_ends {watch : Watch ε α} {due : Due}
    (first : earliest Job.due? watch.jobs = some due) : (watch.after (.ends due)).Attained := by
  obtain ⟨job, there, isDue⟩ := due_of_earliest first
  obtain ⟨ending, finished⟩ := Job.finish_of_due isDue
  refine Attained.look (Or.inr ⟨job.finish, ?_, ending, finished⟩)
  have finishedThere : (watch.jobs.modify due.position Job.finish)[due.position]? =
      some job.finish := by
    simp [there]
  exact List.mem_of_getElem? finishedThere

end Watch

namespace Gather

variable {tasks : List (Task ε α)}

theorem undisturbed_of_reached {watch : Watch ε α} (reached : Watch.Reached tasks none watch) :
    Undisturbed tasks watch := by
  induction reached with
  | start => exact undisturbed_start tasks
  | after _ next inductionHypothesis => exact inductionHypothesis.after next

theorem attained_of_reached {watch : Watch ε α} (reached : Watch.Reached tasks none watch) :
    watch.Attained := by
  induction reached with
  | start => exact Watch.Attained.look (Or.inl rfl)
  | after reached next _ =>
    obtain ⟨due, rfl, first, _⟩ | ⟨_, _, pending, _⟩ := Watch.next_cases next
    · exact Watch.attained_ends first
    · cases undisturbed_of_reached reached <;> cases pending

/-! ### The latest of some instants -/

theorem le_latest {instants : List Nat} {instant : Nat} (member : instant ∈ instants) :
    instant ≤ latest instants := by
  induction instants with
  | nil => cases member
  | cons first rest inductionHypothesis =>
    rw [latest, List.foldr_cons]
    rcases List.mem_cons.mp member with rfl | inRest
    · exact Nat.le_max_left _ _
    · exact Nat.le_trans (inductionHypothesis inRest) (Nat.le_max_right _ _)

theorem latest_mem (instants : List Nat) : latest instants = 0 ∨ latest instants ∈ instants := by
  induction instants with
  | nil => exact Or.inl rfl
  | cons first rest inductionHypothesis =>
    rw [latest, List.foldr_cons]
    rcases Nat.le_total first (latest rest) with later | earlier
    · rw [latest] at later inductionHypothesis
      rw [Nat.max_eq_right later]
      exact inductionHypothesis.imp_right (List.mem_cons_of_mem first)
    · rw [latest] at earlier
      rw [Nat.max_eq_left earlier]
      exact Or.inr List.mem_cons_self

theorem latest_eq {instants : List Nat} {instant : Nat}
    (bound : ∀ other ∈ instants, other ≤ instant) (attained : instant = 0 ∨ instant ∈ instants) :
    latest instants = instant := by
  refine Nat.le_antisymm ?_ ?_
  · rcases latest_mem instants with zero | member
    · exact zero ▸ Nat.zero_le instant
    · exact bound _ member
  · rcases attained with zero | member
    · exact zero ▸ Nat.zero_le _
    · exact le_latest member

/-! ### What comes of several tasks -/

theorem getElem?_courses {failure : Failure ε} (first : firstFailure tasks = some failure)
    (position : Nat) :
    (courses tasks)[position]? =
      tasks[position]?.map fun task => task.course position failure.interruption := by
  rw [courses, first]
  exact List.getElem?_mapIdx

/-- The task that fails first ends by itself. -/
theorem course_of_firstFailure {failure : Failure ε} (first : firstFailure tasks = some failure) :
    (courses tasks)[failure.position]? = some ⟨.failed, failure.time⟩ := by
  obtain ⟨task, there, fails, duration⟩ := cause_of_firstFailure first
  have missed : failure.interruption.misses failure.position 0 task.duration = true := by
    refine Interruption.misses_iff.mpr (Or.inr (Or.inr ⟨?_, Nat.lt_succ_self _⟩))
    rw [Nat.zero_add, duration]
    rfl
  rw [getElem?_courses first, there, Option.map_some, Task.course, if_pos missed, Task.ownCourse,
    fails, duration]
  rfl

theorem turning_le (tasks : List (Task ε α)) :
    turning tasks ≤ latest ((courses tasks).map (·.time)) := by
  unfold turning
  cases first : firstFailure tasks with
  | none =>
    simp only [courses, first, List.map_map]
    exact Nat.le_refl _
  | some failure =>
    refine le_latest (List.mem_map.mpr ⟨⟨.failed, failure.time⟩, ?_, rfl⟩)
    exact List.mem_of_getElem? (course_of_firstFailure first)

theorem time_awaitAll (tasks : List (Task ε α)) :
    (awaitAll tasks).time = latest ((courses tasks).map (·.time)) := by
  have time : (awaitAll tasks).time = latest (turning tasks :: (courses tasks).map (·.time)) := by
    unfold awaitAll
    cases firstFailure tasks <;> rfl
  rw [time, latest, List.foldr_cons]
  exact Nat.max_eq_right (turning_le tasks)

/-- When all have ended, it is the time at which the last one did. -/
theorem clock_of_finished {watch : Watch ε α} (timely : watch.Timely) (attained : watch.Attained)
    {leg : Leg ε α} (jobs : watch.jobs = leg.atEnd tasks) :
    watch.clock = latest ((tasks.mapIdx leg.course).map (·.time)) := by
  have mem_course {course : Course} :
      course ∈ tasks.mapIdx leg.course ↔ ∃ job ∈ watch.jobs, job.standing = .ended course := by
    rw [← leg.course?_atEnd tasks, ← jobs, List.mem_filterMap]
    refine exists_congr fun job => and_congr_right fun _ => ?_
    obtain ⟨task, standing⟩ := job
    cases standing <;> simp [Job.course?]
  refine (latest_eq (fun instant member => ?_) ?_).symm
  · obtain ⟨course, isCourse, rfl⟩ := List.mem_map.mp member
    obtain ⟨job, there, ended⟩ := mem_course.mp isCourse
    exact timely.past job there course ended
  · refine attained.imp_right fun ⟨job, there, ending, ended⟩ => ?_
    exact List.mem_map.mpr ⟨_, mem_course.mpr ⟨job, there, ended⟩, rfl⟩

/-- What a watch comes to that nobody cancels. -/
theorem gather_none (tasks : List (Task ε α)) :
    gather tasks none =
      ⟨(awaitAll tasks).time, (awaitAll tasks).outcome.mapError .failed, courses tasks⟩ := by
  have reached : Watch.Reached tasks none (Watch.start tasks none).run := Watch.Reached.start.run
  obtain ⟨outcome, isFinished⟩ := Watch.finished_of_still reached.answered (Watch.next?_run _)
  have undisturbed := undisturbed_of_reached reached
  have attained := attained_of_reached reached
  have timely := reached.timely
  rw [gather, time_awaitAll]
  generalize (Watch.start tasks none).run = watch at isFinished undisturbed attained timely ⊢
  cases undisturbed with
  | working now succeeded => cases isFinished
  | cleaning first now => cases isFinished
  | done clock first =>
    have own : courses tasks = tasks.mapIdx Leg.work.course := by
      rw [courses, first]
      exact (Leg.mapIdx_const Task.ownCourse tasks).symm
    rw [own, ← clock_of_finished timely attained rfl, Watch.gathered, Leg.course?_atEnd]
    simp only [awaitAll, first]
    rfl
  | @failed clock failure first =>
    have cut : courses tasks = tasks.mapIdx (Leg.cleanup failure.interruption).course := by
      rw [courses, first]
      rfl
    rw [cut, ← clock_of_finished timely attained rfl, Watch.gathered, Leg.course?_atEnd]
    simp only [awaitAll, first]
    rfl

/-! ### The first failure wins -/

theorem failure?_eq_some_iff {task : Task ε α} {cause : ε} :
    task.failure? = some cause ↔ task.outcome = .error cause := by
  obtain ⟨duration, outcome, cleanup, cleanupFailure⟩ := task
  cases outcome <;> simp [Task.failure?]

theorem failure?_eq_none_iff {task : Task ε α} :
    task.failure? = none ↔ ∃ value, task.outcome = .ok value := by
  obtain ⟨duration, outcome, cleanup, cleanupFailure⟩ := task
  cases outcome <;> simp [Task.failure?]

theorem map_outcome {tasks : List (Task ε α)} (succeed : ∀ task ∈ tasks, task.failure? = none) :
    tasks.map (·.outcome) = (values tasks).map .ok := by
  induction tasks with
  | nil => rfl
  | cons task rest inductionHypothesis =>
    rw [List.forall_mem_cons] at succeed
    obtain ⟨value, outcome⟩ := failure?_eq_none_iff.mp succeed.1
    have later := inductionHypothesis succeed.2
    simp only [values, List.map_cons, List.filterMap_cons, outcome, Except.toOption] at later ⊢
    rw [later]

variable {failure : Failure ε}

theorem course_of_shorter (first : firstFailure tasks = some failure) {position : Nat}
    {task : Task ε α} (there : tasks[position]? = some task)
    (shorter : task.duration < failure.time) :
    (courses tasks)[position]? = some ⟨.done, task.duration⟩ := by
  have missed : failure.interruption.misses position 0 task.duration = true :=
    Interruption.misses_iff.mpr (Or.inr (Or.inl (by rwa [Nat.zero_add])))
  have succeeds : task.failure? = none := by
    cases fails : task.failure? with
    | none => rfl
    | some cause =>
      have least := firstFailure_least first there fails
      omega
  rw [getElem?_courses first, there, Option.map_some, Task.course, if_pos missed, Task.ownCourse,
    succeeds]
  rfl

theorem course_of_longer (first : firstFailure tasks = some failure) {position : Nat}
    {task : Task ε α} (there : tasks[position]? = some task)
    (longer : failure.time < task.duration) :
    (courses tasks)[position]? = some ⟨.cancelled, failure.time + task.cleanup⟩ := by
  have struck : ¬ failure.interruption.misses position 0 task.duration = true := by
    rw [Interruption.misses_iff]
    simp only [Failure.interruption]
    omega
  rw [getElem?_courses first, there, Option.map_some, Task.course, if_neg struck]
  rfl

/-- If nothing else ends when the first task fails, the end comes with the longest cleanup of those
that are cancelled. -/
theorem latest_courses (first : firstFailure tasks = some failure)
    (alone : ∀ position task, tasks[position]? = some task → task.duration = failure.time →
      position = failure.position) :
    latest ((courses tasks).map (·.time)) = failure.time +
      latest ((tasks.filter (failure.time < ·.duration)).map (·.cleanup)) := by
  refine latest_eq (fun instant member => ?_) (Or.inr ?_)
  · obtain ⟨course, isCourse, rfl⟩ := List.mem_map.mp member
    obtain ⟨position, found⟩ := List.mem_iff_getElem?.mp isCourse
    obtain ⟨task, there, isOf⟩ := Option.map_eq_some_iff.mp
      ((getElem?_courses first position).symm.trans found)
    rcases Nat.lt_trichotomy task.duration failure.time with shorter | same | longer
    · cases found.symm.trans (course_of_shorter first there shorter)
      exact Nat.le_trans (Nat.le_of_lt shorter) (Nat.le_add_right _ _)
    · cases alone position task there same
      cases found.symm.trans (course_of_firstFailure first)
      exact Nat.le_add_right _ _
    · cases found.symm.trans (course_of_longer first there longer)
      refine Nat.add_le_add_left (le_latest (List.mem_map.mpr ⟨task, ?_, rfl⟩)) _
      exact List.mem_filter.mpr ⟨List.mem_of_getElem? there, decide_eq_true longer⟩
  · let cleanups := (tasks.filter (failure.time < ·.duration)).map (·.cleanup)
    rcases latest_mem cleanups with zero | longest
    · rw [zero]
      exact List.mem_map.mpr
        ⟨_, List.mem_of_getElem? (course_of_firstFailure first), rfl⟩
    · obtain ⟨task, filtered, cleanup⟩ := List.mem_map.mp longest
      obtain ⟨member, longer⟩ := List.mem_filter.mp filtered
      obtain ⟨position, there⟩ := List.mem_iff_getElem?.mp member
      have course := course_of_longer first there (of_decide_eq_true longer)
      rw [← cleanup]
      exact List.mem_map.mpr ⟨_, List.mem_of_getElem? course, rfl⟩

/-- What comes of several tasks when the one at a position is the first to fail. -/
structure CutShort (tasks : List (Task ε α)) (position : Nat) (failing : Task ε α) (cause : ε)
    (gathered : Gathered ε α) : Prop where
  there : tasks[position]? = some failing
  fails : failing.outcome = .error cause
  /-- No task fails before it, and of those that fail when it does it is the earliest. -/
  first : ∀ (other : Nat) (task : Task ε α), tasks[other]? = some task →
    (∃ cause, task.outcome = .error cause) →
      failing.duration < task.duration ∨ failing.duration = task.duration ∧ position ≤ other
  /-- Its failure is reported, whatever the cleanups of the others report. -/
  outcome : gathered.outcome = .error (.failed cause)
  length_courses : gathered.courses.length = tasks.length
  own : gathered.courses[position]? = some ⟨.failed, failing.duration⟩
  /-- Whatever ends before it ends with its value. -/
  shorter : ∀ (other : Nat) (task : Task ε α), tasks[other]? = some task →
    task.duration < failing.duration → gathered.courses[other]? = some ⟨.done, task.duration⟩
  /-- Whatever would end after it is cancelled, and its cleanup completed. -/
  longer : ∀ (other : Nat) (task : Task ε α), tasks[other]? = some task →
    failing.duration < task.duration →
      gathered.courses[other]? = some ⟨.cancelled, failing.duration + task.cleanup⟩
  /-- If nothing else ends when it fails, the end comes with the longest of these cleanups. -/
  time : (∀ (other : Nat) (task : Task ε α), tasks[other]? = some task →
      task.duration = failing.duration → other = position) →
    gathered.time = failing.duration +
      latest ((tasks.filter (failing.duration < ·.duration)).map (·.cleanup))

theorem cutShort (first : firstFailure tasks = some failure) :
    ∃ failing, CutShort tasks failure.position failing failure.cause (gather tasks none) := by
  obtain ⟨failing, there, fails, duration⟩ := cause_of_firstFailure first
  rw [gather_none, time_awaitAll]
  refine ⟨failing, there, failure?_eq_some_iff.mp fails, ?_, ?_, ?_, ?_, ?_, ?_, ?_⟩
  · rintro other task otherThere ⟨otherCause, otherFails⟩
    rw [duration]
    exact firstFailure_least first otherThere (failure?_eq_some_iff.mpr otherFails)
  · rw [awaitAll, first]
    rfl
  · rw [courses, first]
    exact List.length_mapIdx
  · rw [duration]
    exact course_of_firstFailure first
  · rw [duration]
    exact fun other task otherThere => course_of_shorter first otherThere
  · rw [duration]
    exact fun other task otherThere => course_of_longer first otherThere
  · rw [duration]
    exact latest_courses first

/-- What comes of several tasks while nobody cancels whoever waits. If none fails, all values are
there in the order of the tasks, at the instant when the last one ends. Otherwise the failure that
happens first cuts the others short. -/
theorem first_failure_wins (tasks : List (Task ε α)) :
    ((∀ task ∈ tasks, ∃ value, task.outcome = .ok value) →
      ∃ values, tasks.map (·.outcome) = values.map .ok ∧
        gather tasks none =
          ⟨latest (tasks.map (·.duration)), .ok values,
            tasks.map fun task => ⟨.done, task.duration⟩⟩) ∧
    ((∃ task ∈ tasks, ∃ cause, task.outcome = .error cause) →
      ∃ position failing cause, CutShort tasks position failing cause (gather tasks none)) := by
  refine ⟨fun succeed => ?_, fun ⟨task, member, cause, fails⟩ => ?_⟩
  · have unfailed : ∀ task ∈ tasks, task.failure? = none :=
      fun task member => failure?_eq_none_iff.mpr (succeed task member)
    have first : firstFailure tasks = none := (Run.firstFailure_eq_none_iff tasks).mpr unfailed
    have own : courses tasks = tasks.map fun task => ⟨.done, task.duration⟩ := by
      rw [courses, first]
      refine List.map_congr_left fun task member => ?_
      rw [Task.ownCourse, unfailed task member]
      rfl
    refine ⟨values tasks, map_outcome unfailed, ?_⟩
    rw [gather_none, time_awaitAll, own, List.map_map, awaitAll, first]
    rfl
  · cases first : firstFailure tasks with
    | none =>
      have unfailed := (Run.firstFailure_eq_none_iff tasks).mp first task member
      rw [failure?_eq_some_iff.mpr fails] at unfailed
      cases unfailed
    | some failure =>
      obtain ⟨failing, isCutShort⟩ := cutShort first
      exact ⟨failure.position, failing, failure.cause, isCutShort⟩

end Gather

end UserDirectory
