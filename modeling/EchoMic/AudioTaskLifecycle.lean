import EchoMic.DualCorePipeline

/-!
# The life of an audio task

As long as `stopAudioCaptureTask` never gives up on a task that is still
alive, there is at most one task, it is the one the handle denotes, and a
semaphore that has been given means that it is gone.
-/

namespace EchoMic

open GuardedRuns TaskTable

def Core0Pc.isStopTake : Core0Pc → Bool
  | .stopTake _ => true
  | _ => false

def Core0Pc.isStopForget : Core0Pc → Bool
  | .stopForget _ => true
  | _ => false

/-- The steps after the loop of the task has ended. -/
def TaskPc.isExit : TaskPc → Bool
  | .exitClearLed => true
  | .exitClearRunning => true
  | .exitGive => true
  | _ => false

def DualCore.NoTask (system : DualCore) : Prop :=
  ∀ id, system.tasks id = none

theorem not_noTask {system : DualCore} {id : Nat} {task : AudioTask}
    (live : system.tasks id = some task) : ¬ system.NoTask := by
  intro noTask
  rw [noTask id] at live
  cases live

/-- The two-second wait for the exit of a task does not expire while a task
is alive. -/
def TaskExitsInTime (system : DualCore) : DualCoreEvent → Prop
  | .core0 env =>
      system.core0.isStopTake = true → env.expired = true → system.NoTask
  | _ => True

/-- No wait of Core 0 expires in this step. -/
def DualCoreEvent.inTime : DualCoreEvent → Bool
  | .core0 env => !env.expired
  | .core1 _ _ => true
  | .peerCloses => true

/-- A task always exits in time when no wait expires. -/
theorem taskExitsInTime_of_not_expired {env : Core0Env} (inTime : env.expired = false)
    (system : DualCore) : TaskExitsInTime system (.core0 env) := by
  intro _ expired
  rw [inTime] at expired
  cases expired

theorem taskExitsInTime_of_inTime {event : DualCoreEvent} (inTime : event.inTime = true)
    (system : DualCore) : TaskExitsInTime system event := by
  cases event with
  | core0 env =>
      exact taskExitsInTime_of_not_expired (by simpa [DualCoreEvent.inTime] using inTime) system
  | core1 id env => trivial
  | peerCloses => trivial

/-- The task has seen its start and has been told to stop. -/
def AudioTask.ToldToStop (shared : Shared) (task : AudioTask) : Prop :=
  task.pc.isExit = true ∨ task.pc ≠ .start ∧ shared.audioTaskRunning = false

structure TaskLifecycle (system : DualCore) : Prop where
  handle : ∀ id task, system.tasks id = some task →
    system.shared.audioCaptureTaskHandle = some id
  told : ∀ id task, system.tasks id = some task →
    task.ToldToStop system.shared → system.core0.isStopTake = true
  given : system.shared.taskExitSemaphore = true →
    system.core0.isStopTake = true ∧ system.NoTask
  forgotten : system.core0.isStopForget = true → system.NoTask
  creating : system.core0 = .startCreate →
    system.shared.audioCaptureTaskHandle = none

theorem TaskLifecycle.only {system : DualCore} (lifecycle : TaskLifecycle system)
    {id other : Nat} {task otherTask : AudioTask}
    (live : system.tasks id = some task)
    (otherLive : system.tasks other = some otherTask) : other = id := by
  have handle := lifecycle.handle id task live
  rw [lifecycle.handle other otherTask otherLive] at handle
  exact Option.some.inj handle

theorem TaskLifecycle.noTask_of_handle {system : DualCore}
    (lifecycle : TaskLifecycle system)
    (handle : system.shared.audioCaptureTaskHandle = none) : system.NoTask := by
  intro id
  cases live : system.tasks id with
  | none => rfl
  | some task =>
      rw [lifecycle.handle id task live] at handle
      cases handle

theorem taskLifecycle_boot (currentBufferSize : Nat) :
    TaskLifecycle (DualCore.boot currentBufferSize) where
  handle := fun _ _ impossible => nomatch impossible
  told := fun _ _ impossible => nomatch impossible
  given := fun impossible => nomatch impossible
  forgotten := fun impossible => nomatch impossible
  creating := fun impossible => nomatch impossible

/-! ## What one step does to the handle, the flag and the semaphore -/

@[simp]
theorem isStopForget_afterRequest (caller : StopCaller) :
    caller.afterRequest.isStopForget = false := by
  cases caller <;> rfl

@[simp]
theorem isStopForget_afterStop (caller : StopCaller) :
    caller.afterStop.isStopForget = false := by
  rcases afterStop_cases caller with after | after | after | after <;> rw [after] <;> rfl

@[simp]
theorem afterRequest_ne_startCreate (caller : StopCaller) :
    caller.afterRequest ≠ .startCreate := by
  cases caller <;> nofun

section Core0

variable (env : Core0Env) (shared : Shared) (pc : Core0Pc)

theorem core0Step_handle :
    (core0Step env shared pc).1.audioCaptureTaskHandle = shared.audioCaptureTaskHandle ∨
      pc.isStopForget = true ∨ pc = .startCreate ∧ env.created = true := by
  cases pc <;> simp only [core0Step] <;> (repeat' split) <;>
    simp_all [Core0Pc.isStopForget]

theorem core0Step_audioTaskRunning
    (cleared : (core0Step env shared pc).1.audioTaskRunning = false) :
    shared.audioTaskRunning = false ∨ (core0Step env shared pc).2.isStopTake = true := by
  cases pc <;> simp only [core0Step] at cleared ⊢ <;> (repeat' split at cleared) <;>
    simp_all [Core0Pc.isStopTake]

theorem core0Step_taskExitSemaphore
    (given : (core0Step env shared pc).1.taskExitSemaphore = true) :
    shared.taskExitSemaphore = true ∧ pc.isStopTake = false := by
  cases pc <;> simp only [core0Step] at given <;> (repeat' split at given) <;>
    simp_all [Core0Pc.isStopTake]

/-- The wait for the exit ends with the semaphore or with its time limit. -/
theorem core0Step_isStopTake (waiting : pc.isStopTake = true) :
    (core0Step env shared pc).2.isStopTake = true ∨ shared.taskExitSemaphore = true ∨
      env.expired = true := by
  cases pc with
  | stopTake caller =>
      simp only [core0Step]
      (repeat' split) <;> simp_all [Core0Pc.isStopTake]
  | _ => cases waiting

theorem core0Step_isStopForget
    (forgets : (core0Step env shared pc).2.isStopForget = true) :
    pc.isStopTake = true ∧ (shared.taskExitSemaphore = true ∨ env.expired = true) := by
  cases pc <;> simp only [core0Step] at forgets <;> (repeat' split at forgets) <;> first
    | (simp at forgets; done)
    | simp_all [Core0Pc.isStopTake, Core0Pc.isStopForget]

theorem core0Step_startCreate (creates : (core0Step env shared pc).2 = .startCreate) :
    (core0Step env shared pc).1.audioCaptureTaskHandle = none := by
  cases pc <;> simp only [core0Step] at creates ⊢ <;> (repeat' split at creates) <;>
    simp_all

end Core0

section Core1

variable (env : TaskEnv) (shared : Shared) (task : AudioTask)

/-- A task that is told to stop after its step was told before, and the step
that gives the semaphore is the last one of a task that was told. -/
theorem taskStep_toldToStop {next : AudioTask}
    (continues : (taskStep env shared task).2 = some next)
    (told : next.ToldToStop (taskStep env shared task).1) : task.ToldToStop shared := by
  cases pc : task.pc <;>
    simp only [taskStep, pc, AudioTask.goto, AudioTask.continue] at continues told <;>
    (repeat' split at continues) <;> cases continues <;>
    simp_all [AudioTask.ToldToStop, TaskPc.isExit]

theorem taskStep_taskExitSemaphore
    (given : (taskStep env shared task).1.taskExitSemaphore = true) :
    shared.taskExitSemaphore = true ∨
      task.pc = .exitGive ∧ (taskStep env shared task).2 = none := by
  cases pc : task.pc <;> simp_all [taskStep]

end Core1

/-! ## Every step keeps the life cycle -/

theorem taskLifecycle_create {system : DualCore} {env : Core0Env}
    (lifecycle : TaskLifecycle system) (core0 : system.core0 = .startCreate)
    (creates : env.created = true) :
    TaskLifecycle
      { shared := (core0Step env system.shared system.core0).1
        core0 := (core0Step env system.shared system.core0).2
        tasks := system.tasksAfter env } := by
  have noTask := lifecycle.noTask_of_handle (lifecycle.creating core0)
  have tasks (id : Nat) (task : AudioTask) (live : system.tasksAfter env id = some task) :
      id = system.shared.tasksCreated ∧ task = AudioTask.created := by
    rcases DualCore.tasksAfter_cases live with before | ⟨-, fresh, isNew⟩
    · exact absurd noTask (not_noTask before)
    · exact ⟨fresh, isNew⟩
  rw [core0]
  refine ⟨fun id task live => ?_, fun id task live told => ?_, fun given => ?_, ?_, ?_⟩
  · rw [core0Step_handle_create env _ creates, (tasks id task live).1]
  · rw [(tasks id task live).2] at told
    rcases told with impossible | ⟨notStart, -⟩
    · cases impossible
    · exact absurd rfl notStart
  · have before := core0Step_taskExitSemaphore env _ _ given
    have atTake := (lifecycle.given before.1).1
    rw [core0] at atTake
    cases atTake
  · exact fun impossible => nomatch impossible
  · exact fun impossible => nomatch impossible

/-- A task that is told to stop keeps Core 0 in its wait. -/
theorem taskLifecycle_core0 {system : DualCore} {env : Core0Env}
    (lifecycle : TaskLifecycle system) (inTime : TaskExitsInTime system (.core0 env)) :
    TaskLifecycle
      { shared := (core0Step env system.shared system.core0).1
        core0 := (core0Step env system.shared system.core0).2
        tasks := system.tasksAfter env } := by
  by_cases creates : system.core0 = .startCreate ∧ env.created = true
  · exact taskLifecycle_create lifecycle creates.1 creates.2
  have sameTasks : system.tasksAfter env = system.tasks := if_neg creates
  -- The wait for the exit ends only when the task is gone.
  have waitEnds : system.core0.isStopTake = true →
      (core0Step env system.shared system.core0).2.isStopTake = true ∨ system.NoTask := by
    intro waiting
    rcases core0Step_isStopTake env system.shared _ waiting with stays | given | expired
    · exact Or.inl stays
    · exact Or.inr (lifecycle.given given).2
    · exact Or.inr (inTime waiting expired)
  rw [sameTasks]
  refine ⟨fun id task live => ?_, fun id task live told => ?_, fun given => ?_,
    fun forgets => ?_, core0Step_startCreate env _ _⟩
  · rcases core0Step_handle env system.shared system.core0 with same | forgets | create
    · rw [same]
      exact lifecycle.handle id task live
    · exact absurd (lifecycle.forgotten forgets) (not_noTask live)
    · exact absurd create creates
  · have toldBefore : task.ToldToStop system.shared ∨
        (core0Step env system.shared system.core0).2.isStopTake = true := by
      rcases told with exits | ⟨started, cleared⟩
      · exact Or.inl (Or.inl exits)
      · rcases core0Step_audioTaskRunning env _ _ cleared with before | waits
        · exact Or.inl (Or.inr ⟨started, before⟩)
        · exact Or.inr waits
    rcases toldBefore with told | waits
    · rcases waitEnds (lifecycle.told id task live told) with stays | gone
      · exact stays
      · exact absurd gone (not_noTask live)
    · exact waits
  · obtain ⟨before, notWaiting⟩ := core0Step_taskExitSemaphore env _ _ given
    rw [(lifecycle.given before).1] at notWaiting
    cases notWaiting
  · obtain ⟨waiting, given | expired⟩ := core0Step_isStopForget env _ _ forgets
    · exact (lifecycle.given given).2
    · exact inTime waiting expired

theorem taskLifecycle_core1 {system : DualCore} {id : Nat} {task : AudioTask}
    (lifecycle : TaskLifecycle system) (live : system.tasks id = some task)
    (env : TaskEnv) :
    TaskLifecycle
      { system with
        shared := (taskStep env system.shared task).1
        tasks := Function.update system.tasks id (taskStep env system.shared task).2 } := by
  have sameHandle := taskStep_handle env system.shared task
  have tasks (other : Nat) (otherTask : AudioTask)
      (otherLive : Function.update system.tasks id (taskStep env system.shared task).2 other =
        some otherTask) :
      other = id ∧ (taskStep env system.shared task).2 = some otherTask := by
    rcases update_cases otherLive with stepped | ⟨differs, before⟩
    · exact stepped
    · exact absurd (lifecycle.only live before) differs
  have noTask (gone : (taskStep env system.shared task).2 = none) (other : Nat) :
      Function.update system.tasks id (taskStep env system.shared task).2 other = none := by
    cases otherLive : Function.update system.tasks id (taskStep env system.shared task).2 other with
    | none => rfl
    | some otherTask =>
        rw [(tasks other otherTask otherLive).2] at gone
        cases gone
  refine ⟨fun other next otherLive => ?_, fun other next otherLive told => ?_,
    fun given => ?_, fun forgets => ?_, fun creates => ?_⟩
  · rw [sameHandle, (tasks other next otherLive).1]
    exact lifecycle.handle id task live
  · exact lifecycle.told id task live
      (taskStep_toldToStop env _ _ (tasks other next otherLive).2 told)
  · rcases taskStep_taskExitSemaphore env _ _ given with before | ⟨gives, gone⟩
    · exact absurd (lifecycle.given before).2 (not_noTask live)
    · refine ⟨lifecycle.told id task live (Or.inl ?_), noTask gone⟩
      rw [gives]
      rfl
  · exact absurd (lifecycle.forgotten forgets) (not_noTask live)
  · rw [sameHandle]
    exact lifecycle.creating creates

/-- The life cycle holds in every state of a run in which every task exits in
time. -/
theorem taskLifecycle_step {system next : DualCore} {event : DualCoreEvent}
    (lifecycle : TaskLifecycle system) (inTime : TaskExitsInTime system event)
    (stepped : dualCoreStep system event = some next) : TaskLifecycle next := by
  cases event with
  | core0 env =>
      cases stepped
      exact taskLifecycle_core0 lifecycle inTime
  | core1 id env =>
      obtain ⟨task, live, rfl⟩ := dualCoreStep_core1 stepped
      exact taskLifecycle_core1 lifecycle live env
  | peerCloses =>
      cases stepped
      exact ⟨lifecycle.handle, lifecycle.told, lifecycle.given, lifecycle.forgotten,
        lifecycle.creating⟩

/-- The start of a stream: Core 0 runs without a task, and Core 1 does the
rest. -/
theorem guarded_startPlaying {guard : DualCore → DualCoreEvent → Prop}
    (withoutTask : ∀ system event, system.NoTask → guard system event)
    (core1 : ∀ system id env, guard system (.core1 id env)) :
    Guarded dualCoreStep guard (DualCore.boot 1024) startPlaying := by
  iterate 17
    refine ⟨withoutTask _ _ fun _ => rfl, fun next stepped => ?_⟩
    cases stepped
  refine guarded_of_forall_mem (fun event member system => ?_) _
  rw [List.eq_of_mem_replicate member]
  exact core1 system 0 _

end EchoMic
