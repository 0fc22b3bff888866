import EchoMic.AudioTaskLifecycle

/-!
# The exit of the task that was asked to stop

`startAudioCaptureTask` and `stopAudioCaptureTask` see a task only through
its handle, and its exit only through a semaphore that does not say who gave
it.  As long as no wait for the semaphore is given up while a task is alive,
there is one task at most, and a semaphore that is taken was given by the
task that was asked to stop, after it was asked.
-/

namespace EchoMic

open GuardedRuns

def AtMostOneTask (system : DualCore) : Prop :=
  ∀ id other task otherTask, system.tasks id = some task →
    system.tasks other = some otherTask → other = id

/-- The task that the handle denotes has given the semaphore while Core 0
was waiting for it in this call, and Core 0 has waited ever since. -/
def GivenByAskedTask (start : DualCore) (events : List DualCoreEvent)
    (caller : StopCaller) : Prop :=
  ∃ before id env after asking task exited,
    events = before ++ .core1 id env :: after ∧
      run dualCoreStep start before = some asking ∧
      asking.core0 = .stopTake caller ∧
      asking.shared.audioCaptureTaskHandle = some id ∧
      asking.tasks id = some task ∧ task.pc = .exitGive ∧
      dualCoreStep asking (.core1 id env) = some exited ∧
      Throughout dualCoreStep (fun state => state.core0 = .stopTake caller) exited after

/-- The next step of Core 0 takes the semaphore in `stopAudioCaptureTask`. -/
def TakesSemaphore (caller : StopCaller) (system : DualCore) : Prop :=
  system.core0 = .stopTake caller ∧ system.shared.taskExitSemaphore = true

/-- Only the exit of a task makes a semaphore that Core 0 can take, and that
task is the one of the handle. -/
theorem exits_of_takesSemaphore {system next : DualCore} {event : DualCoreEvent}
    {caller : StopCaller} (lifecycle : TaskLifecycle system)
    (stepped : dualCoreStep system event = some next)
    (before : ¬ TakesSemaphore caller system) (takes : TakesSemaphore caller next) :
    ∃ id env task, event = .core1 id env ∧ system.core0 = .stopTake caller ∧
      system.shared.audioCaptureTaskHandle = some id ∧
      system.tasks id = some task ∧ task.pc = .exitGive := by
  obtain ⟨waits, given⟩ := takes
  cases event with
  | core0 env =>
      cases stepped
      obtain ⟨givenBefore, notWaiting⟩ := core0Step_taskExitSemaphore env _ _ given
      rw [(lifecycle.given givenBefore).1] at notWaiting
      cases notWaiting
  | core1 id env =>
      obtain ⟨task, live, rfl⟩ := dualCoreStep_core1 stepped
      rcases taskStep_taskExitSemaphore env _ _ given with givenBefore | ⟨gives, -⟩
      · exact absurd ⟨waits, givenBefore⟩ before
      · exact ⟨id, env, task, rfl, waits, lifecycle.handle id task live, live, gives⟩
  | peerCloses =>
      cases stepped
      exact absurd ⟨waits, given⟩ before

theorem givenByAskedTask_of_takesSemaphore {currentBufferSize : Nat}
    {events : List DualCoreEvent} {last : DualCore} {caller : StopCaller}
    (inTime : Guarded dualCoreStep TaskExitsInTime (DualCore.boot currentBufferSize) events)
    (ran : run dualCoreStep (DualCore.boot currentBufferSize) events = some last)
    (takes : TakesSemaphore caller last) :
    GivenByAskedTask (DualCore.boot currentBufferSize) events caller := by
  have initially : ¬ TakesSemaphore caller (DualCore.boot currentBufferSize) :=
    fun impossible => nomatch impossible.1
  obtain ⟨before, event, after, middle, next, rfl, ranBefore, notYet, stepped, since, -⟩ :=
    exists_rise (TakesSemaphore caller) initially ran takes
  have lifecycle : TaskLifecycle middle :=
    invariant_of_guarded (fun _ _ _ => taskLifecycle_step)
      (taskLifecycle_boot currentBufferSize) inTime.append.1 ranBefore
  obtain ⟨id, env, task, rfl, waits, handle, live, gives⟩ :=
    exits_of_takesSemaphore lifecycle stepped notYet since.start
  exact ⟨before, id, env, after, middle, task, next, rfl, ranBefore, waits, handle, live,
    gives, stepped, since.imp fun _ takes => takes.1⟩

/-- At most one task is alive, and the semaphore is taken only for the exit
of the task that was asked to stop, in every state of a run in which tasks
exit in time. -/
theorem audioTask_of_taskExitsInTime (currentBufferSize : Nat)
    (events : List DualCoreEvent) (last : DualCore)
    (inTime : Guarded dualCoreStep TaskExitsInTime (DualCore.boot currentBufferSize) events)
    (ran : run dualCoreStep (DualCore.boot currentBufferSize) events = some last) :
    AtMostOneTask last ∧ ∀ caller, TakesSemaphore caller last →
      GivenByAskedTask (DualCore.boot currentBufferSize) events caller := by
  have lifecycle : TaskLifecycle last :=
    invariant_of_guarded (fun _ _ _ => taskLifecycle_step)
      (taskLifecycle_boot currentBufferSize) inTime ran
  constructor
  · intro id other task otherTask live otherLive
    exact lifecycle.only live otherLive
  · intro caller takes
    exact givenByAskedTask_of_takesSemaphore inTime ran takes

/-- A client plays and `restartI2S` stops the task, which exits in time. -/
def stopWhilePlaying : List DualCoreEvent :=
  startPlaying ++
    List.replicate 6 (.core0 ⟨.restartI2S, false, true, false, none⟩) ++
    List.replicate 17 (.core1 0 ⟨true, 256, false, false, none⟩) ++
    List.replicate 8 (.core0 ⟨.restartI2S, false, true, false, none⟩) ++
    List.replicate 5 (.core1 0 ⟨true, 256, false, false, none⟩)

theorem stopWhilePlaying_inTime (start : DualCore) :
    Guarded dualCoreStep TaskExitsInTime start stopWhilePlaying := by
  have inTime : stopWhilePlaying.all DualCoreEvent.inTime = true := by decide
  exact guarded_of_forall_mem (fun event member system =>
    taskExitsInTime_of_inTime (List.all_eq_true.mp inTime event member) system) start

/-- The task of the client gives the semaphore that `restartI2S` takes. -/
theorem audioTask_stopWhilePlaying :
    ∃ last, run dualCoreStep (DualCore.boot 1024) stopWhilePlaying = some last ∧
      AtMostOneTask last ∧
      TakesSemaphore (.restartI2S true) last ∧
      GivenByAskedTask (DualCore.boot 1024) stopWhilePlaying (.restartI2S true) := by
  obtain ⟨last, ran, takes⟩ :
      ∃ last, run dualCoreStep (DualCore.boot 1024) stopWhilePlaying = some last ∧
        TakesSemaphore (.restartI2S true) last := ⟨_, rfl, rfl, rfl⟩
  obtain ⟨single, asked⟩ := audioTask_of_taskExitsInTime 1024 stopWhilePlaying last
    (stopWhilePlaying_inTime _) ran
  exact ⟨last, ran, single, takes, asked _ takes⟩

/-- `restartI2S` is called while the task is in a call that blocks, and both
of its waits expire. -/
def restartWithoutExit : List DualCoreEvent :=
  startPlaying ++ List.replicate 21 (.core0 ⟨.restartI2S, true, true, false, none⟩)

/-- The stream goes on with a second task while the first one is alive. -/
theorem two_tasks_alive :
    ∃ last, run dualCoreStep (DualCore.boot 1024) restartWithoutExit = some last ∧
      ¬ AtMostOneTask last := by
  obtain ⟨last, ran, first, second⟩ :
      ∃ last, run dualCoreStep (DualCore.boot 1024) restartWithoutExit = some last ∧
        (last.tasks 0).isSome = true ∧ (last.tasks 1).isSome = true := ⟨_, rfl, rfl, rfl⟩
  refine ⟨last, ran, fun single => ?_⟩
  obtain ⟨task, live⟩ := Option.isSome_iff_exists.mp first
  obtain ⟨otherTask, otherLive⟩ := Option.isSome_iff_exists.mp second
  exact absurd (single 0 1 task otherTask live otherLive) (by decide)

end EchoMic
