import EchoMic.SocketOwnership

/-!
# A task behind every stream

PLAY and `restartI2S` set `isStreaming` before they start the task, and
nothing clears it again when the task cannot be created or cannot allocate
its buffers.  A task that ends an earlier stream late may clear `streamClient`
again before they have set `isStreaming`.  When none of this happens, and every
task exits in time, a stream is always served and a handle that is reused
denotes a live task.
-/

namespace EchoMic

open GuardedRuns TaskTable

def TaskPc.allocates : TaskPc → Bool
  | .mallocCapture | .mallocOutput => true
  | _ => false

/-- The task has not failed to start and has not been told to stop, so it
comes to the test of `isStreaming`. -/
def AudioTask.Serves (shared : Shared) (task : AudioTask) : Prop :=
  task.pc ≠ .mallocFailed ∧ ¬ task.ToldToStop shared

/-- The task finds a client to stream to, or is about to end the stream. -/
def AudioTask.HasClient (shared : Shared) (task : AudioTask) : Prop :=
  shared.streamClient = true ∨ task.pc.clearsStreaming = true

/-- A stream has a task that serves its client, except while
`startAudioCaptureTask` runs, and that function reuses only a handle of a task
that serves. -/
structure StreamServed (system : DualCore) : Prop where
  served : system.shared.isStreaming = true → system.core0 ≠ .startTestHandle →
    system.core0 ≠ .startCreate →
      ∃ id task, system.shared.audioCaptureTaskHandle = some id ∧
        system.tasks id = some task ∧ task.Serves system.shared ∧
        task.HasClient system.shared
  reused : system.core0 = .startTestHandle → ∀ id,
    system.shared.audioCaptureTaskHandle = some id →
      ∃ task, system.tasks id = some task ∧ task.Serves system.shared

/-- Core 0 has set `streamClient` and is about to set `isStreaming`. -/
def Core0Pc.setsStreaming : Core0Pc → Bool
  | .playSetStreaming | .restartSetStreaming => true
  | _ => false

/-- A task that is created comes to its loop, and exits in time; and no task
that has cleared `streamClient` under Core 0's hands goes on to clear
`isStreaming` before Core 0 sets it. -/
structure StartSucceeds (system : DualCore) (event : DualCoreEvent) : Prop where
  exits : TaskExitsInTime system event
  creates : ∀ env, event = .core0 env → system.core0 = .startCreate → env.created = true
  allocates : ∀ id env task, event = .core1 id env → system.tasks id = some task →
    task.pc.allocates = true → env.allocated = true
  handsOver : ∀ id env task, event = .core1 id env → system.tasks id = some task →
    task.pc.clearsStreaming = true → system.core0.setsStreaming = true →
      system.shared.streamClient = true

/-- What has been allocated so far did not fail. -/
def AudioTask.StartsUp (task : AudioTask) : Prop :=
  task.pc ≠ .mallocFailed ∧ (task.pc = .mallocOutput → task.captureBuffer.isSome = true)

theorem startsUp_created : AudioTask.created.StartsUp := by
  constructor <;> simp [AudioTask.created]

/-- Core 0 waits for the exit of the task or is about to forget it. -/
def Core0Pc.endsTask (pc : Core0Pc) : Bool :=
  pc.isStopTake || pc.isStopForget

/-- The client of the stream is set, or a live task is about to end the
stream. -/
def DualCore.HasClient (system : DualCore) : Prop :=
  system.shared.streamClient = true ∨
    ∃ id task, system.tasks id = some task ∧ task.pc.clearsStreaming = true

structure StreamHasTask (system : DualCore) : Prop where
  lifecycle : TaskLifecycle system
  closing : system.core0.isClosing = true → system.shared.isStreaming = false
  alive : system.core0.endsTask = false → ∀ id,
    system.shared.audioCaptureTaskHandle = some id → (system.tasks id).isSome = true
  allocated : Every system.tasks AudioTask.StartsUp
  handle : system.shared.isStreaming = true → system.core0 ≠ .startTestHandle →
    system.core0 ≠ .startCreate → system.shared.audioCaptureTaskHandle.isSome = true
  client : system.shared.isStreaming = true ∨ system.core0.setsStreaming = true →
    system.HasClient

theorem streamHasTask_boot (currentBufferSize : Nat) :
    StreamHasTask (DualCore.boot currentBufferSize) where
  lifecycle := taskLifecycle_boot currentBufferSize
  closing := fun _ => rfl
  alive := fun _ _ impossible => nomatch impossible
  allocated := every_empty
  handle := fun impossible => nomatch impossible
  client := fun impossible => by rcases impossible with streaming | sets <;> contradiction

theorem isClosing_of_endsTask {pc : Core0Pc} (ends : pc.endsTask = true) :
    pc.isClosing = true := by
  cases pc <;> first | rfl | cases ends

theorem isClosing_of_isStopForget {pc : Core0Pc} (forgets : pc.isStopForget = true) :
    pc.isClosing = true := by
  cases pc <;> first | rfl | cases forgets

theorem notSetsStreaming_of_isClosing {pc : Core0Pc} (closing : pc.isClosing = true) :
    pc.setsStreaming = false := by
  cases pc <;> first | rfl | cases closing

theorem StreamHasTask.streamServed {system : DualCore} (has : StreamHasTask system) :
    StreamServed system := by
  have serves (id : Nat) (handle : system.shared.audioCaptureTaskHandle = some id)
      (notStopping : system.core0.isStopTake = false)
      (notEnding : system.core0.endsTask = false) :
      ∃ task, system.tasks id = some task ∧ task.Serves system.shared := by
    obtain ⟨task, live⟩ := Option.isSome_iff_exists.mp (has.alive notEnding id handle)
    refine ⟨task, live, (has.allocated id task live).1, fun told => ?_⟩
    rw [has.lifecycle.told id task live told] at notStopping
    cases notStopping
  constructor
  · intro streaming notTest notCreate
    obtain ⟨id, handle⟩ := Option.isSome_iff_exists.mp (has.handle streaming notTest notCreate)
    have notClosing : system.core0.isClosing = false := by
      refine Bool.of_not_eq_true fun closing => ?_
      rw [has.closing closing] at streaming
      cases streaming
    have notStopping : system.core0.isStopTake = false := by
      refine Bool.of_not_eq_true fun waits => ?_
      rw [isClosing_of_isStopTake waits] at notClosing
      cases notClosing
    have notEnding : system.core0.endsTask = false := by
      refine Bool.of_not_eq_true fun ends => ?_
      rw [isClosing_of_endsTask ends] at notClosing
      cases notClosing
    obtain ⟨task, live, serving⟩ := serves id handle notStopping notEnding
    refine ⟨id, task, handle, live, serving, ?_⟩
    rcases has.client (Or.inl streaming) with client | ⟨other, otherTask, otherLive, ends⟩
    · exact Or.inl client
    · cases has.lifecycle.only live otherLive
      cases live.symm.trans otherLive
      exact Or.inr ends
  · intro tests id handle
    apply serves id handle
    · rw [tests]
      rfl
    · rw [tests]
      rfl

/-! ## Steps of Core 0 -/

section Core0

variable {shared : Shared} {pc : Core0Pc} (env : Core0Env)

/-- A wait for the exit of a task ends with forgetting the handle. -/
theorem core0Step_endsTask (ends : pc.endsTask = true)
    (waited : (core0Step env shared pc).2.endsTask = false) :
    (core0Step env shared pc).1.audioCaptureTaskHandle = none := by
  cases pc with
  | stopTake caller =>
      simp only [core0Step] at waited
      (repeat' split at waited) <;> cases waited
  | stopForget caller => rfl
  | _ => cases ends

/-- `startAudioCaptureTask` returns with a handle. -/
theorem core0Step_start (starts : pc = .startTestHandle ∨ pc = .startCreate)
    (creates : pc = .startCreate → env.created = true)
    (returns : (core0Step env shared pc).2 ≠ .startCreate) :
    (core0Step env shared pc).1.audioCaptureTaskHandle.isSome = true := by
  rcases starts with rfl | rfl
  · cases handle : shared.audioCaptureTaskHandle <;> simp_all [core0Step]
  · rw [core0Step_handle_create env shared (creates rfl)]
    rfl

/-- A stream is set up in front of `startAudioCaptureTask`. -/
theorem core0Step_served
    (handle : shared.isStreaming = true → pc ≠ .startTestHandle → pc ≠ .startCreate →
      shared.audioCaptureTaskHandle.isSome = true)
    (closing : pc.isClosing = true → shared.isStreaming = false)
    (creates : pc = .startCreate → env.created = true)
    (streaming : (core0Step env shared pc).1.isStreaming = true)
    (notTest : (core0Step env shared pc).2 ≠ .startTestHandle)
    (notCreate : (core0Step env shared pc).2 ≠ .startCreate) :
    (core0Step env shared pc).1.audioCaptureTaskHandle.isSome = true := by
  by_cases starts : pc = .startTestHandle ∨ pc = .startCreate
  · exact core0Step_start env starts creates notCreate
  obtain ⟨notAtTest, notAtCreate⟩ := not_or.mp starts
  rcases core0Step_setsStreaming env streaming with before | rfl | rfl
  · rcases core0Step_handle env shared pc with same | forgets | ⟨create, -⟩
    · rw [same]
      exact handle before notAtTest notAtCreate
    · have cleared := closing (isClosing_of_isStopForget forgets)
      rw [before] at cleared
      cases cleared
    · exact absurd create notAtCreate
  · exact absurd rfl notTest
  · exact absurd rfl notTest

@[simp]
theorem setsStreaming_afterRequest (caller : StopCaller) :
    caller.afterRequest.setsStreaming = false := by
  cases caller <;> rfl

@[simp]
theorem setsStreaming_afterStop (caller : StopCaller) :
    caller.afterStop.setsStreaming = false := by
  rcases afterStop_cases caller with after | after | after | after <;> rw [after] <;> rfl

/-- Core 0 sets `streamClient` in front of `isStreaming`. -/
theorem core0Step_setsClient {next : Shared × Core0Pc}
    (stepped : core0Step env shared pc = next) (sets : next.2.setsStreaming = true) :
    next.1.streamClient = true := by
  cases pc <;> simp only [core0Step] at stepped <;> (repeat' split at stepped) <;>
    cases stepped <;> first
    | rfl
    | exact absurd sets Bool.false_ne_true
    | exact absurd sets (by simp)

end Core0

/-! ## Steps of the task -/

section Core1

variable {shared : Shared} {task : AudioTask} (env : TaskEnv)

theorem taskStep_ends (ends : (taskStep env shared task).2 = none) :
    task.pc = .mallocFailed ∨ task.pc = .exitGive := by
  cases pc : task.pc <;>
    simp only [taskStep, pc, AudioTask.goto, AudioTask.continue] at ends <;>
    (repeat' split at ends) <;> simp_all

theorem taskStep_startsUp {next : AudioTask} (allocated : task.StartsUp)
    (succeeds : task.pc.allocates = true → env.allocated = true)
    (continues : (taskStep env shared task).2 = some next) : next.StartsUp := by
  cases pc : task.pc <;>
    simp only [taskStep, pc, AudioTask.goto, AudioTask.continue] at continues <;>
    (repeat' split at continues) <;> cases continues <;>
    simp_all [AudioTask.StartsUp, TaskPc.allocates]

/-- A task that clears `streamClient` is about to end the stream. -/
theorem taskStep_streamClient_or (shared : Shared) (task : AudioTask) :
    (taskStep env shared task).1.streamClient = shared.streamClient ∨
      ∃ next, (taskStep env shared task).2 = some next ∧ next.pc.clearsStreaming = true := by
  cases pc : task.pc <;> simp [taskStep, pc, AudioTask.goto, TaskPc.clearsStreaming]

end Core1

/-! ## Every step keeps the task -/

theorem hasClient_core0 {system : DualCore} {env : Core0Env} (has : StreamHasTask system)
    (uses : (core0Step env system.shared system.core0).1.isStreaming = true ∨
      (core0Step env system.shared system.core0).2.setsStreaming = true) :
    DualCore.HasClient
      { shared := (core0Step env system.shared system.core0).1
        core0 := (core0Step env system.shared system.core0).2
        tasks := system.tasksAfter env } := by
  rcases uses with streaming | sets
  · have used : system.shared.isStreaming = true ∨ system.core0.setsStreaming = true := by
      rcases core0Step_setsStreaming env streaming with before | plays | resumes
      · exact Or.inl before
      · exact Or.inr (by rw [plays]; rfl)
      · exact Or.inr (by rw [resumes]; rfl)
    have notClosing : system.core0.isClosing = false := by
      refine Bool.of_not_eq_true fun closing => ?_
      rcases used with before | sets
      · rw [has.closing closing] at before
        cases before
      · rw [notSetsStreaming_of_isClosing closing] at sets
        cases sets
    rcases has.client used with client | ⟨id, task, live, ends⟩
    · exact Or.inl (core0Step_client env notClosing client)
    · refine Or.inr ⟨id, task, ?_, ends⟩
      -- A task is created only when there is none.
      rw [DualCore.tasksAfter, if_neg fun creates =>
        not_noTask live (has.lifecycle.noTask_of_handle (has.lifecycle.creating creates.1))]
      exact live
  · exact Or.inl (core0Step_setsClient env rfl sets)

theorem hasClient_core1 {system : DualCore} {id : Nat} {env : TaskEnv} {task : AudioTask}
    (has : StreamHasTask system) (succeeds : StartSucceeds system (.core1 id env))
    (live : system.tasks id = some task)
    (uses : (taskStep env system.shared task).1.isStreaming = true ∨
      system.core0.setsStreaming = true) :
    DualCore.HasClient
      { system with
        shared := (taskStep env system.shared task).1
        tasks := Function.update system.tasks id (taskStep env system.shared task).2 } := by
  rcases taskStep_streamClient_or env system.shared task with same | ⟨next, continues, ends⟩
  · by_cases ending : task.pc.clearsStreaming = true
    · rcases uses with streaming | sets
      · rw [(taskStep_clearsStreaming env ending).1] at streaming
        cases streaming
      · exact Or.inl (same.trans (succeeds.handsOver id env task rfl live ending sets))
    · rcases has.client (uses.imp_left (taskStep_streaming env)) with
        client | ⟨other, otherTask, otherLive, ends⟩
      · exact Or.inl (same.trans client)
      · have differs : other ≠ id := by
          rintro rfl
          cases live.symm.trans otherLive
          exact ending ends
        exact Or.inr ⟨other, otherTask, (Function.update_of_ne differs ..).trans otherLive, ends⟩
  · exact Or.inr ⟨id, next, (Function.update_self ..).trans continues, ends⟩

theorem streamHasTask_core0 {system : DualCore} {env : Core0Env}
    (has : StreamHasTask system) (succeeds : StartSucceeds system (.core0 env)) :
    StreamHasTask
      { shared := (core0Step env system.shared system.core0).1
        core0 := (core0Step env system.shared system.core0).2
        tasks := system.tasksAfter env } := by
  have creates := succeeds.creates env rfl
  refine ⟨taskLifecycle_core0 has.lifecycle succeeds.exits,
    core0Step_isClosing env has.closing, fun notEnding id handle => ?_, ?_,
    core0Step_served env has.handle has.closing creates, hasClient_core0 has⟩
  · have notEndingBefore : system.core0.endsTask = false := by
      refine Bool.of_not_eq_true fun ends => ?_
      rw [core0Step_endsTask env ends notEnding] at handle
      cases handle
    by_cases create : system.core0 = .startCreate ∧ env.created = true
    · rw [create.1, core0Step_handle_create env _ create.2] at handle
      cases handle
      simp [DualCore.tasksAfter, create]
    · rw [DualCore.tasksAfter, if_neg create]
      apply has.alive notEndingBefore
      rcases core0Step_handle env system.shared system.core0 with same | forgets | create'
      · rw [← same]
        exact handle
      · rw [Core0Pc.endsTask, forgets, Bool.or_true] at notEndingBefore
        cases notEndingBefore
      · exact absurd create' create
  · rw [DualCore.tasksAfter]
    split
    · apply has.allocated.update
      intro task created
      cases created
      exact startsUp_created
    · exact has.allocated

theorem streamHasTask_core1 {system : DualCore} {id : Nat} {env : TaskEnv}
    {task : AudioTask} (has : StreamHasTask system)
    (succeeds : StartSucceeds system (.core1 id env)) (live : system.tasks id = some task) :
    StreamHasTask
      { system with
        shared := (taskStep env system.shared task).1
        tasks := Function.update system.tasks id (taskStep env system.shared task).2 } := by
  have sameHandle := taskStep_handle env system.shared task
  have allocated := has.allocated id task live
  refine ⟨taskLifecycle_core1 has.lifecycle live env,
    fun closing => taskStep_isStreaming env _ _ (has.closing closing),
    fun notEnding other handle => ?_, ?_, fun streaming notTest notCreate => ?_,
    hasClient_core1 has succeeds live⟩
  · rw [sameHandle] at handle
    have alive := has.alive notEnding other handle
    by_cases same : other = id
    · subst other
      cases ends : (taskStep env system.shared task).2 with
      | some next => simp
      | none =>
          rcases taskStep_ends env ends with failed | gives
          · exact absurd failed allocated.1
          · -- Only a task that Core 0 waits for comes to its exit.
            have told : task.ToldToStop system.shared := Or.inl (by rw [gives]; rfl)
            rw [Core0Pc.endsTask, has.lifecycle.told id task live told, Bool.true_or] at notEnding
            cases notEnding
    · simpa [Function.update_of_ne same] using alive
  · apply has.allocated.update
    intro next continues
    exact taskStep_startsUp env allocated (succeeds.allocates id env task rfl live) continues
  · rw [sameHandle]
    exact has.handle (taskStep_streaming env streaming) notTest notCreate

theorem streamHasTask_step {system next : DualCore} {event : DualCoreEvent}
    (has : StreamHasTask system) (succeeds : StartSucceeds system event)
    (stepped : dualCoreStep system event = some next) : StreamHasTask next := by
  cases event with
  | core0 env =>
      cases stepped
      exact streamHasTask_core0 has succeeds
  | core1 id env =>
      obtain ⟨task, live, rfl⟩ := dualCoreStep_core1 stepped
      exact streamHasTask_core1 has succeeds live
  | peerCloses =>
      have lifecycle := taskLifecycle_step has.lifecycle succeeds.exits stepped
      cases stepped
      exact ⟨lifecycle, has.closing, has.alive, has.allocated, has.handle, has.client⟩

/-- Every stream is served by a live task in every state of a run in which
tasks are created, get their memory and exit in time. -/
theorem streamServed_of_startSucceeds (currentBufferSize : Nat)
    (events : List DualCoreEvent) (last : DualCore)
    (succeeds : Guarded dualCoreStep StartSucceeds (DualCore.boot currentBufferSize) events)
    (ran : run dualCoreStep (DualCore.boot currentBufferSize) events = some last) :
    StreamServed last :=
  (invariant_of_guarded (fun _ _ _ => streamHasTask_step)
    (streamHasTask_boot currentBufferSize) succeeds ran).streamServed

/-- A step in which no wait expires and no creation and no allocation fails,
with `streamClient` set whenever Core 0 is about to set `isStreaming`. -/
theorem startSucceeds_of_env {system : DualCore} {event : DualCoreEvent}
    (core0 : ∀ env, event = .core0 env → env.expired = false ∧ env.created = true)
    (core1 : ∀ id env, event = .core1 id env → env.allocated = true)
    (handedOver : system.core0.setsStreaming = true → system.shared.streamClient = true) :
    StartSucceeds system event where
  exits := by
    cases event with
    | core0 env => exact taskExitsInTime_of_not_expired (core0 env rfl).1 system
    | core1 id env => trivial
    | peerCloses => trivial
  creates := fun env same _ => (core0 env same).2
  allocates := fun id env _ same _ _ => core1 id env same
  handsOver := fun _ _ _ _ _ _ => handedOver

/-- A client plays, and the task that is created streams to it. -/
theorem streamServed_startPlaying :
    ∃ last, run dualCoreStep (DualCore.boot 1024) startPlaying = some last ∧
      StreamServed last ∧ last.shared.isStreaming = true := by
  obtain ⟨last, ran, streaming⟩ :
      ∃ last, run dualCoreStep (DualCore.boot 1024) startPlaying = some last ∧
        last.shared.isStreaming = true := ⟨_, rfl, rfl⟩
  refine ⟨last, ran, streamServed_of_startSucceeds 1024 startPlaying last ?_ ran, streaming⟩
  have handedOver : Guarded dualCoreStep (fun system _ => system.core0.setsStreaming = true →
      system.shared.streamClient = true) (DualCore.boot 1024) startPlaying := by decide
  have environment : Guarded dualCoreStep (fun _ event =>
      (∀ env, event = .core0 env → env.expired = false ∧ env.created = true) ∧
      ∀ id env, event = .core1 id env → env.allocated = true)
      (DualCore.boot 1024) startPlaying := by
    refine guarded_of_forall_mem (fun event member system => ?_) _
    rcases List.mem_append.mp member with plays | runs
    · rw [List.eq_of_mem_replicate plays]
      exact ⟨fun env same => by cases same; exact ⟨rfl, rfl⟩, nofun⟩
    · rw [List.eq_of_mem_replicate runs]
      exact ⟨nofun, fun id env same => by cases same; rfl⟩
  exact (handedOver.and environment).imp fun _ _ guards =>
    startSucceeds_of_env guards.2.1 guards.2.2 guards.1

/-- A stop request expires while the task is closing the socket, and another
client plays while it goes on to clear the flags. -/
def playUnderLateEnd : List DualCoreEvent :=
  startPlaying ++ List.replicate 4 (.core0 ⟨.serverStop, false, true, false, none⟩) ++
    List.replicate 11 (.core1 0 ⟨true, 256, false, false, none⟩) ++
    List.replicate 8 (.core0 ⟨.serverStop, true, true, false, none⟩) ++
    [.core0 ⟨.serverStart, false, true, false, none⟩] ++ List.replicate 14 playing ++
    List.replicate 2 (.core1 0 ⟨true, 256, false, false, none⟩) ++ List.replicate 2 playing

/-- The stream is left without a client to stream to. -/
example : ∃ last, run dualCoreStep (DualCore.boot 1024) playUnderLateEnd = some last ∧
    last.core0 = .loop ∧ last.shared.isStreaming = true ∧
    last.shared.connected = true ∧ last.shared.streamClient = false :=
  ⟨_, rfl, rfl, rfl, rfl, rfl⟩

/-- A client plays, and the task that is created gets no memory. -/
def playWithoutMemory : List DualCoreEvent :=
  List.replicate 17 playing ++ List.replicate 4 (.core1 0 ⟨false, 256, false, false, none⟩)

/-- The stream is left without a task. -/
theorem stream_without_task :
    ∃ last, run dualCoreStep (DualCore.boot 1024) playWithoutMemory = some last ∧
      last.core0 = .loop ∧ ¬ StreamServed last := by
  obtain ⟨last, ran, returned, streaming, handle, ended⟩ :
      ∃ last, run dualCoreStep (DualCore.boot 1024) playWithoutMemory = some last ∧
        last.core0 = .loop ∧ last.shared.isStreaming = true ∧
        last.shared.audioCaptureTaskHandle = some 0 ∧ last.tasks 0 = none :=
    ⟨_, rfl, rfl, rfl, rfl, rfl⟩
  refine ⟨last, ran, returned, fun served => ?_⟩
  obtain ⟨id, task, denotes, live, -⟩ :=
    served.served streaming (by rw [returned]; nofun) (by rw [returned]; nofun)
  rw [handle] at denotes
  cases denotes
  rw [ended] at live
  cases live

end EchoMic
