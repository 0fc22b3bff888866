import EchoMic.GuardedRuns
import EchoMic.TaskTable

/-!
# The two cores and their shared flags

Core 0 runs the main loop, Core 1 the audio task.  Every read and write of a
shared flag, every operation on the client socket and every decision of the
scheduler, the network and the heap is one step, and the cores interleave
freely.  Core 0 may start its operations in any order.
-/

namespace EchoMic

/-- The globals both cores use, the client socket and the session flag of
`loop`.  `streamClient` tells whether the pointer is set, since it can only
point to `rtspClient`. -/
structure Shared where
  isStreaming : Bool
  streamClient : Bool
  stopStreamRequested : Bool
  streamCleanupDone : Bool
  audioTaskRunning : Bool
  core1OwnsLED : Bool
  audioCaptureTaskHandle : Option Nat
  taskExitSemaphore : Bool
  rtspServerEnabled : Bool
  wasStreaming : Bool
  currentBufferSize : Nat
  rtspClient : Option Nat
  peerClosed : Bool
  connections : Nat
  tasksCreated : Nat
  deriving DecidableEq

/-- `rtspClient && rtspClient.connected()`. -/
def Shared.connected (shared : Shared) : Bool :=
  shared.rtspClient.isSome && !shared.peerClosed

/-! ## Core 1 -/

inductive TaskPc where
  | start
  | mallocCapture
  | mallocOutput
  | mallocFailed
  | loopTest
  | stopTest
  | stopLoadClient
  | stopClose
  | stopClearClient
  | stopClearStreaming
  | stopClearLed
  | stopSetDone
  | stopWaitRequested
  | stopWaitRunning
  | streamTest
  | clientTest
  | clientLoad
  | i2sRead
  | process (samplesRead : Nat)
  | drawLed
  | sendTest
  | sendWrite
  | dropClose
  | dropClearClient
  | dropClearStreaming
  | dropClearLed
  | pollTest
  | pollRead
  | answerKeepAlive
  | answerTeardown
  | teardownClose
  | teardownClearClient
  | teardownClearStreaming
  | teardownClearLed
  | iterationEnd
  | exitClearLed
  | exitClearRunning
  | exitGive
  deriving DecidableEq

/-- A live audio task: where it is, the sizes of its buffers, and whether its
local `client` is set. -/
structure AudioTask where
  pc : TaskPc
  captureBuffer : Option Nat
  outputBuffer : Option Nat
  client : Bool
  deriving DecidableEq

def AudioTask.created : AudioTask where
  pc := .start
  captureBuffer := none
  outputBuffer := none
  client := false

def AudioTask.goto (task : AudioTask) (pc : TaskPc) : AudioTask :=
  { task with pc := pc }

/-- Leave the block that declares the local `client`. -/
def AudioTask.continue (task : AudioTask) : AudioTask :=
  { task with
    pc := .loopTest
    client := false }

inductive StreamCommand where
  | getParameter
  | teardown
  deriving DecidableEq

/-- What the environment answers to a step of the task: whether `malloc`
succeeds, the samples `i2s_read` delivers, whether the send is the last
tolerated failure, and the command a poll finds. -/
structure TaskEnv where
  allocated : Bool
  samples : Nat
  gaveUp : Bool
  polls : Bool
  command : Option StreamCommand
  deriving DecidableEq

/-- One step of the audio task; `none` is the task after `vTaskDelete`. -/
def taskStep (env : TaskEnv) (shared : Shared) (task : AudioTask) :
    Shared × Option AudioTask :=
  match task.pc with
  | .start => ({ shared with audioTaskRunning := true }, task.goto .mallocCapture)
  | .mallocCapture =>
      (shared, some
        { task with
          pc := .mallocOutput
          captureBuffer := if env.allocated then some shared.currentBufferSize else none })
  | .mallocOutput =>
      (shared, some
        { task with
          pc := if task.captureBuffer.isSome && env.allocated then .loopTest
            else .mallocFailed
          outputBuffer := if env.allocated then some shared.currentBufferSize else none })
  | .mallocFailed => ({ shared with audioTaskRunning := false }, none)
  | .loopTest =>
      (shared, task.goto (if shared.audioTaskRunning then .stopTest else .exitClearLed))
  | .stopTest =>
      (shared, task.goto
        (if shared.stopStreamRequested then .stopLoadClient else .streamTest))
  | .stopLoadClient =>
      (shared, some
        { task with
          pc := if shared.streamClient then .stopClose else .stopClearClient
          client := shared.streamClient })
  | .stopClose => ({ shared with rtspClient := none }, task.goto .stopClearClient)
  | .stopClearClient =>
      ({ shared with streamClient := false }, task.goto .stopClearStreaming)
  | .stopClearStreaming =>
      ({ shared with isStreaming := false }, task.goto .stopClearLed)
  | .stopClearLed => ({ shared with core1OwnsLED := false }, task.goto .stopSetDone)
  | .stopSetDone =>
      ({ shared with streamCleanupDone := true }, task.goto .stopWaitRequested)
  | .stopWaitRequested =>
      (shared,
        if shared.stopStreamRequested then task.goto .stopWaitRunning else task.continue)
  | .stopWaitRunning =>
      (shared,
        if shared.audioTaskRunning then task.goto .stopWaitRequested else task.continue)
  | .streamTest =>
      (shared, if shared.isStreaming then task.goto .clientTest else task.continue)
  | .clientTest =>
      (shared, if shared.streamClient then task.goto .clientLoad else task.continue)
  | .clientLoad =>
      (shared, some
        { task with
          pc := .i2sRead
          client := shared.streamClient })
  | .i2sRead =>
      -- At most the requested number of samples arrives, and none on an error.
      let samplesRead := min env.samples shared.currentBufferSize
      (shared, if samplesRead = 0 then task.continue else task.goto (.process samplesRead))
  | .process _ => (shared, task.goto .drawLed)
  | .drawLed => (shared, task.goto .sendTest)
  | .sendTest =>
      (shared, task.goto (if shared.connected then .sendWrite else .dropClose))
  | .sendWrite => (shared, task.goto (if env.gaveUp then .dropClose else .pollTest))
  | .dropClose => ({ shared with rtspClient := none }, task.goto .dropClearClient)
  | .dropClearClient =>
      ({ shared with streamClient := false }, task.goto .dropClearStreaming)
  | .dropClearStreaming =>
      ({ shared with isStreaming := false }, task.goto .dropClearLed)
  | .dropClearLed => ({ shared with core1OwnsLED := false }, task.goto .pollTest)
  | .pollTest =>
      (shared, task.goto
        (if task.client && shared.isStreaming && env.polls then .pollRead
          else .iterationEnd))
  | .pollRead =>
      (shared, task.goto
        (match env.command with
          | none => .iterationEnd
          | some .getParameter => .answerKeepAlive
          | some .teardown => .answerTeardown))
  | .answerKeepAlive => (shared, task.goto .iterationEnd)
  | .answerTeardown => (shared, task.goto .teardownClose)
  | .teardownClose => ({ shared with rtspClient := none }, task.goto .teardownClearClient)
  | .teardownClearClient =>
      ({ shared with streamClient := false }, task.goto .teardownClearStreaming)
  | .teardownClearStreaming =>
      ({ shared with isStreaming := false }, task.goto .teardownClearLed)
  | .teardownClearLed =>
      ({ shared with core1OwnsLED := false }, task.goto .iterationEnd)
  | .iterationEnd => (shared, task.continue)
  | .exitClearLed => ({ shared with core1OwnsLED := false }, task.goto .exitClearRunning)
  | .exitClearRunning =>
      ({ shared with audioTaskRunning := false }, task.goto .exitGive)
  | .exitGive => ({ shared with taskExitSemaphore := true }, none)

theorem taskStep_handle (env : TaskEnv) (shared : Shared) (task : AudioTask) :
    (taskStep env shared task).1.audioCaptureTaskHandle =
      shared.audioCaptureTaskHandle := by
  cases pc : task.pc <;> simp only [taskStep, pc]

/-- The task never starts a stream. -/
theorem taskStep_isStreaming (env : TaskEnv) (shared : Shared) (task : AudioTask)
    (cleared : shared.isStreaming = false) :
    (taskStep env shared task).1.isStreaming = false := by
  cases pc : task.pc <;> simp only [taskStep, pc, cleared]

/-! ## Core 0 -/

/-- Who calls `requestStreamStop` and `stopAudioCaptureTask`. -/
inductive StopCaller where
  | teardown
  | serverStop
  | wifiLoss
  | overheat
  | serverDisabled
  | restartI2S (wasStreaming : Bool)
  deriving DecidableEq

inductive Core0Pc where
  | loop
  | requestTestStreaming (caller : StopCaller)
  | requestTestClient (caller : StopCaller)
  | requestSetRequested (caller : StopCaller)
  | requestPoll (caller : StopCaller)
  | requestDecide (caller : StopCaller)
  | requestClearStreaming (caller : StopCaller) (confirmed : Bool)
  | requestClearClient (caller : StopCaller) (confirmed : Bool)
  | requestClearRequested (caller : StopCaller) (confirmed : Bool)
  | requestClearDone (caller : StopCaller) (confirmed : Bool)
  | requestClearLed (caller : StopCaller)
  | stopTestHandle (caller : StopCaller)
  | stopClearRunning (caller : StopCaller)
  | stopTake (caller : StopCaller)
  | stopForget (caller : StopCaller)
  | startTestHandle
  | startCreate
  | restartReadStreaming
  | restartTestStreaming (wasStreaming : Bool)
  | restartTestClient
  | restartSetClient
  | restartSetStreaming
  | wifiTestStreaming
  | overheatTestStreaming
  | serverStopTestStreaming
  | disableServer
  | idleTestStreaming
  | idleStop
  | sessionTestStreaming
  | sessionTestLed
  | sessionDrawLed
  | sessionStore
  | acceptTestStreaming
  | acceptTestClient
  | acceptAvailable
  | acceptAssign
  | negotiateTestClient
  | negotiateRead
  | negotiateReply
  | playReply
  | playClearRequested
  | playClearDone
  | playOwnLed
  | playSetClient
  | playSetStreaming
  | teardownTestStreaming
  | teardownReply
  | teardownTestLed
  | teardownDrawLed
  | disabledTestStreaming
  | disabledTestLed
  | disabledDrawLed
  deriving DecidableEq

/-- Where the caller of `requestStreamStop` goes on. -/
def StopCaller.afterRequest : StopCaller → Core0Pc
  | .teardown => .teardownReply
  | .serverStop => .disableServer
  | caller => .stopTestHandle caller

/-- Where the caller of `stopAudioCaptureTask` goes on. -/
def StopCaller.afterStop : StopCaller → Core0Pc
  | .overheat => .disableServer
  | .serverDisabled => .disabledTestLed
  | .restartI2S true => .restartTestClient
  | _ => .loop

theorem afterStop_cases (caller : StopCaller) :
    caller.afterStop = .disableServer ∨ caller.afterStop = .disabledTestLed ∨
      caller.afterStop = .restartTestClient ∨ caller.afterStop = .loop := by
  unfold StopCaller.afterStop
  split <;> simp

/-- What `loop` does next: a request of the web interface, a check that is
due, or the RTSP phases. -/
inductive LoopOperation where
  | restartI2S
  | setBuffer (v : Nat)
  | serverStart
  | serverStop
  | overheat
  | wifiLoss
  | idleCheck
  | rtspPhases
  deriving DecidableEq

inductive NegotiationRequest where
  | play
  | teardown
  | other
  deriving DecidableEq

/-- What the environment answers to a step of Core 0: the operation it starts,
whether its wait expires, whether the task is created, whether a client
arrives and what it requests. -/
structure Core0Env where
  operation : LoopOperation
  expired : Bool
  created : Bool
  arrives : Bool
  request : Option NegotiationRequest
  deriving DecidableEq

/-- One step of Core 0, apart from the task that `startCreate` creates. -/
def core0Step (env : Core0Env) (shared : Shared) : Core0Pc → Shared × Core0Pc
  | .loop =>
      match env.operation with
      | .restartI2S => (shared, .restartReadStreaming)
      | .setBuffer v => ({ shared with currentBufferSize := v }, .restartReadStreaming)
      | .serverStart => ({ shared with rtspServerEnabled := true }, .loop)
      | .serverStop => (shared, .serverStopTestStreaming)
      | .overheat => (shared, .overheatTestStreaming)
      | .wifiLoss => (shared, .wifiTestStreaming)
      | .idleCheck => (shared, if shared.connected then .idleTestStreaming else .loop)
      | .rtspPhases =>
          (shared,
            if shared.rtspServerEnabled then .sessionTestStreaming
            else .disabledTestStreaming)
  -- requestStreamStop
  | .requestTestStreaming caller =>
      (shared,
        if shared.isStreaming then .requestSetRequested caller
        else .requestTestClient caller)
  | .requestTestClient caller =>
      (shared,
        if shared.streamClient then .requestSetRequested caller
        else caller.afterRequest)
  | .requestSetRequested caller =>
      ({ shared with stopStreamRequested := true }, .requestPoll caller)
  | .requestPoll caller =>
      (shared,
        if shared.streamCleanupDone || env.expired then .requestDecide caller
        else .requestPoll caller)
  | .requestDecide caller =>
      (shared, .requestClearStreaming caller shared.streamCleanupDone)
  | .requestClearStreaming caller confirmed =>
      ({ shared with isStreaming := false }, .requestClearClient caller confirmed)
  | .requestClearClient caller confirmed =>
      ({ shared with streamClient := false }, .requestClearRequested caller confirmed)
  | .requestClearRequested caller confirmed =>
      ({ shared with stopStreamRequested := false }, .requestClearDone caller confirmed)
  | .requestClearDone caller confirmed =>
      ({ shared with streamCleanupDone := false },
        if confirmed then caller.afterRequest else .requestClearLed caller)
  | .requestClearLed caller =>
      ({ shared with core1OwnsLED := false }, caller.afterRequest)
  -- stopAudioCaptureTask
  | .stopTestHandle caller =>
      (shared,
        if shared.audioCaptureTaskHandle.isSome then .stopClearRunning caller
        else caller.afterStop)
  | .stopClearRunning caller =>
      ({ shared with audioTaskRunning := false }, .stopTake caller)
  | .stopTake caller =>
      if shared.taskExitSemaphore then
        ({ shared with taskExitSemaphore := false }, .stopForget caller)
      else (shared, if env.expired then .stopForget caller else .stopTake caller)
  | .stopForget caller =>
      ({ shared with audioCaptureTaskHandle := none }, caller.afterStop)
  -- startAudioCaptureTask
  | .startTestHandle =>
      (shared, if shared.audioCaptureTaskHandle.isSome then .loop else .startCreate)
  | .startCreate =>
      (if env.created then
        { shared with
          audioCaptureTaskHandle := some shared.tasksCreated
          tasksCreated := shared.tasksCreated + 1 }
      else shared, .loop)
  -- restartI2S
  | .restartReadStreaming => (shared, .restartTestStreaming shared.isStreaming)
  | .restartTestStreaming wasStreaming =>
      (shared,
        if shared.isStreaming then .requestTestStreaming (.restartI2S wasStreaming)
        else .stopTestHandle (.restartI2S wasStreaming))
  | .restartTestClient => (shared, if shared.connected then .restartSetClient else .loop)
  | .restartSetClient => ({ shared with streamClient := true }, .restartSetStreaming)
  | .restartSetStreaming => ({ shared with isStreaming := true }, .startTestHandle)
  -- The other operations of the loop
  | .wifiTestStreaming =>
      (shared, if shared.isStreaming then .requestTestStreaming .wifiLoss else .loop)
  | .overheatTestStreaming =>
      (shared,
        if shared.isStreaming then .requestTestStreaming .overheat
        else .stopTestHandle .overheat)
  | .serverStopTestStreaming =>
      (shared,
        if shared.isStreaming then .requestTestStreaming .serverStop else .disableServer)
  | .disableServer => ({ shared with rtspServerEnabled := false }, .loop)
  | .idleTestStreaming => (shared, if shared.isStreaming then .loop else .idleStop)
  | .idleStop => ({ shared with rtspClient := none }, .loop)
  -- The RTSP phases of the loop
  | .sessionTestStreaming =>
      (shared,
        if shared.wasStreaming && !shared.isStreaming then .sessionTestLed
        else .sessionStore)
  | .sessionTestLed =>
      (shared, if shared.core1OwnsLED then .sessionStore else .sessionDrawLed)
  | .sessionDrawLed => (shared, .sessionStore)
  | .sessionStore =>
      ({ shared with wasStreaming := shared.isStreaming }, .acceptTestStreaming)
  | .acceptTestStreaming =>
      (shared, if shared.isStreaming then .loop else .acceptTestClient)
  | .acceptTestClient =>
      (shared, if shared.connected then .negotiateTestClient else .acceptAvailable)
  | .acceptAvailable =>
      (shared, if env.arrives then .acceptAssign else .negotiateTestClient)
  | .acceptAssign =>
      ({ shared with
          rtspClient := some shared.connections
          peerClosed := false
          connections := shared.connections + 1 }, .negotiateTestClient)
  | .negotiateTestClient => (shared, if shared.connected then .negotiateRead else .loop)
  | .negotiateRead =>
      (shared,
        match env.request with
        | none => .loop
        | some .play => .playReply
        | some .teardown => .teardownTestStreaming
        | some .other => .negotiateReply)
  | .negotiateReply => (shared, .loop)
  | .playReply => (shared, .playClearRequested)
  | .playClearRequested =>
      ({ shared with stopStreamRequested := false }, .playClearDone)
  | .playClearDone => ({ shared with streamCleanupDone := false }, .playOwnLed)
  | .playOwnLed => ({ shared with core1OwnsLED := true }, .playSetClient)
  | .playSetClient => ({ shared with streamClient := true }, .playSetStreaming)
  | .playSetStreaming => ({ shared with isStreaming := true }, .startTestHandle)
  | .teardownTestStreaming =>
      (shared,
        if shared.isStreaming then .requestTestStreaming .teardown else .teardownReply)
  | .teardownReply => (shared, .teardownTestLed)
  | .teardownTestLed =>
      (shared, if shared.core1OwnsLED then .loop else .teardownDrawLed)
  | .teardownDrawLed => (shared, .loop)
  | .disabledTestStreaming =>
      (shared,
        if shared.isStreaming then .requestTestStreaming .serverDisabled
        else .disabledTestLed)
  | .disabledTestLed =>
      (shared, if shared.core1OwnsLED then .loop else .disabledDrawLed)
  | .disabledDrawLed => (shared, .loop)

theorem core0Step_handle_create (env : Core0Env) (shared : Shared)
    (creates : env.created = true) :
    (core0Step env shared .startCreate).1.audioCaptureTaskHandle =
      some shared.tasksCreated := by
  simp [core0Step, creates]

/-! ## Both cores -/

structure DualCore where
  shared : Shared
  core0 : Core0Pc
  tasks : Nat → Option AudioTask

/-- After `setup`, with the configured buffer size and no task. -/
def DualCore.boot (currentBufferSize : Nat) : DualCore where
  shared :=
    { isStreaming := false
      streamClient := false
      stopStreamRequested := false
      streamCleanupDone := false
      audioTaskRunning := false
      core1OwnsLED := false
      audioCaptureTaskHandle := none
      taskExitSemaphore := false
      rtspServerEnabled := true
      wasStreaming := false
      currentBufferSize := currentBufferSize
      rtspClient := none
      peerClosed := false
      connections := 0
      tasksCreated := 0 }
  core0 := .loop
  tasks := fun _ => none

inductive DualCoreEvent where
  | core0 (env : Core0Env)
  | core1 (id : Nat) (env : TaskEnv)
  | peerCloses
  deriving DecidableEq

/-- The tasks after a step of Core 0. -/
def DualCore.tasksAfter (system : DualCore) (env : Core0Env) : Nat → Option AudioTask :=
  if system.core0 = .startCreate ∧ env.created = true then
    Function.update system.tasks system.shared.tasksCreated (some AudioTask.created)
  else system.tasks

def dualCoreStep (system : DualCore) : DualCoreEvent → Option DualCore
  | .core0 env =>
      let next := core0Step env system.shared system.core0
      some
        { shared := next.1
          core0 := next.2
          tasks := system.tasksAfter env }
  | .core1 id env =>
      match system.tasks id with
      | none => none
      | some task =>
          let next := taskStep env system.shared task
          some
            { system with
              shared := next.1
              tasks := Function.update system.tasks id next.2 }
  | .peerCloses => some { system with shared := { system.shared with peerClosed := true } }

/-- A live task after a step of Core 0 was there before, or has just been
created. -/
theorem DualCore.tasksAfter_cases {system : DualCore} {env : Core0Env} {id : Nat}
    {task : AudioTask} (live : system.tasksAfter env id = some task) :
    system.tasks id = some task ∨
      system.core0 = .startCreate ∧ id = system.shared.tasksCreated ∧
        task = AudioTask.created := by
  rw [DualCore.tasksAfter] at live
  split at live
  case isTrue creates =>
    rcases TaskTable.update_cases live with ⟨fresh, isNew⟩ | ⟨-, before⟩
    · exact Or.inr ⟨creates.1, fresh, (Option.some.inj isNew).symm⟩
    · exact Or.inl before
  case isFalse => exact Or.inl live

/-- Core 1 steps a task that is alive. -/
theorem dualCoreStep_core1 {system next : DualCore} {id : Nat} {env : TaskEnv}
    (stepped : dualCoreStep system (.core1 id env) = some next) :
    ∃ task, system.tasks id = some task ∧
      next =
        { system with
          shared := (taskStep env system.shared task).1
          tasks := Function.update system.tasks id (taskStep env system.shared task).2 } := by
  simp only [dualCoreStep] at stepped
  cases live : system.tasks id with
  | none =>
      rw [live] at stepped
      cases stepped
  | some task =>
      rw [live] at stepped
      cases stepped
      exact ⟨task, rfl, rfl⟩

/-- A step of Core 0 in which no wait expires and a client plays. -/
def playing : DualCoreEvent :=
  .core0 ⟨.rtspPhases, false, true, true, some .play⟩

/-- Core 0 accepts a client that plays, and Core 1 starts to read. -/
def startPlaying : List DualCoreEvent :=
  List.replicate 17 playing ++ List.replicate 8 (.core1 0 ⟨true, 256, false, false, none⟩)

end EchoMic
