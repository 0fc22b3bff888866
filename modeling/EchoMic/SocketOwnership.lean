import EchoMic.AudioTaskLifecycle

/-!
# Exclusive ownership of the client socket

Core 1 owns the socket while it streams, and Core 0 takes it back when it
finds `isStreaming` cleared.  The handoff is safe in every run in which no
wait for Core 1 expires while its task is alive, and Core 0 does not act on a
cleared flag before Core 1 has left the pass in which it cleared it.
-/

namespace EchoMic

open GuardedRuns TaskTable

/-! ## Phases of the two cores -/

/-- The part of its loop a task is in. -/
inductive TaskPhase where
  | idle
  | active
  | stopping
  | waiting
  | windingUp
  deriving DecidableEq

/-- A task is active until it clears `isStreaming` and winds up its pass
after that; in the stop branch it is stopping until it has confirmed. -/
def TaskPc.phase : TaskPc → TaskPhase
  | .start | .mallocCapture | .mallocOutput | .mallocFailed => .idle
  | .loopTest | .stopTest | .streamTest => .idle
  | .exitClearLed | .exitClearRunning | .exitGive => .idle
  | .stopLoadClient | .stopClose | .stopClearClient => .stopping
  | .stopClearStreaming | .stopClearLed | .stopSetDone => .stopping
  | .stopWaitRequested | .stopWaitRunning => .waiting
  | .clientTest | .clientLoad | .i2sRead | .process _ | .drawLed => .active
  | .sendTest | .sendWrite => .active
  | .dropClose | .dropClearClient | .dropClearStreaming => .active
  | .pollRead | .answerKeepAlive | .answerTeardown => .active
  | .teardownClose | .teardownClearClient | .teardownClearStreaming => .active
  | .dropClearLed | .pollTest | .teardownClearLed | .iterationEnd => .windingUp

/-- The steps that clear `streamClient`. -/
def TaskPc.clearsClient : TaskPc → Bool
  | .stopClearClient | .dropClearClient | .teardownClearClient => true
  | _ => false

/-- The steps that clear `isStreaming`. -/
def TaskPc.clearsStreaming : TaskPc → Bool
  | .stopClearStreaming | .dropClearStreaming | .teardownClearStreaming => true
  | _ => false

/-- What Core 0 is doing about the stream. -/
inductive Core0Phase where
  | owning
  | polling
  | answered
  | clearing
  | other
  deriving DecidableEq

/-- Core 0 owns the socket from the moment it finds the stream gone until it
sets `isStreaming`; in `requestStreamStop` it polls, and is answered until it
clears the request. -/
def Core0Pc.phase : Core0Pc → Core0Phase
  | .idleStop => .owning
  | .acceptTestClient | .acceptAvailable | .acceptAssign => .owning
  | .negotiateTestClient | .negotiateRead | .negotiateReply => .owning
  | .playReply | .playClearRequested | .playClearDone | .playOwnLed => .owning
  | .playSetClient | .playSetStreaming => .owning
  | .teardownTestStreaming | .teardownReply => .owning
  | .restartTestClient | .restartSetClient | .restartSetStreaming => .owning
  | .requestPoll _ => .polling
  | .requestDecide _ => .answered
  | .requestClearStreaming _ _ | .requestClearClient _ _ => .answered
  | .requestClearRequested _ _ => .answered
  | .requestClearDone _ _ => .clearing
  | .loop | .requestTestStreaming _ | .requestTestClient _ => .other
  | .requestSetRequested _ | .requestClearLed _ => .other
  | .stopTestHandle _ | .stopClearRunning _ | .stopTake _ | .stopForget _ => .other
  | .startTestHandle | .startCreate => .other
  | .restartReadStreaming | .restartTestStreaming _ => .other
  | .wifiTestStreaming | .overheatTestStreaming | .serverStopTestStreaming => .other
  | .disableServer | .idleTestStreaming => .other
  | .sessionTestStreaming | .sessionTestLed | .sessionDrawLed | .sessionStore => .other
  | .acceptTestStreaming | .teardownTestLed | .teardownDrawLed => .other
  | .disabledTestStreaming | .disabledTestLed | .disabledDrawLed => .other

/-- Core 0 stops the stream or the task and has found or left `isStreaming`
cleared. -/
def Core0Pc.isClosing : Core0Pc → Bool
  | .requestTestClient _ | .requestClearClient _ _ => true
  | .requestClearRequested _ _ | .requestClearDone _ _ | .requestClearLed _ => true
  | .stopTestHandle _ | .stopClearRunning _ | .stopTake _ | .stopForget _ => true
  | _ => false

/-- On whose behalf Core 0 is in `requestStreamStop`. -/
def Core0Pc.requestCaller : Core0Pc → Option StopCaller
  | .requestTestStreaming caller | .requestTestClient caller => some caller
  | .requestSetRequested caller | .requestPoll caller => some caller
  | .requestDecide caller | .requestClearStreaming caller _ => some caller
  | .requestClearClient caller _ | .requestClearRequested caller _ => some caller
  | .requestClearDone caller _ | .requestClearLed caller => some caller
  | _ => none

/-- The next step of Core 0 reads from, writes to, stops, reassigns or tests
`rtspClient`.  The status tests of the idle check are not counted. -/
def Core0Pc.touchesClient : Core0Pc → Bool
  | .idleStop => true
  | .acceptTestClient | .acceptAssign => true
  | .negotiateTestClient | .negotiateRead | .negotiateReply => true
  | .playReply | .teardownReply => true
  | .restartTestClient => true
  | _ => false

/-- Core 0 does not touch the socket while a task holds a pointer to it. -/
def SocketExclusive (system : DualCore) : Prop :=
  system.core0.touchesClient = true →
    ∀ id task, system.tasks id = some task → task.client = false

/-- No wait for Core 1 expires while a task is alive, and when Core 0 finds
`isStreaming` cleared before it uses the socket, no task is still in the pass
of its loop in which the flag was cleared. -/
structure CoresCooperate (system : DualCore) (event : DualCoreEvent) : Prop where
  exits : TaskExitsInTime system event
  answers : ∀ env, event = .core0 env → system.core0.phase = .polling →
    system.shared.streamCleanupDone = false → env.expired = true → system.NoTask
  finishes : ∀ env, event = .core0 env →
    system.core0 = .acceptTestStreaming ∨ system.core0 = .idleTestStreaming →
      system.shared.isStreaming = false → ∀ id task, system.tasks id = some task →
        task.pc.phase ≠ .windingUp ∧ task.pc.phase ≠ .waiting

/-! ## The invariant -/

/-- How the phase of a task fits the flags and the phase of Core 0. -/
structure TaskOwned (shared : Shared) (core0 : Core0Pc) (task : AudioTask) : Prop where
  active : task.pc.phase = .active → shared.isStreaming = true
  stopping : task.pc.phase = .stopping →
    core0.phase = .polling ∧ shared.streamCleanupDone = false
  answered : core0.phase = .answered ∨
      core0.phase = .polling ∧ shared.streamCleanupDone = true →
    task.pc.phase = .waiting
  owning : core0.phase = .owning → task.pc.phase = .idle
  idle : task.pc.phase = .idle → task.client = false

/-- How the flags fit the phase of Core 0. -/
structure FlagsOwned (shared : Shared) (core0 : Core0Pc) : Prop where
  requested : shared.stopStreamRequested = true ↔
    core0.phase = .polling ∨ core0.phase = .answered
  done : shared.streamCleanupDone = true →
    core0.phase = .polling ∨ core0.phase = .answered ∨ core0.phase = .clearing
  closing : core0.isClosing = true → shared.isStreaming = false
  owning : core0.phase = .owning → shared.isStreaming = false
  teardown : core0.requestCaller ≠ some .teardown

structure SocketOwned (system : DualCore) : Prop where
  lifecycle : TaskLifecycle system
  flags : FlagsOwned system.shared system.core0
  tasks : ∀ id task, system.tasks id = some task →
    TaskOwned system.shared system.core0 task

/-- How a task answers the requests of Core 0: the part of `TaskOwned` that
does not depend on when Core 0 uses the socket. -/
structure TaskAnswers (shared : Shared) (core0 : Core0Pc) (task : AudioTask) : Prop where
  active : task.pc.phase = .active → shared.isStreaming = true
  stopping : task.pc.phase = .stopping →
    core0.phase = .polling ∧ shared.streamCleanupDone = false
  answered : core0.phase = .answered ∨
      core0.phase = .polling ∧ shared.streamCleanupDone = true →
    task.pc.phase = .waiting

structure StreamAnswered (system : DualCore) : Prop where
  lifecycle : TaskLifecycle system
  flags : FlagsOwned system.shared system.core0
  tasks : ∀ id task, system.tasks id = some task →
    TaskAnswers system.shared system.core0 task

/-- The three-second wait for a confirmation does not expire while a task is
alive. -/
def RequestAnswered (system : DualCore) (event : DualCoreEvent) : Prop :=
  ∀ env, event = .core0 env → system.core0.phase = .polling →
    system.shared.streamCleanupDone = false → env.expired = true → system.NoTask

theorem TaskOwned.answers {shared : Shared} {core0 : Core0Pc} {task : AudioTask}
    (owned : TaskOwned shared core0 task) : TaskAnswers shared core0 task :=
  ⟨owned.active, owned.stopping, owned.answered⟩

theorem SocketOwned.streamAnswered {system : DualCore} (owned : SocketOwned system) :
    StreamAnswered system :=
  ⟨owned.lifecycle, owned.flags, fun id task live => (owned.tasks id task live).answers⟩

theorem streamAnswered_boot (currentBufferSize : Nat) :
    StreamAnswered (DualCore.boot currentBufferSize) where
  lifecycle := taskLifecycle_boot currentBufferSize
  flags := by
    constructor <;> simp [DualCore.boot, Core0Pc.phase, Core0Pc.isClosing,
      Core0Pc.requestCaller]
  tasks := fun _ _ impossible => nomatch impossible

theorem socketOwned_boot (currentBufferSize : Nat) :
    SocketOwned (DualCore.boot currentBufferSize) where
  lifecycle := taskLifecycle_boot currentBufferSize
  flags := (streamAnswered_boot currentBufferSize).flags
  tasks := fun _ _ impossible => nomatch impossible

theorem phase_of_touchesClient {pc : Core0Pc} (touches : pc.touchesClient = true) :
    pc.phase = .owning := by
  cases pc <;> first | rfl | cases touches

theorem SocketOwned.exclusive {system : DualCore} (owned : SocketOwned system) :
    SocketExclusive system := by
  intro touches id task live
  have fits := owned.tasks id task live
  exact fits.idle (fits.owning (phase_of_touchesClient touches))

/-! ## Steps of Core 0 -/

section Core0

variable {shared : Shared} {pc : Core0Pc} (env : Core0Env)

@[simp]
theorem requestCaller_afterRequest (caller : StopCaller) :
    caller.afterRequest.requestCaller = none := by
  cases caller <;> rfl

@[simp]
theorem requestCaller_afterStop (caller : StopCaller) :
    caller.afterStop.requestCaller = none := by
  rcases afterStop_cases caller with after | after | after | after <;> rw [after] <;> rfl

theorem teardown_of_afterRequest {caller : StopCaller}
    (owns : caller.afterRequest.phase = .owning) : caller = .teardown := by
  cases caller <;> first | rfl | cases owns

/-- Core 0 is not in the part of `requestStreamStop` that asks Core 1. -/
def Core0Phase.IsQuiet (phase : Core0Phase) : Prop :=
  phase = .owning ∨ phase = .other

theorem Core0Phase.IsQuiet.not_asking {phase : Core0Phase} (quiet : phase.IsQuiet) :
    ¬ (phase = .polling ∨ phase = .answered) := by
  rcases quiet with rfl | rfl <;> simp

theorem isQuiet_afterRequest (caller : StopCaller) : caller.afterRequest.phase.IsQuiet := by
  cases caller <;> first | exact .inl rfl | exact .inr rfl

theorem isQuiet_afterStop (caller : StopCaller) : caller.afterStop.phase.IsQuiet := by
  rcases afterStop_cases caller with after | after | after | after <;> rw [after] <;>
    first | exact .inl rfl | exact .inr rfl

/-- What a step of Core 0 does to the three flags of the stream, and in which
phases. -/
inductive StreamMove (env : Core0Env) (shared : Shared) :
    Shared → Core0Phase → Core0Phase → Prop where
  | asks : StreamMove env shared { shared with stopStreamRequested := true } .other .polling
  | polls (notDone : shared.streamCleanupDone = false) :
      StreamMove env shared shared .polling .polling
  | hears (ended : shared.streamCleanupDone = true ∨ env.expired = true) :
      StreamMove env shared shared .polling .answered
  | ends {after : Shared}
      (requested : after.stopStreamRequested = shared.stopStreamRequested)
      (done : after.streamCleanupDone = shared.streamCleanupDone) :
      StreamMove env shared after .answered .answered
  | withdraws :
      StreamMove env shared { shared with stopStreamRequested := false } .answered .clearing
  | returns {next : Core0Phase} (quiet : next.IsQuiet) :
      StreamMove env shared { shared with streamCleanupDone := false } .clearing next
  | elsewhere {after : Shared} {phase next : Core0Phase} (quiet : phase.IsQuiet)
      (nextQuiet : next.IsQuiet)
      (requested : after.stopStreamRequested = true → shared.stopStreamRequested = true)
      (done : after.streamCleanupDone = true → shared.streamCleanupDone = true)
      (cleared : after.isStreaming = false → shared.isStreaming = false) :
      StreamMove env shared after phase next

theorem core0Step_streamMove (shared : Shared) (pc : Core0Pc) :
    StreamMove env shared (core0Step env shared pc).1 pc.phase
      (core0Step env shared pc).2.phase := by
  cases pc with
  | requestSetRequested caller => exact .asks
  | requestPoll caller =>
      simp only [core0Step]
      split
      · rename_i ended
        exact .hears (by simpa using ended)
      · rename_i waits
        exact .polls (by simp_all)
  | requestDecide caller => exact .ends rfl rfl
  | requestClearStreaming caller confirmed => exact .ends rfl rfl
  | requestClearClient caller confirmed => exact .ends rfl rfl
  | requestClearRequested caller confirmed => exact .withdraws
  | requestClearDone caller confirmed =>
      refine .returns ?_
      cases confirmed
      · exact .inr rfl
      · exact isQuiet_afterRequest caller
  | _ =>
      simp only [core0Step]
      (repeat' split) <;> refine .elsewhere ?_ ?_ ?_ ?_ ?_ <;> first
        | exact .inl rfl
        | exact .inr rfl
        | exact isQuiet_afterRequest _
        | exact isQuiet_afterStop _
        | exact id
        | (intro impossible; cases impossible)

/-- Core 0 clears `isStreaming` only after it has been answered. -/
theorem core0Step_isStreaming
    (cleared : (core0Step env shared pc).1.isStreaming = false) :
    shared.isStreaming = false ∨ pc.phase = .answered := by
  have move := core0Step_streamMove env shared pc
  generalize (core0Step env shared pc).1 = after at move cleared
  generalize (core0Step env shared pc).2.phase = next at move
  generalize pc.phase = phase at move ⊢
  cases move with
  | asks | polls | hears | withdraws | returns => exact .inl cleared
  | ends => exact .inr rfl
  | elsewhere _ _ _ _ before => exact .inl (before cleared)

theorem core0Step_setsStreaming (streaming : (core0Step env shared pc).1.isStreaming = true) :
    shared.isStreaming = true ∨ pc = .playSetStreaming ∨ pc = .restartSetStreaming := by
  cases pc <;> simp only [core0Step] at streaming ⊢ <;> (repeat' split at streaming) <;>
    simp_all

/-- While Core 0 polls, it changes nothing. -/
theorem core0Step_polling (polls : pc.phase = .polling) :
    (core0Step env shared pc).1 = shared ∧
      ((core0Step env shared pc).2.phase = .polling ∧ shared.streamCleanupDone = false ∨
        (core0Step env shared pc).2.phase = .answered ∧
          (shared.streamCleanupDone = true ∨ env.expired = true)) := by
  have move := core0Step_streamMove env shared pc
  rw [polls] at move
  generalize (core0Step env shared pc).1 = after at move ⊢
  generalize (core0Step env shared pc).2.phase = next at move ⊢
  cases move with
  | polls notDone => exact ⟨rfl, .inl ⟨rfl, notDone⟩⟩
  | hears ended => exact ⟨rfl, .inr ⟨rfl, ended⟩⟩
  | elsewhere quiet => exact absurd (.inl rfl) quiet.not_asking

theorem core0Step_answered (answered : (core0Step env shared pc).2.phase = .answered) :
    pc.phase = .polling ∨ pc.phase = .answered := by
  have move := core0Step_streamMove env shared pc
  rw [answered] at move
  generalize (core0Step env shared pc).1 = after at move
  generalize pc.phase = phase at move ⊢
  cases move with
  | hears => exact .inl rfl
  | ends => exact .inr rfl
  | returns quiet => exact absurd (.inr rfl) quiet.not_asking
  | elsewhere _ quiet => exact absurd (.inr rfl) quiet.not_asking

theorem core0Step_done (done : (core0Step env shared pc).1.streamCleanupDone = true) :
    shared.streamCleanupDone = true := by
  have move := core0Step_streamMove env shared pc
  generalize (core0Step env shared pc).1 = after at move done
  generalize (core0Step env shared pc).2.phase = next at move
  generalize pc.phase = phase at move
  cases move with
  | asks | polls | hears | withdraws => exact done
  | ends _ same => exact same ▸ done
  | returns => cases done
  | elsewhere _ _ _ before => exact before done

theorem core0Step_polls (polls : (core0Step env shared pc).2.phase = .polling) :
    pc.phase = .polling ∨ pc.phase = .other := by
  have move := core0Step_streamMove env shared pc
  rw [polls] at move
  generalize (core0Step env shared pc).1 = after at move
  generalize pc.phase = phase at move ⊢
  cases move with
  | asks => exact .inr rfl
  | polls => exact .inl rfl
  | returns quiet => exact absurd (.inl rfl) quiet.not_asking
  | elsewhere _ quiet => exact absurd (.inl rfl) quiet.not_asking

/-- Core 0 comes to own the socket when it finds `isStreaming` cleared, when
a task it has stopped is gone, or after a request on behalf of TEARDOWN. -/
theorem core0Step_owning (owns : (core0Step env shared pc).2.phase = .owning) :
    pc.phase = .owning ∨
      (pc = .acceptTestStreaming ∨ pc = .idleTestStreaming) ∧ shared.isStreaming = false ∨
      pc.isStopForget = true ∨ shared.audioCaptureTaskHandle = none ∨
      pc.requestCaller = some .teardown := by
  cases pc <;> simp only [core0Step] at owns <;> (repeat' split at owns) <;> first
    | exact .inr (.inr (.inr (.inr (congrArg some (teardown_of_afterRequest owns)))))
    | simp_all [Core0Pc.phase, Core0Pc.isStopForget]

/-- Core 0 stays cleared of `isStreaming` as long as it is closing. -/
theorem core0Step_isClosing (closing : pc.isClosing = true → shared.isStreaming = false)
    (nextCloses : (core0Step env shared pc).2.isClosing = true) :
    (core0Step env shared pc).1.isStreaming = false := by
  cases pc <;> simp only [core0Step] at nextCloses ⊢ <;> (repeat' split at nextCloses) <;>
    simp_all [Core0Pc.isClosing]

/-- Only the end of a stream clears `streamClient`. -/
theorem core0Step_client (closing : pc.isClosing = false) (client : shared.streamClient = true) :
    (core0Step env shared pc).1.streamClient = true := by
  cases pc <;> simp only [core0Step] <;> (repeat' split) <;>
    simp_all [Core0Pc.isClosing]

theorem core0Step_requested
    (requested : shared.stopStreamRequested = true ↔
      pc.phase = .polling ∨ pc.phase = .answered) :
    (core0Step env shared pc).1.stopStreamRequested = true ↔
      (core0Step env shared pc).2.phase = .polling ∨
        (core0Step env shared pc).2.phase = .answered := by
  have move := core0Step_streamMove env shared pc
  generalize (core0Step env shared pc).1 = after at move ⊢
  generalize (core0Step env shared pc).2.phase = next at move ⊢
  generalize pc.phase = phase at move requested
  cases move with
  | asks => exact iff_of_true rfl (.inl rfl)
  | polls => exact requested
  | hears => exact iff_of_true (requested.mpr (.inl rfl)) (.inr rfl)
  | ends same => rwa [same]
  | withdraws => exact iff_of_false Bool.false_ne_true (by simp)
  | returns quiet =>
      exact iff_of_false (fun asked => by simpa using requested.mp asked) quiet.not_asking
  | elsewhere quiet nextQuiet before =>
      exact iff_of_false (fun asked => quiet.not_asking (requested.mp (before asked)))
        nextQuiet.not_asking

theorem core0Step_doneAsked
    (done : shared.streamCleanupDone = true →
      pc.phase = .polling ∨ pc.phase = .answered ∨ pc.phase = .clearing)
    (nextDone : (core0Step env shared pc).1.streamCleanupDone = true) :
    (core0Step env shared pc).2.phase = .polling ∨
      (core0Step env shared pc).2.phase = .answered ∨
      (core0Step env shared pc).2.phase = .clearing := by
  have move := core0Step_streamMove env shared pc
  have before := done (core0Step_done env nextDone)
  generalize (core0Step env shared pc).1 = after at move nextDone
  generalize (core0Step env shared pc).2.phase = next at move ⊢
  generalize pc.phase = phase at move before
  cases move with
  | asks | polls => exact .inl rfl
  | hears | ends => exact .inr (.inl rfl)
  | withdraws => exact .inr (.inr rfl)
  | returns => cases nextDone
  | elsewhere quiet => rcases quiet with rfl | rfl <;> simp at before

/-- Core 0 owns the socket only while `isStreaming` is cleared. -/
theorem core0Step_owns (closing : pc.isClosing = true → shared.isStreaming = false)
    (owning : pc.phase = .owning → shared.isStreaming = false)
    (owns : (core0Step env shared pc).2.phase = .owning) :
    (core0Step env shared pc).1.isStreaming = false := by
  cases pc <;> simp only [core0Step] at owns ⊢ <;> (repeat' split at owns) <;>
    simp_all [Core0Pc.phase, Core0Pc.isClosing]

/-- TEARDOWN is negotiated only while `isStreaming` is cleared, and then it
requests no stop. -/
theorem core0Step_requestCaller (owning : pc.phase = .owning → shared.isStreaming = false)
    (teardown : pc.requestCaller ≠ some .teardown) :
    (core0Step env shared pc).2.requestCaller ≠ some .teardown := by
  cases pc <;> simp only [core0Step] <;> (repeat' split) <;> first
    | exact teardown
    | (simp; done)
    | simp_all [Core0Pc.phase, Core0Pc.requestCaller]

theorem flagsOwned_core0 (flags : FlagsOwned shared pc) :
    FlagsOwned (core0Step env shared pc).1 (core0Step env shared pc).2 where
  requested := core0Step_requested env flags.requested
  done := core0Step_doneAsked env flags.done
  closing := core0Step_isClosing env flags.closing
  owning := core0Step_owns env flags.closing flags.owning
  teardown := core0Step_requestCaller env flags.owning flags.teardown

end Core0

/-! ## Steps of the task -/

section Core1

variable {shared : Shared} {task next : AudioTask} (env : TaskEnv)

theorem taskStep_streaming (streaming : (taskStep env shared task).1.isStreaming = true) :
    shared.isStreaming = true := by
  refine Bool.of_not_eq_false fun cleared => ?_
  rw [taskStep_isStreaming env _ _ cleared] at streaming
  cases streaming

/-- A task that ends the stream leaves `streamClient` alone. -/
theorem taskStep_clearsStreaming (clears : task.pc.clearsStreaming = true) :
    (taskStep env shared task).1.isStreaming = false ∧
      (taskStep env shared task).1.streamClient = shared.streamClient := by
  cases pc : task.pc <;> simp_all [taskStep, TaskPc.clearsStreaming]

theorem taskStep_stopStreamRequested :
    (taskStep env shared task).1.stopStreamRequested = shared.stopStreamRequested := by
  cases pc : task.pc <;> simp only [taskStep, pc]

/-- The confirmation is the last step of stopping. -/
theorem taskStep_done (done : (taskStep env shared task).1.streamCleanupDone = true) :
    shared.streamCleanupDone = true ∨ task.pc.phase = .stopping ∧
      ∀ next, (taskStep env shared task).2 = some next → next.pc.phase = .waiting := by
  cases pc : task.pc <;> simp_all [taskStep, TaskPc.phase, AudioTask.goto]

/-- What a step of the task does to its phase, and the flags it does that
with. -/
inductive PhaseMove (shared after : Shared) : TaskPhase → TaskPhase → Prop where
  | stays {phase : TaskPhase}
      (streaming : phase = .active → after.isStreaming = shared.isStreaming)
      (done : phase = .stopping → after.streamCleanupDone = shared.streamCleanupDone) :
      PhaseMove shared after phase phase
  | stops (requested : shared.stopStreamRequested = true)
      (done : after.streamCleanupDone = shared.streamCleanupDone) :
      PhaseMove shared after .idle .stopping
  | streams {phase : TaskPhase} (free : phase = .idle ∨ phase = .windingUp)
      (streaming : after.isStreaming = true) : PhaseMove shared after phase .active
  | confirms : PhaseMove shared after .stopping .waiting
  | resumes (released : shared.stopStreamRequested = false ∨ shared.audioTaskRunning = false) :
      PhaseMove shared after .waiting .idle
  | windsUp : PhaseMove shared after .active .windingUp
  | ends {phase : TaskPhase} (ended : phase = .active ∨ phase = .windingUp) :
      PhaseMove shared after phase .idle

theorem taskStep_phase (continues : (taskStep env shared task).2 = some next) :
    PhaseMove shared (taskStep env shared task).1 task.pc.phase next.pc.phase := by
  cases pc : task.pc <;>
    simp only [taskStep, pc, AudioTask.goto, AudioTask.continue] at continues ⊢ <;>
    (repeat' split at continues) <;> cases continues <;> first
    | exact .stays (fun _ => rfl) (fun _ => rfl)
    | exact .stays (fun active => TaskPhase.noConfusion active) (fun _ => rfl)
    | exact .stops ‹_› rfl
    | exact .streams (.inl rfl) ‹_›
    | exact .streams (.inr rfl) (by simp_all)
    | exact .confirms
    | exact .resumes (.inl (Bool.of_not_eq_true ‹_›))
    | exact .resumes (.inr (Bool.of_not_eq_true ‹_›))
    | exact .windsUp
    | exact .ends (.inl rfl)
    | exact .ends (.inr rfl)

theorem taskStep_active (active : task.pc.phase = .active → shared.isStreaming = true)
    (continues : (taskStep env shared task).2 = some next)
    (nextActive : next.pc.phase = .active) :
    (taskStep env shared task).1.isStreaming = true := by
  have move := taskStep_phase env continues
  rw [nextActive] at move
  generalize task.pc.phase = phase at move active
  cases move with
  | stays streaming _ => exact (streaming rfl).trans (active rfl)
  | streams _ streaming => exact streaming

theorem taskStep_stopping (continues : (taskStep env shared task).2 = some next)
    (nextStopping : next.pc.phase = .stopping) :
    (taskStep env shared task).1.streamCleanupDone = shared.streamCleanupDone ∧
      (task.pc.phase = .stopping ∨
        task.pc.phase = .idle ∧ shared.stopStreamRequested = true) := by
  have move := taskStep_phase env continues
  rw [nextStopping] at move
  generalize task.pc.phase = phase at move
  cases move with
  | stays _ done => exact ⟨done rfl, .inl rfl⟩
  | stops requested done => exact ⟨done, .inr ⟨rfl, requested⟩⟩

theorem taskStep_waiting (waits : task.pc.phase = .waiting)
    (requested : shared.stopStreamRequested = true)
    (running : shared.audioTaskRunning = true)
    (continues : (taskStep env shared task).2 = some next) :
    next.pc.phase = .waiting := by
  have move := taskStep_phase env continues
  rw [waits] at move
  generalize next.pc.phase = phase at move
  cases move with
  | stays _ _ => rfl
  | streams free _ => rcases free with impossible | impossible <;> cases impossible
  | resumes released => simp [requested, running] at released
  | ends ended => rcases ended with impossible | impossible <;> cases impossible

theorem taskStep_idle (idle : task.pc.phase = .idle)
    (notRequested : shared.stopStreamRequested = false)
    (cleared : shared.isStreaming = false)
    (continues : (taskStep env shared task).2 = some next) :
    next.pc.phase = .idle := by
  have move := taskStep_phase env continues
  rw [idle] at move
  generalize next.pc.phase = phase at move
  cases move with
  | stays _ _ => rfl
  | stops requested _ =>
      rw [notRequested] at requested
      cases requested
  | streams _ streaming =>
      rw [taskStep_isStreaming env _ _ cleared] at streaming
      cases streaming
  | ends _ => rfl

/-- An idle task has left the blocks that declare the local `client`. -/
theorem taskStep_client (idle : task.pc.phase = .idle → task.client = false)
    (continues : (taskStep env shared task).2 = some next)
    (nextIdle : next.pc.phase = .idle) : next.client = false := by
  cases pc : task.pc <;>
    simp only [taskStep, pc, AudioTask.goto, AudioTask.continue] at continues ⊢ <;>
    (repeat' split at continues) <;> cases continues <;>
    simp_all [TaskPc.phase]

end Core1

/-! ## Every step keeps the answers -/

theorem phase_of_isStopTake {pc : Core0Pc} (waits : pc.isStopTake = true) :
    pc.phase = .other := by
  cases pc <;> first | rfl | cases waits

theorem isClosing_of_isStopTake {pc : Core0Pc} (waits : pc.isStopTake = true) :
    pc.isClosing = true := by
  cases pc <;> first | rfl | cases waits

/-- As long as a task is alive, Core 0 polls until it is answered. -/
theorem keepsPolling {system : DualCore} {env : Core0Env}
    (inTime : RequestAnswered system (.core0 env)) (alive : ¬ system.NoTask)
    (polling : system.core0.phase = .polling)
    (notDone : system.shared.streamCleanupDone = false) :
    (core0Step env system.shared system.core0).1 = system.shared ∧
      (core0Step env system.shared system.core0).2.phase = .polling := by
  obtain ⟨same, ⟨stays, _⟩ | ⟨-, done | expired⟩⟩ := core0Step_polling env polling
  · exact ⟨same, stays⟩
  · rw [notDone] at done
    cases done
  · exact absurd (inTime env rfl polling notDone expired) alive

theorem taskAnswers_core0 {system : DualCore} {env : Core0Env} {id : Nat} {task : AudioTask}
    (answered : StreamAnswered system) (inTime : RequestAnswered system (.core0 env))
    (live : system.tasks id = some task) :
    TaskAnswers (core0Step env system.shared system.core0).1
      (core0Step env system.shared system.core0).2 task := by
  have fits := answered.tasks id task live
  have alive := not_noTask live
  refine ⟨fun active => ?_, fun stopping => ?_, fun answers => ?_⟩
  · refine Bool.of_not_eq_false fun cleared => ?_
    rcases core0Step_isStreaming env cleared with before | answers
    · rw [fits.active active] at before
      cases before
    · have waits := fits.answered (Or.inl answers)
      rw [active] at waits
      cases waits
  · obtain ⟨polling, notDone⟩ := fits.stopping stopping
    obtain ⟨same, stays⟩ := keepsPolling inTime alive polling notDone
    rw [same]
    exact ⟨stays, notDone⟩
  · rcases answers with answers | ⟨polls, done⟩
    · rcases core0Step_answered env answers with polling | before
      · cases notDone : system.shared.streamCleanupDone with
        | true => exact fits.answered (Or.inr ⟨polling, notDone⟩)
        | false =>
            obtain ⟨-, stays⟩ := keepsPolling inTime alive polling notDone
            rw [answers] at stays
            cases stays
      · exact fits.answered (Or.inl before)
    · have before := core0Step_done env done
      rcases core0Step_polls env polls with polling | other
      · exact fits.answered (Or.inr ⟨polling, before⟩)
      · have asked := answered.flags.done before
        simp [other] at asked

section Core1Answers

variable {system : DualCore} {env : TaskEnv} {id : Nat} {task : AudioTask}
variable (answered : StreamAnswered system) (live : system.tasks id = some task)

include answered live

/-- A waiting task stays until the request is cleared. -/
theorem keepsWaiting {next : AudioTask}
    (continues : (taskStep env system.shared task).2 = some next)
    (asked : system.core0.phase = .polling ∨ system.core0.phase = .answered)
    (waiting : task.pc.phase = .waiting) : next.pc.phase = .waiting := by
  refine taskStep_waiting env waiting (answered.flags.requested.mpr asked) ?_ continues
  refine Bool.of_not_eq_false fun stopped => ?_
  have started : task.pc ≠ .start := by
    intro start
    rw [start] at waiting
    cases waiting
  have other := phase_of_isStopTake
    (answered.lifecycle.told id task live (Or.inr ⟨started, stopped⟩))
  simp [other] at asked

theorem taskAnswers_core1 {next : AudioTask}
    (continues : (taskStep env system.shared task).2 = some next) :
    TaskAnswers (taskStep env system.shared task).1 system.core0 next := by
  have fits := answered.tasks id task live
  refine ⟨taskStep_active env fits.active continues, fun stopping => ?_, fun answers => ?_⟩
  · obtain ⟨sameDone, before | ⟨idle, asked⟩⟩ := taskStep_stopping env continues stopping
    · rw [sameDone]
      exact fits.stopping before
    · have notWaiting : task.pc.phase ≠ .waiting := by
        rw [idle]
        exact fun same => nomatch same
      rcases answered.flags.requested.mp asked with polling | answers
      · rw [sameDone]
        exact ⟨polling, Bool.of_not_eq_true fun done =>
          notWaiting (fits.answered (Or.inr ⟨polling, done⟩))⟩
      · exact absurd (fits.answered (Or.inl answers)) notWaiting
  · rcases answers with answers | ⟨polling, done⟩
    · exact keepsWaiting answered live continues (Or.inr answers)
        (fits.answered (Or.inl answers))
    · rcases taskStep_done env done with before | ⟨-, confirmed⟩
      · exact keepsWaiting answered live continues (Or.inl polling)
          (fits.answered (Or.inr ⟨polling, before⟩))
      · exact confirmed next continues

theorem flagsOwned_core1 : FlagsOwned (taskStep env system.shared task).1 system.core0 where
  requested := by
    rw [taskStep_stopStreamRequested]
    exact answered.flags.requested
  done := by
    intro done
    rcases taskStep_done env done with before | ⟨stopping, -⟩
    · exact answered.flags.done before
    · exact Or.inl ((answered.tasks id task live).stopping stopping).1
  closing := fun closing => taskStep_isStreaming env _ _ (answered.flags.closing closing)
  owning := fun owns => taskStep_isStreaming env _ _ (answered.flags.owning owns)
  teardown := answered.flags.teardown

end Core1Answers

theorem taskOwned_created {shared : Shared} {core0 : Core0Pc}
    (core0Loops : core0 = .loop) : TaskOwned shared core0 AudioTask.created := by
  subst core0Loops
  constructor <;> simp [AudioTask.created, TaskPc.phase, Core0Pc.phase]

theorem flagsOwned_step {system next : DualCore} {event : DualCoreEvent}
    (answered : StreamAnswered system) (stepped : dualCoreStep system event = some next) :
    FlagsOwned next.shared next.core0 := by
  cases event with
  | core0 env =>
      cases stepped
      exact flagsOwned_core0 env answered.flags
  | core1 id env =>
      obtain ⟨task, live, rfl⟩ := dualCoreStep_core1 stepped
      exact flagsOwned_core1 answered live
  | peerCloses =>
      cases stepped
      exact ⟨answered.flags.requested, answered.flags.done, answered.flags.closing,
        answered.flags.owning, answered.flags.teardown⟩

theorem streamAnswered_step {system next : DualCore} {event : DualCoreEvent}
    (answered : StreamAnswered system) (exits : TaskExitsInTime system event)
    (inTime : RequestAnswered system event)
    (stepped : dualCoreStep system event = some next) : StreamAnswered next := by
  refine ⟨taskLifecycle_step answered.lifecycle exits stepped,
    flagsOwned_step answered stepped, fun other otherTask otherLive => ?_⟩
  cases event with
  | core0 env =>
      cases stepped
      rcases DualCore.tasksAfter_cases otherLive with before | ⟨creates, -, rfl⟩
      · exact taskAnswers_core0 answered inTime before
      · refine (taskOwned_created ?_).answers
        rw [creates]
        rfl
  | core1 id env =>
      obtain ⟨task, live, rfl⟩ := dualCoreStep_core1 stepped
      rcases update_cases otherLive with ⟨-, continues⟩ | ⟨differs, before⟩
      · exact taskAnswers_core1 answered live continues
      · exact absurd (answered.lifecycle.only live before) differs
  | peerCloses =>
      cases stepped
      obtain ⟨active, stopping, answers⟩ := answered.tasks other otherTask otherLive
      exact ⟨active, stopping, answers⟩

/-! ## Every step keeps the ownership -/

/-- When Core 0 comes to own the socket, a task that is alive is idle. -/
theorem idle_of_owns {system : DualCore} {env : Core0Env} {id : Nat} {task : AudioTask}
    (owned : SocketOwned system) (cooperate : CoresCooperate system (.core0 env))
    (live : system.tasks id = some task)
    (owns : (core0Step env system.shared system.core0).2.phase = .owning) :
    task.pc.phase = .idle := by
  have fits := owned.tasks id task live
  have alive := not_noTask live
  rcases core0Step_owning env owns with
    before | ⟨tests, cleared⟩ | forgets | handle | teardown
  · exact fits.owning before
  · obtain ⟨notWinding, notWaiting⟩ := cooperate.finishes env rfl tests cleared id task live
    have notPolling : system.core0.phase ≠ .polling := by
      rcases tests with test | test <;> rw [test] <;> exact fun same => nomatch same
    cases phase : task.pc.phase with
    | idle => rfl
    | active =>
        rw [fits.active phase] at cleared
        cases cleared
    | stopping => exact absurd (fits.stopping phase).1 notPolling
    | waiting => exact absurd phase notWaiting
    | windingUp => exact absurd phase notWinding
  · exact absurd (owned.lifecycle.forgotten forgets) alive
  · exact absurd (owned.lifecycle.noTask_of_handle handle) alive
  · exact absurd teardown owned.flags.teardown

theorem taskOwned_core0 {system : DualCore} {env : Core0Env} {id : Nat} {task : AudioTask}
    (owned : SocketOwned system) (cooperate : CoresCooperate system (.core0 env))
    (live : system.tasks id = some task) :
    TaskOwned (core0Step env system.shared system.core0).1
      (core0Step env system.shared system.core0).2 task := by
  obtain ⟨active, stopping, answers⟩ :=
    taskAnswers_core0 owned.streamAnswered cooperate.answers live
  exact ⟨active, stopping, answers, idle_of_owns owned cooperate live,
    (owned.tasks id task live).idle⟩

theorem taskOwned_core1 {system : DualCore} {env : TaskEnv} {id : Nat}
    {task next : AudioTask} (owned : SocketOwned system)
    (live : system.tasks id = some task)
    (continues : (taskStep env system.shared task).2 = some next) :
    TaskOwned (taskStep env system.shared task).1 system.core0 next := by
  have fits := owned.tasks id task live
  obtain ⟨active, stopping, answers⟩ := taskAnswers_core1 owned.streamAnswered live continues
  refine ⟨active, stopping, answers, fun owns => ?_, taskStep_client env fits.idle continues⟩
  refine taskStep_idle env (fits.owning owns) ?_ (owned.flags.owning owns) continues
  refine Bool.of_not_eq_true fun asked => ?_
  have polls := owned.flags.requested.mp asked
  simp [owns] at polls

theorem socketOwned_step {system next : DualCore} {event : DualCoreEvent}
    (owned : SocketOwned system) (cooperate : CoresCooperate system event)
    (stepped : dualCoreStep system event = some next) : SocketOwned next := by
  refine ⟨taskLifecycle_step owned.lifecycle cooperate.exits stepped,
    flagsOwned_step owned.streamAnswered stepped, fun other otherTask otherLive => ?_⟩
  cases event with
  | core0 env =>
      cases stepped
      rcases DualCore.tasksAfter_cases otherLive with before | ⟨creates, -, rfl⟩
      · exact taskOwned_core0 owned cooperate before
      · apply taskOwned_created
        rw [creates]
        rfl
  | core1 id env =>
      obtain ⟨task, live, rfl⟩ := dualCoreStep_core1 stepped
      rcases update_cases otherLive with ⟨-, continues⟩ | ⟨differs, before⟩
      · exact taskOwned_core1 owned live continues
      · exact absurd (owned.lifecycle.only live before) differs
  | peerCloses =>
      cases stepped
      obtain ⟨active, stopping, answered, owning, idle⟩ :=
        owned.tasks other otherTask otherLive
      exact ⟨active, stopping, answered, owning, idle⟩

/-- Core 0 never touches the socket while a task holds it, in every state of
a run in which the cores cooperate. -/
theorem socketExclusive_of_coresCooperate (currentBufferSize : Nat)
    (events : List DualCoreEvent) (last : DualCore)
    (cooperate : Guarded dualCoreStep CoresCooperate (DualCore.boot currentBufferSize) events)
    (ran : run dualCoreStep (DualCore.boot currentBufferSize) events = some last) :
    SocketExclusive last :=
  (invariant_of_guarded (fun _ _ _ => socketOwned_step)
    (socketOwned_boot currentBufferSize) cooperate ran).exclusive

/-- The server is stopped while the task reads a block for longer than three
seconds, and started again when the client has gone and another one arrives. -/
def stopWithoutAnswer : List DualCoreEvent :=
  startPlaying ++
    List.replicate 12 (.core0 ⟨.serverStop, true, false, false, none⟩) ++
    [.core0 ⟨.serverStart, false, false, false, none⟩, .peerCloses] ++
    List.replicate 6 (.core0 ⟨.rtspPhases, false, false, true, none⟩)

/-- Core 0 reassigns `rtspClient` while the task holds a pointer to it. -/
theorem socket_reassigned_while_held :
    ∃ last, run dualCoreStep (DualCore.boot 1024) stopWithoutAnswer = some last ∧
      last.core0 = .acceptAssign ∧ ¬ SocketExclusive last := by
  refine ⟨_, rfl, rfl, fun exclusive => ?_⟩
  exact absurd (exclusive rfl 0 _ rfl) (by decide)

/-- The task that the handle denotes has ended the pass of its loop in which
the stream ended. -/
def DualCore.hasEndedPass (system : DualCore) : Bool :=
  (system.shared.audioCaptureTaskHandle.bind system.tasks).all fun task =>
    task.pc.phase != .windingUp && task.pc.phase != .waiting

/-- Core 0 is going to use the socket if it finds the stream gone. -/
def Core0Pc.testsForUse : Core0Pc → Bool
  | .acceptTestStreaming | .idleTestStreaming => true
  | _ => false

theorem coresCooperate_of_inTime {system : DualCore} {event : DualCoreEvent}
    (lifecycle : TaskLifecycle system) (inTime : event.inTime = true)
    (ended : system.core0.testsForUse = true → system.hasEndedPass = true) :
    CoresCooperate system event where
  exits := taskExitsInTime_of_inTime inTime system
  answers := by
    rintro env rfl - - expired
    rw [DualCoreEvent.inTime, expired] at inTime
    cases inTime
  finishes := by
    rintro env rfl tests - id task live
    have uses : system.core0.testsForUse = true := by
      rcases tests with accepts | idles
      · rw [accepts]
        rfl
      · rw [idles]
        rfl
    have endedPass := ended uses
    rw [DualCore.hasEndedPass, lifecycle.handle id task live, Option.bind_some, live] at endedPass
    simpa using endedPass

/-- The server is stopped under a stream, and Core 1 answers.  The server is
started again, and Core 0 accepts the next client. -/
def serveNextClient : List DualCoreEvent :=
  startPlaying ++
    List.replicate 4 (.core0 ⟨.serverStop, false, true, false, none⟩) ++
    List.replicate 15 (.core1 0 ⟨true, 256, false, false, none⟩) ++
    List.replicate 7 (.core0 ⟨.serverStop, false, true, false, none⟩) ++
    List.replicate 5 (.core1 0 ⟨true, 256, false, false, none⟩) ++
    [.core0 ⟨.serverStart, false, true, false, none⟩, .peerCloses] ++
    List.replicate 6 playing

set_option maxRecDepth 4000 in
theorem coresCooperate_serveNextClient :
    Guarded dualCoreStep CoresCooperate (DualCore.boot 1024) serveNextClient := by
  have inTime : serveNextClient.all DualCoreEvent.inTime = true := by decide
  have ended : Guarded dualCoreStep (fun system _ => system.core0.testsForUse = true →
      system.hasEndedPass = true) (DualCore.boot 1024) serveNextClient := by decide
  have exits : Guarded dualCoreStep TaskExitsInTime (DualCore.boot 1024) serveNextClient :=
    guarded_of_forall_mem (fun event member system => taskExitsInTime_of_inTime
      (List.all_eq_true.mp inTime event member) system) _
  rw [guarded_iff_forall_split] at ended ⊢
  intro first event rest split system ran
  have before : Guarded dualCoreStep TaskExitsInTime (DualCore.boot 1024) first := by
    rw [split] at exits
    exact exits.append.1
  have lifecycle := invariant_of_guarded (fun _ _ _ => taskLifecycle_step)
    (taskLifecycle_boot 1024) before ran
  refine coresCooperate_of_inTime lifecycle ?_ (ended first event rest split system ran)
  apply List.all_eq_true.mp inTime
  rw [split]
  exact List.mem_append_right first List.mem_cons_self

/-- Core 0 reassigns `rtspClient` beside the task that streamed from it. -/
theorem socketExclusive_serveNextClient :
    ∃ last, run dualCoreStep (DualCore.boot 1024) serveNextClient = some last ∧
      last.core0 = .acceptAssign ∧ (last.tasks 0).isSome = true ∧ SocketExclusive last := by
  obtain ⟨last, ran, assigns, alive⟩ :
      ∃ last, run dualCoreStep (DualCore.boot 1024) serveNextClient = some last ∧
        last.core0 = .acceptAssign ∧ (last.tasks 0).isSome = true := ⟨_, rfl, rfl, rfl⟩
  exact ⟨last, ran, assigns, alive, socketExclusive_of_coresCooperate 1024 serveNextClient last
    coresCooperate_serveNextClient ran⟩

end EchoMic
