import EchoMic.StopConfirmation

/-!
# Restarting I2S under a running stream

`restartI2S` asks Core 1 to stop the stream and means to resume it with the
client that is still connected.  The stop branch of the audio task closes
that client, so no stream survives a restart that Core 1 answers.  A stream
survives exactly when the answer that `restartI2S` reads was left behind by an
earlier request, and Core 1 leaves the socket and the flags alone.
-/

namespace EchoMic

open GuardedRuns TaskTable

/-- The steps between closing the socket and the confirmation of a stop or the
end of a stream. -/
def TaskPc.isClosing : TaskPc → Bool
  | .stopClearClient | .stopClearStreaming | .stopClearLed | .stopSetDone => true
  | .dropClearClient | .dropClearStreaming => true
  | .teardownClearClient | .teardownClearStreaming => true
  | _ => false

/-- The steps that close the socket. -/
def TaskPc.closes : TaskPc → Bool
  | .stopClose | .dropClose | .teardownClose => true
  | _ => false

def StopCaller.isRestart : StopCaller → Bool
  | .restartI2S _ => true
  | _ => false

def StopCaller.resumes : StopCaller → Bool
  | .restartI2S wasStreaming => wasStreaming
  | _ => false

/-- Core 0 is in `restartI2S` or has returned from it. -/
def Core0Pc.inRestart : Core0Pc → Bool
  | .loop | .startTestHandle | .startCreate => true
  | .restartReadStreaming | .restartTestStreaming _ => true
  | .restartTestClient | .restartSetClient | .restartSetStreaming => true
  | .requestTestStreaming caller | .requestTestClient caller
  | .requestSetRequested caller | .requestPoll caller
  | .requestDecide caller | .requestClearStreaming caller _
  | .requestClearClient caller _ | .requestClearRequested caller _
  | .requestClearDone caller _ | .requestClearLed caller
  | .stopTestHandle caller | .stopClearRunning caller
  | .stopTake caller | .stopForget caller => caller.isRestart
  | .wifiTestStreaming | .overheatTestStreaming | .serverStopTestStreaming
  | .disableServer | .idleTestStreaming | .idleStop
  | .sessionTestStreaming | .sessionTestLed | .sessionDrawLed | .sessionStore
  | .acceptTestStreaming | .acceptTestClient | .acceptAvailable | .acceptAssign
  | .negotiateTestClient | .negotiateRead | .negotiateReply
  | .playReply | .playClearRequested | .playClearDone | .playOwnLed
  | .playSetClient | .playSetStreaming
  | .teardownTestStreaming | .teardownReply | .teardownTestLed | .teardownDrawLed
  | .disabledTestStreaming | .disabledTestLed | .disabledDrawLed => false

/-- Core 0 waits for an answer or has yet to ask. -/
def Core0Pc.isAsking : Core0Pc → Bool
  | .restartReadStreaming | .restartTestStreaming _ => true
  | .requestTestStreaming _ | .requestSetRequested _ | .requestPoll _ => true
  | _ => false

/-- Core 0 is in a `restartI2S` that has found a stream. -/
def Core0Pc.resumes : Core0Pc → Bool
  | .restartTestStreaming wasStreaming => wasStreaming
  | .requestTestStreaming caller | .requestTestClient caller
  | .requestSetRequested caller | .requestPoll caller | .requestDecide caller
  | .requestClearStreaming caller _ | .requestClearClient caller _
  | .requestClearRequested caller _ | .requestClearDone caller _
  | .requestClearLed caller => caller.resumes
  | .stopTestHandle caller | .stopClearRunning caller | .stopTake caller
  | .stopForget caller => caller.resumes
  | .restartTestClient => true
  | _ => false

/-- Core 0 has found a client to resume the stream with. -/
def Core0Pc.resumed : Core0Pc → Bool
  | .restartSetClient | .restartSetStreaming => true
  | _ => false

/-- The stream goes on only if `isStreaming` stays set here: `restartI2S` has
yet to read it, or has set it again. -/
def Core0Pc.needsStreaming : Core0Pc → Bool
  | .restartReadStreaming | .startTestHandle | .startCreate | .loop => true
  | _ => false

/-- `restartI2S` has set `streamClient` again. -/
def Core0Pc.needsClient : Core0Pc → Bool
  | .restartSetStreaming | .startTestHandle | .startCreate | .loop => true
  | _ => false

/-- `restartI2S` has not found a stream to resume, or is about to return. -/
def Core0Pc.givenUp (pc : Core0Pc) : Bool :=
  pc.inRestart && !pc.resumes && !pc.resumed

/-- `stopAudioCaptureTask` has returned to a restart that found a stream. -/
def Core0Pc.withoutTask : Core0Pc → Bool
  | .restartTestClient | .restartSetClient | .restartSetStreaming => true
  | .startTestHandle | .startCreate => true
  | _ => false

/-- A connected client is being streamed to by a live task. -/
structure StreamRunning (system : DualCore) : Prop where
  streaming : system.shared.isStreaming = true
  client : system.shared.streamClient = true
  connected : system.shared.connected = true
  alive : ∃ id task, system.shared.audioCaptureTaskHandle = some id ∧
    system.tasks id = some task

/-- The same connection is still open, and a task has been created that will
stream to it. -/
structure StreamKept (start last : DualCore) : Prop where
  sameClient : last.shared.rtspClient = start.shared.rtspClient
  connected : last.shared.connected = true
  streaming : last.shared.isStreaming = true
  client : last.shared.streamClient = true
  started : ∃ id, last.shared.audioCaptureTaskHandle = some id ∧
    last.tasks id = some AudioTask.created

/-- Core 0 is inside `restartI2S`, none of its deadlines expires, and the
client does not disconnect. -/
def RestartAnswered (system : DualCore) : DualCoreEvent → Prop
  | .core0 env => system.core0 ≠ .loop ∧ env.expired = false
  | .core1 _ _ => system.core0 ≠ .loop
  | .peerCloses => False

instance (system : DualCore) : ∀ event, Decidable (RestartAnswered system event)
  | .core0 env => inferInstanceAs (Decidable (system.core0 ≠ .loop ∧ env.expired = false))
  | .core1 _ _ => inferInstanceAs (Decidable (system.core0 ≠ .loop))
  | .peerCloses => .isFalse id

/-- The answer to an earlier request has not been taken back, or is still
under way. -/
def StaleAnswer (system : DualCore) : Prop :=
  system.shared.streamCleanupDone = true ∨
    ∃ id task, system.tasks id = some task ∧ task.pc.isClosing = true

/-- Core 1 does not close the socket and does not clear a flag that
`restartI2S` has yet to read or has set again, and the task is created. -/
def LeavesStream (system : DualCore) : DualCoreEvent → Prop
  | .core0 env => system.core0 = .startCreate → env.created = true
  | .core1 id _ => ∀ task ∈ system.tasks id, task.pc.closes = false ∧
      (task.pc.clearsStreaming = true → system.core0.needsStreaming = false) ∧
      (task.pc.clearsClient = true → system.core0.needsClient = false)
  | .peerCloses => True

instance (system : DualCore) : ∀ event, Decidable (LeavesStream system event)
  | .core0 env =>
      inferInstanceAs (Decidable (system.core0 = .startCreate → env.created = true))
  | .core1 id _ =>
      inferInstanceAs (Decidable (∀ task ∈ system.tasks id, task.pc.closes = false ∧
        (task.pc.clearsStreaming = true → system.core0.needsStreaming = false) ∧
        (task.pc.clearsClient = true → system.core0.needsClient = false)))
  | .peerCloses => .isTrue trivial

/-- The socket is closed, or the stream runs on and Core 0 has no answer. -/
structure ClosedWhenAnswered (system : DualCore) : Prop where
  inRestart : system.core0.inRestart = true
  closed : system.shared.rtspClient = none ∨
    system.core0.isAsking = true ∧ system.shared.isStreaming = true ∧
      system.shared.streamClient = true ∧ system.shared.streamCleanupDone = false ∧
      ∀ id task, system.tasks id = some task → task.pc.isClosing = false

section Core0

theorem afterStop_of_isRestart {caller : StopCaller} (restarts : caller.isRestart = true) :
    caller.afterStop = .restartTestClient ∨ caller.afterStop = .loop := by
  cases caller with
  | restartI2S wasStreaming => cases wasStreaming <;> simp [StopCaller.afterStop]
  | _ => cases restarts

@[simp]
theorem inRestart_afterRequest (caller : StopCaller) :
    caller.afterRequest.inRestart = caller.isRestart := by
  cases caller <;> rfl

@[simp]
theorem resumed_afterRequest (caller : StopCaller) : caller.afterRequest.resumed = false := by
  cases caller <;> rfl

@[simp]
theorem resumed_afterStop (caller : StopCaller) : caller.afterStop.resumed = false := by
  rcases afterStop_cases caller with after | after | after | after <;> rw [after] <;> rfl

@[simp]
theorem resumes_afterRequest (caller : StopCaller) :
    caller.afterRequest.resumes = caller.resumes := by
  cases caller <;> rfl

@[simp]
theorem resumes_afterStop (caller : StopCaller) : caller.afterStop.resumes = caller.resumes := by
  cases caller with
  | restartI2S wasStreaming => cases wasStreaming <;> rfl
  | _ => rfl

@[simp]
theorem givenUp_afterRequest (caller : StopCaller) :
    caller.afterRequest.givenUp = (Core0Pc.stopTestHandle caller).givenUp := by
  cases caller <;> rfl

@[simp]
theorem withoutTask_afterRequest (caller : StopCaller) :
    caller.afterRequest.withoutTask = false := by
  cases caller <;> rfl

@[simp]
theorem needsClient_afterRequest (caller : StopCaller) :
    caller.afterRequest.needsClient = false := by
  cases caller <;> rfl

theorem afterStop_of_needsClient {caller : StopCaller} (restarts : caller.isRestart = true)
    (needs : caller.afterStop.needsClient = true) : caller.afterStop = .loop := by
  rcases afterStop_of_isRestart restarts with after | after
  · rw [after] at needs
    cases needs
  · exact after

theorem givenUp_afterStop {caller : StopCaller} (restarts : caller.isRestart = true) :
    caller.afterStop.givenUp = (Core0Pc.stopTestHandle caller).givenUp := by
  cases caller with
  | restartI2S wasStreaming => cases wasStreaming <;> rfl
  | _ => cases restarts

theorem isRestart_of_givenUp {caller : StopCaller}
    (givenUp : (Core0Pc.stopTestHandle caller).givenUp = true) : caller.isRestart = true := by
  cases caller <;> first | rfl | cases givenUp

theorem inRestart_afterStop {caller : StopCaller} (restarts : caller.isRestart = true) :
    caller.afterStop.inRestart = true := by
  rcases afterStop_of_isRestart restarts with after | after <;> rw [after] <;> rfl

variable (env : Core0Env) (shared : Shared) (pc : Core0Pc)

/-- Only the arrival of a client opens the socket. -/
theorem core0Step_rtspClient (opensNone : pc ≠ .acceptAssign)
    (closed : shared.rtspClient = none) : (core0Step env shared pc).1.rtspClient = none := by
  cases pc <;> simp only [core0Step] <;> (repeat' split) <;>
    first | exact closed | rfl | exact absurd rfl opensNone

theorem core0Step_inRestart (inside : pc.inRestart = true) (called : pc ≠ .loop) :
    (core0Step env shared pc).2.inRestart = true := by
  cases pc <;> simp only [core0Step] <;> (repeat' split) <;> first
    | exact inside
    | rfl
    | exact absurd inside Bool.false_ne_true
    | exact absurd rfl called
    | exact (inRestart_afterRequest _).trans inside
    | exact inRestart_afterStop inside

/-- A restart that has given the stream up does not take it up again. -/
theorem core0Step_givenUp (givenUp : pc.givenUp = true) (called : pc ≠ .loop)
    (cleared : shared.isStreaming = false) :
    (core0Step env shared pc).2.givenUp = true ∧
      (core0Step env shared pc).1.isStreaming = false := by
  cases pc <;> simp only [core0Step] <;> (repeat' split) <;> first
    | exact ⟨givenUp, cleared⟩
    | exact ⟨givenUp, rfl⟩
    | exact ⟨givenUp, trivial⟩
    | exact ⟨by rw [cleared]; rfl, cleared⟩
    | exact ⟨(givenUp_afterRequest _).trans givenUp, cleared⟩
    | exact ⟨(givenUp_afterStop (isRestart_of_givenUp givenUp)).trans givenUp, cleared⟩
    | exact absurd givenUp Bool.false_ne_true
    | exact absurd rfl called

/-- With the client connected, a restart that has found a stream gives it up
nowhere but behind its resumption. -/
theorem core0Step_givesUp (inside : pc.inRestart = true) (called : pc ≠ .loop)
    (connected : shared.connected = true)
    (streaming : pc.givenUp = true → pc.needsStreaming = true ∧ shared.isStreaming = true)
    (givesUp : (core0Step env shared pc).2.givenUp = true) :
    (core0Step env shared pc).2.needsStreaming = true ∧
      (core0Step env shared pc).1.isStreaming = true := by
  cases pc <;> simp only [core0Step] at givesUp ⊢ <;> (repeat' split at givesUp) <;> first
    | exact absurd (streaming givesUp).1 Bool.false_ne_true
    | exact absurd (streaming ((givenUp_afterRequest _).symm.trans givesUp)).1
        Bool.false_ne_true
    | exact absurd (streaming ((givenUp_afterStop inside).symm.trans givesUp)).1
        Bool.false_ne_true
    | exact absurd givesUp Bool.false_ne_true
    | exact absurd inside Bool.false_ne_true
    | exact absurd rfl called
    | exact absurd connected ‹_›
    | exact ⟨rfl, trivial⟩
    | exact ⟨rfl, (streaming rfl).2⟩
    | (split <;> exact ⟨rfl, (streaming rfl).2⟩)
    | (rw [(streaming rfl).2] at givesUp; cases givesUp)

/-- With the client connected and no task left, a restart that has found a
stream returns from the creation of a task. -/
theorem core0Step_returns (inside : pc.inRestart = true) (called : pc ≠ .loop)
    (connected : shared.connected = true)
    (handle : pc.withoutTask = true → shared.audioCaptureTaskHandle = none)
    (streaming : pc.givenUp = true → pc.needsStreaming = true ∧ shared.isStreaming = true)
    (returns : (core0Step env shared pc).2 = .loop) : pc = .startCreate := by
  cases pc <;> simp only [core0Step] at returns <;> (repeat' split at returns) <;> first
    | rfl
    | (cases returns; done)
    | exact absurd (streaming ((givenUp_afterStop inside).symm.trans
        (congrArg Core0Pc.givenUp returns))).1 Bool.false_ne_true
    | exact absurd (streaming ((givenUp_afterRequest _).symm.trans
        (congrArg Core0Pc.givenUp returns))).1 Bool.false_ne_true
    | exact absurd inside Bool.false_ne_true
    | exact absurd rfl called
    | exact absurd connected ‹_›
    | exact absurd (Option.isSome_iff_ne_none.mp ‹_›) (not_not.mpr (handle rfl))

theorem core0Step_withoutTask (inside : pc.inRestart = true) (called : pc ≠ .loop)
    (handle : pc.withoutTask = true → shared.audioCaptureTaskHandle = none)
    (without : (core0Step env shared pc).2.withoutTask = true) :
    (core0Step env shared pc).1.audioCaptureTaskHandle = none := by
  cases pc <;> simp only [core0Step] at without ⊢ <;> (repeat' split at without) <;> first
    | exact absurd without Bool.false_ne_true
    | exact absurd ((withoutTask_afterRequest _).symm.trans without) Bool.false_ne_true
    | exact absurd inside Bool.false_ne_true
    | exact absurd rfl called
    | exact handle rfl
    | exact Option.not_isSome_iff_eq_none.mp ‹_›

theorem core0Step_needsClient (needs : pc.needsClient = true) (called : pc ≠ .loop) :
    (core0Step env shared pc).2.needsClient = true ∧
      (core0Step env shared pc).1.streamClient = shared.streamClient := by
  cases pc <;> simp only [core0Step] <;> (repeat' split) <;> trivial

/-- A restart comes to need `streamClient` when it sets it, or returns. -/
theorem core0Step_client_needed {next : Shared × Core0Pc}
    (stepped : core0Step env shared pc = next) (inside : pc.inRestart = true)
    (client : pc.needsClient = true → shared.streamClient = true)
    (needs : next.2.needsClient = true) :
    next.2 = .loop ∨ next.1.streamClient = true := by
  cases pc <;> simp only [core0Step] at stepped <;> (repeat' split at stepped) <;>
    cases stepped <;> first
    | exact Or.inr (client rfl)
    | exact Or.inr rfl
    | exact Or.inl rfl
    | exact absurd needs Bool.false_ne_true
    | exact absurd ((needsClient_afterRequest _).symm.trans needs) Bool.false_ne_true
    | exact Or.inl (afterStop_of_needsClient inside needs)
    | exact absurd inside Bool.false_ne_true

/-- A restart reopens and reassigns nothing. -/
theorem core0Step_inRestart_client (inside : pc.inRestart = true) (called : pc ≠ .loop) :
    (core0Step env shared pc).1.rtspClient = shared.rtspClient ∧
      (core0Step env shared pc).1.peerClosed = shared.peerClosed := by
  cases pc <;> simp only [core0Step] <;> (repeat' split) <;> trivial

/-- As long as the stream runs and no stop is confirmed, Core 0 goes on
asking and changes nothing but its request. -/
theorem core0Step_isAsking (asking : pc.isAsking = true)
    (streaming : shared.isStreaming = true) (notDone : shared.streamCleanupDone = false)
    (notExpired : ∀ caller, pc = .requestPoll caller → env.expired = false) :
    (core0Step env shared pc).2.isAsking = true ∧
      (core0Step env shared pc).1.isStreaming = true ∧
      (core0Step env shared pc).1.streamClient = shared.streamClient ∧
      (core0Step env shared pc).1.streamCleanupDone = false := by
  cases pc <;> first
    | exact absurd asking Bool.false_ne_true
    | simp [core0Step, Core0Pc.isAsking, streaming, notDone, notExpired _ rfl]
    | simp [core0Step, Core0Pc.isAsking, streaming, notDone]

end Core0

section Core1

variable (env : TaskEnv) (shared : Shared) (task : AudioTask)

theorem taskStep_rtspClient (closed : shared.rtspClient = none) :
    (taskStep env shared task).1.rtspClient = none := by
  cases pc : task.pc <;> simp only [taskStep, pc, closed]

/-- A task that is not closing keeps the stream or closes the socket. -/
theorem taskStep_isClosing (notClosing : task.pc.isClosing = false)
    (client : shared.streamClient = true) :
    (taskStep env shared task).1.rtspClient = none ∨
      (taskStep env shared task).1.isStreaming = shared.isStreaming ∧
        (taskStep env shared task).1.streamClient = shared.streamClient ∧
        (taskStep env shared task).1.streamCleanupDone = shared.streamCleanupDone ∧
        ∀ next, (taskStep env shared task).2 = some next → next.pc.isClosing = false := by
  cases pc : task.pc <;>
    simp only [taskStep, pc, AudioTask.goto, AudioTask.continue] <;>
    (repeat' split) <;> simp_all [TaskPc.isClosing]

theorem taskStep_closes (closes : task.pc.closes = true) :
    (taskStep env shared task).1.rtspClient = none := by
  cases pc : task.pc <;> simp_all [taskStep, TaskPc.closes]

theorem taskStep_clearsClient (clears : task.pc.clearsClient = true) :
    (taskStep env shared task).1.streamClient = false := by
  cases pc : task.pc <;> simp_all [taskStep, TaskPc.clearsClient]

/-- The task never hands a client over. -/
theorem taskStep_streamClient_cleared (cleared : shared.streamClient = false) :
    (taskStep env shared task).1.streamClient = false := by
  cases pc : task.pc <;> simp only [taskStep, pc, cleared]

theorem taskStep_sameClient (notCloses : task.pc.closes = false) :
    (taskStep env shared task).1.rtspClient = shared.rtspClient ∧
      (taskStep env shared task).1.peerClosed = shared.peerClosed := by
  cases pc : task.pc <;> simp_all [taskStep, TaskPc.closes]

theorem taskStep_sameStreaming (notClears : task.pc.clearsStreaming = false) :
    (taskStep env shared task).1.isStreaming = shared.isStreaming := by
  cases pc : task.pc <;> simp_all [taskStep, TaskPc.clearsStreaming]

theorem taskStep_sameStreamClient (notClears : task.pc.clearsClient = false) :
    (taskStep env shared task).1.streamClient = shared.streamClient := by
  cases pc : task.pc <;> simp_all [taskStep, TaskPc.clearsClient]

end Core1

/-! ## An answer closes the socket -/

theorem closedWhenAnswered_step {system next : DualCore} {event : DualCoreEvent}
    (kept : ClosedWhenAnswered system) (answered : RestartAnswered system event)
    (stepped : dualCoreStep system event = some next) : ClosedWhenAnswered next := by
  obtain ⟨inRestart, closed⟩ := kept
  cases event with
  | core0 env =>
      cases stepped
      refine ⟨core0Step_inRestart env _ _ inRestart answered.1, ?_⟩
      rcases closed with closed | ⟨asking, streaming, client, notDone, notClosing⟩
      · refine Or.inl (core0Step_rtspClient env _ _ (fun opens => ?_) closed)
        rw [opens] at inRestart
        cases inRestart
      · obtain ⟨stillAsking, stillStreaming, sameClient, stillNotDone⟩ :=
          core0Step_isAsking env system.shared system.core0 asking streaming notDone
            fun _ _ => answered.2
        refine Or.inr ⟨stillAsking, stillStreaming, sameClient.trans client, stillNotDone, ?_⟩
        intro id task live
        rcases DualCore.tasksAfter_cases live with before | ⟨-, -, rfl⟩
        · exact notClosing id task before
        · rfl
  | core1 id env =>
      obtain ⟨task, live, rfl⟩ := dualCoreStep_core1 stepped
      refine ⟨inRestart, ?_⟩
      rcases closed with closed | ⟨asking, streaming, client, notDone, notClosing⟩
      · exact Or.inl (taskStep_rtspClient env system.shared task closed)
      · rcases taskStep_isClosing env system.shared task (notClosing id task live) client with
          closes | ⟨sameStreaming, sameClient, sameDone, nextNotClosing⟩
        · exact Or.inl closes
        · refine Or.inr ⟨asking, sameStreaming.trans streaming, sameClient.trans client,
            sameDone.trans notDone, ?_⟩
          intro other otherTask otherLive
          rcases update_cases otherLive with ⟨-, continues⟩ | ⟨-, before⟩
          · exact nextNotClosing otherTask continues
          · exact notClosing other otherTask before
  | peerCloses => cases answered

/-- A stream is not kept without an answer that was there before. -/
theorem staleAnswer_of_streamKept {start last : DualCore} {events : List DualCoreEvent}
    (running : StreamRunning start) (called : start.core0 = .restartReadStreaming)
    (answered : Guarded dualCoreStep RestartAnswered start events)
    (ran : run dualCoreStep start events = some last) (returned : last.core0 = .loop)
    (kept : StreamKept start last) : StaleAnswer start := by
  by_contra fresh
  obtain ⟨notDone, notClosing⟩ := not_or.mp fresh
  have initially : ClosedWhenAnswered start := by
    refine ⟨by rw [called]; rfl, Or.inr ⟨by rw [called]; rfl, running.streaming,
      running.client, Bool.of_not_eq_true notDone, fun id task live => ?_⟩⟩
    exact Bool.of_not_eq_true fun closing => notClosing ⟨id, task, live, closing⟩
  have atReturn := invariant_of_guarded (fun _ _ _ => closedWhenAnswered_step) initially
    answered ran
  rcases atReturn.closed with closed | ⟨asking, -⟩
  · have connected := kept.connected
    rw [Shared.connected, closed] at connected
    cases connected
  · rw [returned] at asking
    cases asking

/-! ## A step that does not leave the stream alone loses it -/

/-- The stream will not be there when the restart returns. -/
structure StreamLost (system : DualCore) : Prop where
  inRestart : system.core0.inRestart = true
  lost : system.shared.rtspClient = none ∨
    system.core0.givenUp = true ∧ system.shared.isStreaming = false ∨
    system.core0.needsClient = true ∧ system.shared.streamClient = false ∨
    system.core0 = .loop ∧ system.shared.audioCaptureTaskHandle = none

theorem StreamLost.notKept {start last : DualCore} (lost : StreamLost last) :
    ¬ StreamKept start last := by
  intro kept
  rcases lost.lost with closed | ⟨-, cleared⟩ | ⟨-, cleared⟩ | ⟨-, none⟩
  · have connected := kept.connected
    rw [Shared.connected, closed] at connected
    cases connected
  · exact absurd kept.streaming (Bool.eq_false_iff.mp cleared)
  · exact absurd kept.client (Bool.eq_false_iff.mp cleared)
  · obtain ⟨id, handle, -⟩ := kept.started
    rw [none] at handle
    cases handle

theorem ne_acceptAssign_of_inRestart {pc : Core0Pc} (inside : pc.inRestart = true) :
    pc ≠ .acceptAssign := by
  rintro rfl
  cases inside

theorem streamLost_step {system next : DualCore} {event : DualCoreEvent}
    (lost : StreamLost system) (answered : RestartAnswered system event)
    (stepped : dualCoreStep system event = some next) : StreamLost next := by
  obtain ⟨inside, lost⟩ := lost
  cases event with
  | core0 env =>
      cases stepped
      refine ⟨core0Step_inRestart env _ _ inside answered.1, ?_⟩
      rcases lost with closed | ⟨givenUp, cleared⟩ | ⟨needs, cleared⟩ | ⟨returned, -⟩
      · exact Or.inl
          (core0Step_rtspClient env _ _ (ne_acceptAssign_of_inRestart inside) closed)
      · exact Or.inr (Or.inl (core0Step_givenUp env _ _ givenUp answered.1 cleared))
      · obtain ⟨stillNeeds, same⟩ := core0Step_needsClient env system.shared _ needs answered.1
        exact Or.inr (Or.inr (Or.inl ⟨stillNeeds, same.trans cleared⟩))
      · exact absurd returned answered.1
  | core1 id env =>
      obtain ⟨task, live, rfl⟩ := dualCoreStep_core1 stepped
      refine ⟨inside, ?_⟩
      rcases lost with closed | ⟨givenUp, cleared⟩ | ⟨needs, cleared⟩ | ⟨returned, -⟩
      · exact Or.inl (taskStep_rtspClient env _ task closed)
      · exact Or.inr (Or.inl ⟨givenUp, taskStep_isStreaming env _ task cleared⟩)
      · exact Or.inr (Or.inr (Or.inl
          ⟨needs, taskStep_streamClient_cleared env _ task cleared⟩))
      · exact absurd returned answered
  | peerCloses => cases answered

/-- Core 0 is in the restart and creates a task only without a handle. -/
structure RestartReached (system : DualCore) : Prop where
  inRestart : system.core0.inRestart = true
  creating : system.core0 = .startCreate → system.shared.audioCaptureTaskHandle = none

theorem restartReached_step {system next : DualCore} {event : DualCoreEvent}
    (reached : RestartReached system) (answered : RestartAnswered system event)
    (stepped : dualCoreStep system event = some next) : RestartReached next := by
  cases event with
  | core0 env =>
      cases stepped
      exact ⟨core0Step_inRestart env _ _ reached.inRestart answered.1,
        core0Step_startCreate env _ _⟩
  | core1 id env =>
      obtain ⟨task, live, rfl⟩ := dualCoreStep_core1 stepped
      exact ⟨reached.inRestart, fun creates =>
        (taskStep_handle env _ task).trans (reached.creating creates)⟩
  | peerCloses => cases answered

theorem givenUp_of_needsStreaming {pc : Core0Pc} (needs : pc.needsStreaming = true) :
    pc.givenUp = true := by
  cases pc <;> first | rfl | cases needs

theorem streamLost_of_not_leavesStream {system next : DualCore} {event : DualCoreEvent}
    (reached : RestartReached system) (takes : ¬ LeavesStream system event)
    (stepped : dualCoreStep system event = some next) : StreamLost next := by
  cases event with
  | core0 env =>
      cases stepped
      obtain ⟨creates, fails⟩ := Classical.not_imp.mp takes
      simp only [core0Step, creates, if_neg fails]
      exact ⟨rfl, Or.inr (Or.inr (Or.inr ⟨rfl, reached.creating creates⟩))⟩
  | core1 id env =>
      obtain ⟨task, live, rfl⟩ := dualCoreStep_core1 stepped
      refine ⟨reached.inRestart, ?_⟩
      by_cases closes : task.pc.closes = true
      · exact Or.inl (taskStep_closes env _ task closes)
      by_cases ends : task.pc.clearsStreaming = true ∧ system.core0.needsStreaming = true
      · exact Or.inr (Or.inl ⟨givenUp_of_needsStreaming ends.2,
          (taskStep_clearsStreaming env ends.1).1⟩)
      by_cases forgets : task.pc.clearsClient = true ∧ system.core0.needsClient = true
      · exact Or.inr (Or.inr (Or.inl ⟨forgets.2, taskStep_clearsClient env _ task forgets.1⟩))
      · refine absurd (fun other same => ?_) takes
        rw [live] at same
        cases same
        exact ⟨Bool.of_not_eq_true closes,
          fun clears => Bool.of_not_eq_true fun needs => ends ⟨clears, needs⟩,
          fun clears => Bool.of_not_eq_true fun needs => forgets ⟨clears, needs⟩⟩
  | peerCloses => exact absurd trivial takes

theorem leavesStream_of_streamKept {start last : DualCore} {events : List DualCoreEvent}
    (called : start.core0 = .restartReadStreaming)
    (answered : Guarded dualCoreStep RestartAnswered start events)
    (ran : run dualCoreStep start events = some last) (kept : StreamKept start last) :
    Guarded dualCoreStep LeavesStream start events := by
  have initially : RestartReached start :=
    ⟨by rw [called]; rfl, fun creates => by rw [called] at creates; cases creates⟩
  refine (guarded_iff_forall_split start events).mpr ?_
  rintro first event rest rfl state ranFirst
  by_contra takes
  obtain ⟨answeredFirst, answeredRest⟩ := answered.append
  have reached := invariant_of_guarded (fun _ _ _ => restartReached_step) initially
    answeredFirst ranFirst
  rw [run_append, ranFirst, Option.bind_some] at ran
  obtain ⟨next, stepped, ranRest⟩ := run_cons_some ran
  have lost := invariant_of_guarded (fun _ _ _ => streamLost_step)
    (streamLost_of_not_leavesStream reached takes stepped)
    ((answeredRest state ranFirst).2 next stepped) ranRest
  exact lost.notKept kept

/-! ## A stream that is left alone is resumed -/

/-- What the restart still needs of the stream is there. -/
structure StreamSpared (start system : DualCore) : Prop where
  inRestart : system.core0.inRestart = true
  sameClient : system.shared.rtspClient = start.shared.rtspClient
  connected : system.shared.connected = true
  streaming : system.core0.givenUp = true →
    system.core0.needsStreaming = true ∧ system.shared.isStreaming = true
  client : system.core0.needsClient = true → system.shared.streamClient = true
  handle : system.core0.withoutTask = true → system.shared.audioCaptureTaskHandle = none
  started : system.core0 = .loop → ∃ id, system.shared.audioCaptureTaskHandle = some id ∧
    system.tasks id = some AudioTask.created

theorem connected_of_same {shared next : Shared} (sameClient : next.rtspClient = shared.rtspClient)
    (samePeer : next.peerClosed = shared.peerClosed) : next.connected = shared.connected := by
  rw [Shared.connected, Shared.connected, sameClient, samePeer]

theorem streamSpared_core0 {start system : DualCore} {env : Core0Env}
    (spared : StreamSpared start system) (answered : RestartAnswered system (.core0 env))
    (leaves : LeavesStream system (.core0 env)) :
    StreamSpared start
      { shared := (core0Step env system.shared system.core0).1
        core0 := (core0Step env system.shared system.core0).2
        tasks := system.tasksAfter env } := by
  obtain ⟨inside, sameClient, connected, streaming, client, handle, -⟩ := spared
  obtain ⟨unchanged, samePeer⟩ :=
    core0Step_inRestart_client env system.shared system.core0 inside answered.1
  have returns := core0Step_returns env system.shared system.core0 inside answered.1 connected
    handle streaming
  refine ⟨core0Step_inRestart env _ _ inside answered.1, unchanged.trans sameClient,
    (connected_of_same unchanged samePeer).trans connected,
    core0Step_givesUp env _ _ inside answered.1 connected streaming, fun needs => ?_,
    core0Step_withoutTask env _ _ inside answered.1 handle, fun returned => ?_⟩
  · rcases core0Step_client_needed env _ _ rfl inside client needs with returned | sets
    · have creates := returns returned
      have needed : system.core0.needsClient = true := by rw [creates]; rfl
      exact (core0Step_needsClient env _ _ needed answered.1).2.trans (client needed)
    · exact sets
  · have creates := returns returned
    have created := leaves creates
    refine ⟨system.shared.tasksCreated, ?_, ?_⟩
    · rw [creates]
      exact core0Step_handle_create env system.shared created
    · simp [DualCore.tasksAfter, creates, created]

theorem streamSpared_core1 {start system : DualCore} {id : Nat} {env : TaskEnv}
    {task : AudioTask} (spared : StreamSpared start system)
    (answered : RestartAnswered system (.core1 id env))
    (leaves : LeavesStream system (.core1 id env)) (live : system.tasks id = some task) :
    StreamSpared start
      { system with
        shared := (taskStep env system.shared task).1
        tasks := Function.update system.tasks id (taskStep env system.shared task).2 } := by
  obtain ⟨inside, sameClient, connected, streaming, client, handle, -⟩ := spared
  obtain ⟨notCloses, keepsStreaming, keepsClient⟩ := leaves task live
  obtain ⟨unchanged, samePeer⟩ := taskStep_sameClient env system.shared task notCloses
  refine ⟨inside, unchanged.trans sameClient,
    (connected_of_same unchanged samePeer).trans connected, fun givenUp => ?_, fun needs => ?_,
    fun without => (taskStep_handle env _ task).trans (handle without),
    fun returned => absurd returned answered⟩
  · obtain ⟨needs, isSet⟩ := streaming givenUp
    have notClears : task.pc.clearsStreaming = false := by
      refine Bool.of_not_eq_true fun clears => ?_
      rw [keepsStreaming clears] at needs
      cases needs
    exact ⟨needs, (taskStep_sameStreaming env _ task notClears).trans isSet⟩
  · have notClears : task.pc.clearsClient = false := by
      refine Bool.of_not_eq_true fun clears => ?_
      rw [keepsClient clears] at needs
      cases needs
    exact (taskStep_sameStreamClient env _ task notClears).trans (client needs)

theorem streamSpared_step {start system next : DualCore} {event : DualCoreEvent}
    (spared : StreamSpared start system)
    (guarded : RestartAnswered system event ∧ LeavesStream system event)
    (stepped : dualCoreStep system event = some next) : StreamSpared start next := by
  obtain ⟨answered, leaves⟩ := guarded
  cases event with
  | core0 env =>
      cases stepped
      exact streamSpared_core0 spared answered leaves
  | core1 id env =>
      obtain ⟨task, live, rfl⟩ := dualCoreStep_core1 stepped
      exact streamSpared_core1 spared answered leaves live
  | peerCloses => cases answered

theorem streamKept_of_leavesStream {start last : DualCore} {events : List DualCoreEvent}
    (running : StreamRunning start) (called : start.core0 = .restartReadStreaming)
    (answered : Guarded dualCoreStep RestartAnswered start events)
    (leaves : Guarded dualCoreStep LeavesStream start events)
    (ran : run dualCoreStep start events = some last) (returned : last.core0 = .loop) :
    StreamKept start last := by
  have initially : StreamSpared start start := by
    refine ⟨by rw [called]; rfl, rfl, running.connected, fun _ => ⟨by rw [called]; rfl,
      running.streaming⟩, fun _ => running.client, fun without => ?_, fun returned => ?_⟩
    · rw [called] at without
      cases without
    · rw [called] at returned
      cases returned
  have spared := invariant_of_guarded (fun _ _ _ => streamSpared_step) initially
    (answered.and leaves) ran
  have atLoop : last.core0.givenUp = true ∧ last.core0.needsClient = true := by
    rw [returned]
    exact ⟨rfl, rfl⟩
  exact ⟨spared.sameClient, spared.connected, (spared.streaming atLoop.1).2,
    spared.client atLoop.2, spared.started returned⟩

/-- `restartI2S` keeps a running stream exactly when the answer it reads is an
earlier one and Core 1 leaves the stream alone meanwhile. -/
theorem streamKept_iff_leavesStream (start last : DualCore)
    (events : List DualCoreEvent) (running : StreamRunning start)
    (called : start.core0 = .restartReadStreaming)
    (answered : Guarded dualCoreStep RestartAnswered start events)
    (ran : run dualCoreStep start events = some last) (returned : last.core0 = .loop) :
    StreamKept start last ↔
      StaleAnswer start ∧ Guarded dualCoreStep LeavesStream start events := by
  constructor
  · intro kept
    exact ⟨staleAnswer_of_streamKept running called answered ran returned kept,
      leavesStream_of_streamKept called answered ran kept⟩
  · rintro ⟨-, leaves⟩
    exact streamKept_of_leavesStream running called answered leaves ran returned

/-- The step with which Core 0 calls and runs `restartI2S`. -/
def restarting : DualCoreEvent :=
  .core0 ⟨.restartI2S, false, true, false, none⟩

/-- Core 0 has taken an earlier answer for its own, and Core 1 ends its pass
and exits. -/
def restartBehindLateAnswer : List DualCoreEvent :=
  List.replicate 13 restarting ++ List.replicate 11 streaming ++ List.replicate 7 restarting

/-- After a late answer a stream is restarted and goes on. -/
theorem streamKept_restartBehindLateAnswer :
    ∃ start last, run dualCoreStep (DualCore.boot 1024) (lateAnswer ++ [restarting]) =
        some start ∧
      run dualCoreStep start restartBehindLateAnswer = some last ∧
      StreamKept start last ∧ last.shared.tasksCreated = 2 := by
  obtain ⟨start, last, played, running, called, done, answered, leaves, ran, returned, created⟩ :
      ∃ start last, run dualCoreStep (DualCore.boot 1024) (lateAnswer ++ [restarting]) =
          some start ∧
        StreamRunning start ∧ start.core0 = .restartReadStreaming ∧
        start.shared.streamCleanupDone = true ∧
        Guarded dualCoreStep RestartAnswered start restartBehindLateAnswer ∧
        Guarded dualCoreStep LeavesStream start restartBehindLateAnswer ∧
        run dualCoreStep start restartBehindLateAnswer = some last ∧
        last.core0 = .loop ∧ last.shared.tasksCreated = 2 :=
    ⟨_, _, rfl, ⟨rfl, rfl, rfl, 0, _, rfl, rfl⟩, rfl, rfl, by decide, by decide, rfl, rfl, rfl⟩
  exact ⟨start, last, played, ran, (streamKept_iff_leavesStream start last
    restartBehindLateAnswer running called answered ran returned).mpr
      ⟨Or.inl done, leaves⟩, created⟩

/-- A client plays, and Core 0 calls `restartI2S`. -/
def callRestart : List DualCoreEvent :=
  startPlaying ++ [restarting]

/-- Core 0 asks, Core 1 answers, Core 0 ends the task, Core 1 exits, and Core 0
goes on. -/
def restartWhilePlaying : List DualCoreEvent :=
  List.replicate 5 restarting ++ List.replicate 17 streaming ++
    List.replicate 9 restarting ++ List.replicate 5 streaming ++
    List.replicate 3 restarting

/-- Core 1 answers and exits in time, and the client is gone. -/
theorem stream_lost_by_restartI2S :
    ∃ start last, run dualCoreStep (DualCore.boot 1024) callRestart = some start ∧
      StreamRunning start ∧ start.core0 = .restartReadStreaming ∧
      Guarded dualCoreStep RestartAnswered start restartWhilePlaying ∧
      run dualCoreStep start restartWhilePlaying = some last ∧
      last.core0 = .loop ∧ ¬ StreamKept start last := by
  obtain ⟨start, last, played, running, called, answered, ran, returned, lost⟩ :
      ∃ start last, run dualCoreStep (DualCore.boot 1024) callRestart = some start ∧
        StreamRunning start ∧ start.core0 = .restartReadStreaming ∧
        Guarded dualCoreStep RestartAnswered start restartWhilePlaying ∧
        run dualCoreStep start restartWhilePlaying = some last ∧
        last.core0 = .loop ∧ last.shared.connected = false :=
    ⟨_, _, rfl, ⟨rfl, rfl, rfl, 0, _, rfl, rfl⟩, rfl, by decide, rfl, rfl, rfl⟩
  refine ⟨start, last, played, running, called, answered, ran, returned, fun kept => ?_⟩
  rw [kept.connected] at lost
  cases lost

end EchoMic
