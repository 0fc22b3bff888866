import EchoMic.StreamRestart

/-!
# Who draws on the LED

PLAY takes the LED for Core 1 before it sets `isStreaming`, and Core 1 gives
it back when it has cleared `isStreaming`.  Between these two writes of Core 1
the next client may already play.  This file proves that the LED is never
drawn by both cores as long as no PLAY falls between them, and shows what
happens when one does.
-/

namespace EchoMic

open GuardedRuns TaskTable

/-- The next step of Core 0 draws. -/
def Core0Pc.draws : Core0Pc → Bool
  | .sessionDrawLed | .teardownDrawLed | .disabledDrawLed => true
  | _ => false

/-- The task has cleared `isStreaming` and has yet to clear `core1OwnsLED`. -/
def TaskPc.owesLed : TaskPc → Bool
  | .stopClearLed | .dropClearLed | .teardownClearLed => true
  | _ => false

/-- A task that is about to draw owns the LED, and Core 0 is not about to
draw. -/
structure LedExclusive (system : DualCore) : Prop where
  owned : ∀ id task, system.tasks id = some task → task.pc = .drawLed →
    system.shared.core1OwnsLED = true
  alone : ∀ id task, system.tasks id = some task → task.pc = .drawLed →
    system.core0.draws = false

/-- Every stop request is acknowledged within three seconds, and every task
exits within two. -/
structure DeadlinesKept (system : DualCore) (event : DualCoreEvent) : Prop where
  exits : TaskExitsInTime system event
  answers : ∀ env, event = .core0 env → system.core0.phase = .polling →
    system.shared.streamCleanupDone = false → env.expired = false

/-- PLAY does not take the LED while a task still has to give it back. -/
def TakesLedInTurn (system : DualCore) (event : DualCoreEvent) : Prop :=
  ∀ env, event = .core0 env → system.core0 = .playOwnLed →
    ∀ id task, system.tasks id = some task → task.pc.owesLed = false

/-! ## The invariant -/

/-- Core 0 has taken the LED and is about to set `isStreaming`. -/
def Core0Pc.playing : Core0Pc → Bool
  | .playSetClient | .playSetStreaming => true
  | _ => false

/-- The socket is closed, or a pointer to it is set and no task is about to
clear that pointer. -/
def ClientHeld (system : DualCore) : Prop :=
  system.shared.rtspClient = none ∨
    system.shared.streamClient = true ∧
      ∀ id task, system.tasks id = some task → task.pc.isClosing = false

structure LedOwned (system : DualCore) : Prop where
  answered : StreamAnswered system
  streaming : system.shared.isStreaming = true → system.shared.core1OwnsLED = true
  playing : system.core0.playing = true → system.shared.core1OwnsLED = true
  draws : system.core0.draws = true → system.shared.core1OwnsLED = false
  owes : ∀ id task, system.tasks id = some task → task.pc.owesLed = true →
    system.shared.isStreaming = false ∧ system.core0.playing = false
  handedOver : system.core0 = .playSetStreaming → system.shared.streamClient = true
  held : system.shared.isStreaming = true → ClientHeld system
  -- A `restartI2S` finds the socket closed before it could resume.
  resumes : system.core0.resumes = true → system.shared.rtspClient = none ∨
    system.core0.isAsking = true ∧ system.shared.isStreaming = true ∧
      system.shared.streamCleanupDone = false
  notResumed : system.core0.resumed = false

theorem ledOwned_boot (currentBufferSize : Nat) :
    LedOwned (DualCore.boot currentBufferSize) where
  answered := streamAnswered_boot currentBufferSize
  streaming := fun impossible => absurd impossible Bool.false_ne_true
  playing := fun impossible => absurd impossible Bool.false_ne_true
  draws := fun _ => rfl
  owes := fun _ _ impossible => nomatch impossible
  handedOver := fun impossible => nomatch impossible
  held := fun impossible => absurd impossible Bool.false_ne_true
  resumes := fun impossible => absurd impossible Bool.false_ne_true
  notResumed := rfl

theorem LedOwned.exclusive {system : DualCore} (owned : LedOwned system) :
    LedExclusive system := by
  have draw (id : Nat) (task : AudioTask) (live : system.tasks id = some task)
      (draws : task.pc = .drawLed) : system.shared.core1OwnsLED = true := by
    refine owned.streaming ((owned.answered.tasks id task live).active ?_)
    rw [draws]
    rfl
  refine ⟨draw, fun id task live draws => Bool.eq_false_iff.mpr fun core0Draws => ?_⟩
  have notOwned := owned.draws core0Draws
  rw [draw id task live draws] at notOwned
  cases notOwned

/-! ## Steps of Core 0 -/

section Core0

variable {shared : Shared} {pc : Core0Pc} (env : Core0Env)

theorem core0Step_led :
    (core0Step env shared pc).1.core1OwnsLED = shared.core1OwnsLED ∨ pc = .playOwnLed ∨
      ∃ caller, pc = .requestClearLed caller := by
  cases pc <;> simp only [core0Step] <;> (repeat' split) <;> simp

@[simp]
theorem playing_afterRequest (caller : StopCaller) : caller.afterRequest.playing = false := by
  cases caller <;> rfl

@[simp]
theorem playing_afterStop (caller : StopCaller) : caller.afterStop.playing = false := by
  rcases afterStop_cases caller with after | after | after | after <;> rw [after] <;> rfl

@[simp]
theorem draws_afterRequest (caller : StopCaller) : caller.afterRequest.draws = false := by
  cases caller <;> rfl

@[simp]
theorem draws_afterStop (caller : StopCaller) : caller.afterStop.draws = false := by
  rcases afterStop_cases caller with after | after | after | after <;> rw [after] <;> rfl

theorem core0Step_playing (plays : (core0Step env shared pc).2.playing = true) :
    pc = .playOwnLed ∨ pc = .playSetClient := by
  cases pc <;> simp only [core0Step] at plays <;> (repeat' split at plays) <;> first
    | (simp at plays; done)
    | simp_all [Core0Pc.playing]

/-- Core 0 draws after it has found that Core 1 does not own the LED. -/
theorem core0Step_draws (draws : (core0Step env shared pc).2.draws = true) :
    (core0Step env shared pc).1.core1OwnsLED = false := by
  cases pc <;> simp only [core0Step] at draws ⊢ <;> (repeat' split at draws) <;> first
    | (simp at draws; done)
    | simp_all [Core0Pc.draws]

theorem core0Step_resumed (resumed : (core0Step env shared pc).2.resumed = true) :
    pc.resumed = true ∨ pc = .restartTestClient ∧ shared.connected = true := by
  cases pc <;> simp only [core0Step] at resumed <;> (repeat' split at resumed) <;> first
    | (simp at resumed; done)
    | simp_all [Core0Pc.resumed]

theorem core0Step_resumes (resumes : (core0Step env shared pc).2.resumes = true) :
    pc.resumes = true ∨ pc = .restartReadStreaming ∧ shared.isStreaming = true := by
  cases pc <;> simp only [core0Step] at resumes <;> (repeat' split at resumes) <;> first
    | exact Or.inl resumes
    | exact absurd resumes Bool.false_ne_true
    | exact Or.inl ((resumes_afterRequest _).symm.trans resumes)
    | exact Or.inl ((resumes_afterStop _).symm.trans resumes)
    | exact Or.inr ⟨rfl, resumes⟩

end Core0

/-! ## Steps of the task -/

section Core1

variable {shared : Shared} {task next : AudioTask} (env : TaskEnv)

theorem taskStep_led :
    (taskStep env shared task).1.core1OwnsLED = shared.core1OwnsLED ∨
      task.pc.owesLed = true ∨ task.pc.isExit = true := by
  cases pc : task.pc <;> simp [taskStep, pc, TaskPc.owesLed, TaskPc.isExit]

/-- The task never takes the LED. -/
theorem taskStep_notOwned (notOwned : shared.core1OwnsLED = false) :
    (taskStep env shared task).1.core1OwnsLED = false := by
  cases pc : task.pc <;> simp only [taskStep, pc, notOwned]

theorem taskStep_streamClient :
    (taskStep env shared task).1.streamClient = shared.streamClient ∨
      task.pc.isClosing = true := by
  cases pc : task.pc <;> simp [taskStep, pc, TaskPc.isClosing]

/-- The task comes to owe the LED when it clears `isStreaming`. -/
theorem taskStep_owesLed (continues : (taskStep env shared task).2 = some next)
    (owes : next.pc.owesLed = true) :
    (taskStep env shared task).1.isStreaming = false ∧ task.pc.isClosing = true := by
  cases pc : task.pc <;>
    simp only [taskStep, pc, AudioTask.goto, AudioTask.continue] at continues ⊢ <;>
    (repeat' split at continues) <;> cases continues <;>
    simp_all [TaskPc.owesLed, TaskPc.isClosing]

end Core1

theorem phase_of_isClosing {pc : TaskPc} (closes : pc.isClosing = true) :
    pc.phase = .active ∨ pc.phase = .stopping := by
  cases pc <;> first
    | exact Or.inl rfl
    | exact Or.inr rfl
    | cases closes

theorem phase_of_playing {pc : Core0Pc} (plays : pc.playing = true) : pc.phase = .owning := by
  cases pc <;> first | rfl | cases plays

theorem notClosing_of_playing {pc : Core0Pc} (plays : pc.playing = true) :
    pc.isClosing = false := by
  cases pc <;> first | rfl | cases plays

/-- While a stream runs, Core 0 is neither ending it nor using the socket. -/
theorem FlagsOwned.ofStreaming {shared : Shared} {core0 : Core0Pc}
    (flags : FlagsOwned shared core0) (streaming : shared.isStreaming = true) :
    core0.isClosing = false ∧ core0.phase ≠ .owning := by
  constructor
  · refine Bool.of_not_eq_true fun closing => ?_
    rw [flags.closing closing] at streaming
    cases streaming
  · intro owns
    rw [flags.owning owns] at streaming
    cases streaming

/-- While Core 0 owns the socket, no task is closing it. -/
theorem StreamAnswered.notClosing_of_owning {system : DualCore}
    (answered : StreamAnswered system) (owns : system.core0.phase = .owning) {id : Nat}
    {task : AudioTask} (live : system.tasks id = some task) : task.pc.isClosing = false := by
  have fits := answered.tasks id task live
  refine Bool.of_not_eq_true fun closes => ?_
  rcases phase_of_isClosing closes with active | stopping
  · exact (answered.flags.ofStreaming (fits.active active)).2 owns
  · have polling := (fits.stopping stopping).1
    rw [owns] at polling
    cases polling

/-- A stream runs, or Core 0 is about to start one. -/
def UsesLed (system : DualCore) : Prop :=
  system.shared.isStreaming = true ∨ system.core0.playing = true

section UsesLed

variable {system : DualCore} (owned : LedOwned system) (uses : UsesLed system)

include owned uses

theorem LedOwned.led : system.shared.core1OwnsLED = true := by
  rcases uses with streaming | plays
  · exact owned.streaming streaming
  · exact owned.playing plays

theorem LedOwned.notClosing : system.core0.isClosing = false := by
  rcases uses with streaming | plays
  · exact (owned.answered.flags.ofStreaming streaming).1
  · exact notClosing_of_playing plays

theorem LedOwned.owesNone {id : Nat} {task : AudioTask} (live : system.tasks id = some task) :
    task.pc.owesLed = false := by
  refine Bool.of_not_eq_true fun owes => ?_
  obtain ⟨cleared, notPlaying⟩ := owned.owes id task live owes
  rcases uses with streaming | plays
  · rw [streaming] at cleared
    cases cleared
  · rw [plays] at notPlaying
    cases notPlaying

end UsesLed

/-! ## Every step keeps the LED owned -/

section Core0Owned

variable {system : DualCore} {env : Core0Env} (owned : LedOwned system)

include owned

theorem LedOwned.setsStreaming
    (streaming : (core0Step env system.shared system.core0).1.isStreaming = true) :
    system.shared.isStreaming = true ∨ system.core0 = .playSetStreaming := by
  rcases core0Step_setsStreaming env streaming with before | plays | resumed
  · exact Or.inl before
  · exact Or.inr plays
  · have notResumed := owned.notResumed
    rw [resumed] at notResumed
    cases notResumed

theorem LedOwned.usesLed
    (streaming : (core0Step env system.shared system.core0).1.isStreaming = true) :
    UsesLed system := by
  rcases owned.setsStreaming streaming with before | plays
  · exact Or.inl before
  · exact Or.inr (by rw [plays]; rfl)

theorem LedOwned.opensNone (streaming : system.shared.isStreaming = true) :
    system.core0 ≠ .acceptAssign := by
  intro opens
  exact (owned.answered.flags.ofStreaming streaming).2 (by rw [opens]; rfl)

theorem streaming_core0
    (streaming : (core0Step env system.shared system.core0).1.isStreaming = true) :
    (core0Step env system.shared system.core0).1.core1OwnsLED = true := by
  have uses := owned.usesLed streaming
  rcases core0Step_led env with same | takes | ⟨caller, clears⟩
  · exact same.trans (owned.led uses)
  · rw [takes]
    rfl
  · -- A request that times out has cleared `isStreaming` before.
    have notClosing := owned.notClosing uses
    rw [clears] at notClosing
    cases notClosing

theorem playing_core0 (plays : (core0Step env system.shared system.core0).2.playing = true) :
    (core0Step env system.shared system.core0).1.core1OwnsLED = true := by
  rcases core0Step_playing env plays with takes | sets
  · rw [takes]
    rfl
  · have led := owned.playing (by rw [sets]; rfl)
    rw [sets]
    exact led

omit owned in
theorem handedOver_core0
    (sets : (core0Step env system.shared system.core0).2 = .playSetStreaming) :
    (core0Step env system.shared system.core0).1.streamClient = true := by
  rcases core0Step_playing env (by rw [sets]; rfl) with takes | setsClient
  · rw [takes] at sets
    cases sets
  · rw [setsClient]
    rfl

theorem owes_core0 (turn : TakesLedInTurn system (.core0 env)) {id : Nat} {task : AudioTask}
    (live : system.tasksAfter env id = some task) (owes : task.pc.owesLed = true) :
    (core0Step env system.shared system.core0).1.isStreaming = false ∧
      (core0Step env system.shared system.core0).2.playing = false := by
  rcases DualCore.tasksAfter_cases live with before | ⟨-, -, rfl⟩
  · obtain ⟨cleared, notPlaying⟩ := owned.owes id task before owes
    constructor
    · refine Bool.of_not_eq_true fun streaming => ?_
      rcases owned.setsStreaming streaming with running | plays
      · rw [running] at cleared
        cases cleared
      · rw [plays] at notPlaying
        cases notPlaying
    · refine Bool.of_not_eq_true fun plays => ?_
      rcases core0Step_playing env plays with takes | sets
      · rw [turn env rfl takes id task before] at owes
        cases owes
      · rw [sets] at notPlaying
        cases notPlaying
  · cases owes

theorem held_core0
    (streaming : (core0Step env system.shared system.core0).1.isStreaming = true) :
    ClientHeld
      { shared := (core0Step env system.shared system.core0).1
        core0 := (core0Step env system.shared system.core0).2
        tasks := system.tasksAfter env } := by
  have keepsTasks (notClosing : ∀ id task, system.tasks id = some task →
      task.pc.isClosing = false) (id : Nat) (task : AudioTask)
      (live : system.tasksAfter env id = some task) : task.pc.isClosing = false := by
    rcases DualCore.tasksAfter_cases live with before | ⟨-, -, rfl⟩
    · exact notClosing id task before
    · rfl
  rcases owned.setsStreaming streaming with before | plays
  · rcases owned.held before with closed | ⟨client, notClosing⟩
    · exact Or.inl (core0Step_rtspClient env _ _ (owned.opensNone before) closed)
    · exact Or.inr ⟨core0Step_client env (owned.notClosing (Or.inl before)) client,
        keepsTasks notClosing⟩
  · refine Or.inr ⟨?_, keepsTasks fun id task live =>
      owned.answered.notClosing_of_owning (by rw [plays]; rfl) live⟩
    have client := owned.handedOver plays
    rw [plays]
    exact client

theorem resumes_core0 (deadlines : DeadlinesKept system (.core0 env))
    (resumes : (core0Step env system.shared system.core0).2.resumes = true) :
    (core0Step env system.shared system.core0).1.rtspClient = none ∨
      (core0Step env system.shared system.core0).2.isAsking = true ∧
        (core0Step env system.shared system.core0).1.isStreaming = true ∧
        (core0Step env system.shared system.core0).1.streamCleanupDone = false := by
  rcases core0Step_resumes env resumes with before | ⟨reads, streaming⟩
  · rcases owned.resumes before with closed | ⟨asking, streaming, notDone⟩
    · refine Or.inl (core0Step_rtspClient env _ _ (fun opens => ?_) closed)
      rw [opens] at before
      cases before
    · have notExpired (caller : StopCaller) (polls : system.core0 = .requestPoll caller) :
          env.expired = false :=
        deadlines.answers env rfl (by rw [polls]; rfl) notDone
      obtain ⟨stillAsking, stillStreaming, -, stillNotDone⟩ :=
        core0Step_isAsking env system.shared system.core0 asking streaming notDone notExpired
      exact Or.inr ⟨stillAsking, stillStreaming, stillNotDone⟩
  · have notDone : system.shared.streamCleanupDone = false := by
      refine Bool.of_not_eq_true fun done => ?_
      have asked := owned.answered.flags.done done
      simp [reads, Core0Pc.phase] at asked
    rw [reads]
    exact Or.inr ⟨rfl, streaming, notDone⟩

theorem notResumed_core0 : (core0Step env system.shared system.core0).2.resumed = false := by
  refine Bool.of_not_eq_true fun resumed => ?_
  rcases core0Step_resumed env resumed with before | ⟨tests, connected⟩
  · rw [owned.notResumed] at before
    cases before
  · rcases owned.resumes (by rw [tests]; rfl) with closed | ⟨asking, -⟩
    · rw [Shared.connected, closed] at connected
      cases connected
    · rw [tests] at asking
      cases asking

end Core0Owned

section Core1Owned

variable {system : DualCore} {env : TaskEnv} {id : Nat} {task : AudioTask}
variable (owned : LedOwned system) (live : system.tasks id = some task)

include owned live

/-- While a stream is running or about to run, the task does not give the LED
back. -/
theorem keepsLed_core1 (uses : UsesLed system) :
    (taskStep env system.shared task).1.core1OwnsLED = true := by
  rcases taskStep_led env with same | owes | exits
  · exact same.trans (owned.led uses)
  · rw [owned.owesNone uses live] at owes
    cases owes
  · have closing := isClosing_of_isStopTake
      (owned.answered.lifecycle.told id task live (Or.inl exits))
    rw [owned.notClosing uses] at closing
    cases closing

theorem owes_core1 {next : AudioTask}
    (continues : (taskStep env system.shared task).2 = some next)
    (owes : next.pc.owesLed = true) :
    (taskStep env system.shared task).1.isStreaming = false ∧
      system.core0.playing = false := by
  obtain ⟨cleared, closes⟩ := taskStep_owesLed env continues owes
  refine ⟨cleared, Bool.of_not_eq_true fun plays => ?_⟩
  have notClosing := owned.answered.notClosing_of_owning (phase_of_playing plays) live
  rw [closes] at notClosing
  cases notClosing

theorem held_core1 (streaming : (taskStep env system.shared task).1.isStreaming = true) :
    ClientHeld
      { system with
        shared := (taskStep env system.shared task).1
        tasks := Function.update system.tasks id (taskStep env system.shared task).2 } := by
  rcases owned.held (taskStep_streaming env streaming) with closed | ⟨client, notClosing⟩
  · exact Or.inl (taskStep_rtspClient env _ _ closed)
  · rcases taskStep_isClosing env _ task (notClosing id task live) client with
      closes | ⟨-, sameClient, -, nextNotClosing⟩
    · exact Or.inl closes
    · exact Or.inr ⟨sameClient.trans client, TaskTable.every_update
        (fun other otherTask _ before => notClosing other otherTask before) nextNotClosing⟩

theorem resumes_core1 (resumes : system.core0.resumes = true) :
    (taskStep env system.shared task).1.rtspClient = none ∨
      system.core0.isAsking = true ∧
        (taskStep env system.shared task).1.isStreaming = true ∧
        (taskStep env system.shared task).1.streamCleanupDone = false := by
  rcases owned.resumes resumes with closed | ⟨asking, streaming, notDone⟩
  · exact Or.inl (taskStep_rtspClient env _ _ closed)
  · rcases owned.held streaming with closed | ⟨client, notClosing⟩
    · exact Or.inl (taskStep_rtspClient env _ _ closed)
    · rcases taskStep_isClosing env _ task (notClosing id task live) client with
        closes | ⟨sameStreaming, -, sameDone, -⟩
      · exact Or.inl closes
      · exact Or.inr ⟨asking, sameStreaming.trans streaming, sameDone.trans notDone⟩

end Core1Owned

theorem requestAnswered_of_deadlinesKept {system : DualCore} {event : DualCoreEvent}
    (deadlines : DeadlinesKept system event) : RequestAnswered system event := by
  intro env isCore0 polling notDone expired
  rw [deadlines.answers env isCore0 polling notDone] at expired
  cases expired

theorem ledOwned_step {system next : DualCore} {event : DualCoreEvent}
    (owned : LedOwned system) (deadlines : DeadlinesKept system event)
    (turn : TakesLedInTurn system event)
    (stepped : dualCoreStep system event = some next) : LedOwned next := by
  have answered := streamAnswered_step owned.answered deadlines.exits
    (requestAnswered_of_deadlinesKept deadlines) stepped
  cases event with
  | core0 env =>
      cases stepped
      exact ⟨answered, streaming_core0 owned, playing_core0 owned, core0Step_draws env,
        fun id task => owes_core0 owned turn, handedOver_core0, held_core0 owned,
        resumes_core0 owned deadlines, notResumed_core0 owned⟩
  | core1 id env =>
      obtain ⟨task, live, rfl⟩ := dualCoreStep_core1 stepped
      refine ⟨answered,
        fun streaming => keepsLed_core1 owned live (Or.inl (taskStep_streaming env streaming)),
        fun plays => keepsLed_core1 owned live (Or.inr plays),
        fun draws => taskStep_notOwned env (owned.draws draws),
        fun other next otherLive owes => ?_, fun sets => ?_, held_core1 owned live,
        resumes_core1 owned live, owned.notResumed⟩
      · rcases update_cases otherLive with ⟨-, continues⟩ | ⟨differs, before⟩
        · exact owes_core1 owned live continues owes
        · exact absurd (owned.answered.lifecycle.only live before) differs
      · have owns : system.core0.phase = .owning := by
          rw [sets]
          rfl
        rcases taskStep_streamClient env with same | closes
        · exact same.trans (owned.handedOver sets)
        · have notClosing := owned.answered.notClosing_of_owning owns live
          rw [closes] at notClosing
          cases notClosing
  | peerCloses =>
      cases stepped
      exact ⟨answered, owned.streaming, owned.playing, owned.draws, owned.owes,
        owned.handedOver, owned.held, owned.resumes, owned.notResumed⟩

/-- The LED is never drawn by both cores, in every state of a run in which the
deadlines are kept and every PLAY takes the LED in turn. -/
theorem ledExclusive_of_guarded (currentBufferSize : Nat) (events : List DualCoreEvent)
    (last : DualCore)
    (deadlines : Guarded dualCoreStep DeadlinesKept (DualCore.boot currentBufferSize) events)
    (turn : Guarded dualCoreStep TakesLedInTurn (DualCore.boot currentBufferSize) events)
    (ran : run dualCoreStep (DualCore.boot currentBufferSize) events = some last) :
    LedExclusive last := by
  have owned : LedOwned last :=
    @invariant_of_guarded DualCore DualCoreEvent dualCoreStep
      (fun system event => DeadlinesKept system event ∧ TakesLedInTurn system event) LedOwned
      (fun _ _ _ owned kept => ledOwned_step owned kept.1 kept.2) _ last events
      (ledOwned_boot currentBufferSize) (deadlines.and turn) ran
  exact owned.exclusive

theorem deadlinesKept_of_inTime {event : DualCoreEvent} (inTime : event.inTime = true)
    (system : DualCore) : DeadlinesKept system event where
  exits := taskExitsInTime_of_inTime inTime system
  answers := by
    rintro env rfl - -
    simpa [DualCoreEvent.inTime] using inTime

theorem guarded_of_all_inTime {events : List DualCoreEvent}
    (inTime : events.all DualCoreEvent.inTime = true) (start : DualCore) :
    Guarded dualCoreStep DeadlinesKept start events :=
  guarded_of_forall_mem (fun event member system =>
    deadlinesKept_of_inTime (List.all_eq_true.mp inTime event member) system) start

/-- A block is read and processed behind the start of a stream. -/
def playToDraw : List DualCoreEvent :=
  startPlaying ++ List.replicate 2 (.core1 0 ⟨true, 256, false, false, none⟩)

theorem led_owned_at_draw :
    ∃ last, run dualCoreStep (DualCore.boot 1024) playToDraw = some last ∧
      (∃ task, last.tasks 0 = some task ∧ task.pc = .drawLed) ∧ LedExclusive last := by
  obtain ⟨last, ran, draws⟩ :
      ∃ last, run dualCoreStep (DualCore.boot 1024) playToDraw = some last ∧
        ∃ task, last.tasks 0 = some task ∧ task.pc = .drawLed := ⟨_, rfl, _, rfl, rfl⟩
  have core1Turn (system : DualCore) (id : Nat) (env : TaskEnv) :
      TakesLedInTurn system (.core1 id env) := fun _ impossible => nomatch impossible
  have turn : Guarded dualCoreStep TakesLedInTurn (DualCore.boot 1024) playToDraw := by
    refine Guarded.followedBy (guarded_startPlaying (fun system event noTask => ?_) core1Turn)
      rfl (guarded_of_forall_mem (fun event member system => ?_) _)
    · rintro env - - id task live
      exact absurd noTask (not_noTask live)
    · rw [List.eq_of_mem_replicate member]
      exact core1Turn system 0 _
  exact ⟨last, ran, draws, ledExclusive_of_guarded 1024 playToDraw last
    (guarded_of_all_inTime (by decide) _) turn ran⟩

/-- The client goes away, the next one plays between the last two writes of
the disconnect, and Core 1 goes on to its next block. -/
def playBetweenReleases : List DualCoreEvent :=
  startPlaying ++ [.peerCloses] ++
    List.replicate 7 (.core1 0 ⟨true, 256, false, false, none⟩) ++
    List.replicate 16 playing ++
    List.replicate 10 (.core1 0 ⟨true, 256, false, false, none⟩)

/-- The late write of the disconnect takes the LED from the next stream. -/
theorem led_lost_to_late_release :
    ∃ last, Guarded dualCoreStep DeadlinesKept (DualCore.boot 1024) playBetweenReleases ∧
      run dualCoreStep (DualCore.boot 1024) playBetweenReleases = some last ∧
      ¬ LedExclusive last := by
  refine ⟨_, guarded_of_all_inTime (by decide) _, rfl, fun exclusive => ?_⟩
  exact absurd (exclusive.owned 0 _ rfl rfl) (by decide)

end EchoMic
