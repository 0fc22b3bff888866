import EchoMic.SocketOwnership

/-!
# Confirmed stops

`streamCleanupDone` does not say which request it answers.  An answer is of
the request that reads it as long as Core 0 does not leave a request while a
task is still in its stop branch.
-/

namespace EchoMic

open GuardedRuns TaskTable

/-! ## What a returned confirmation means -/

/-- On whose behalf Core 0 has set `stopStreamRequested` and not yet finished
the request. -/
def Core0Pc.asked : Core0Pc → Option StopCaller
  | .requestPoll caller | .requestDecide caller => some caller
  | .requestClearStreaming caller _ | .requestClearClient caller _ => some caller
  | .requestClearRequested caller _ | .requestClearDone caller _ => some caller
  | _ => none

/-- The next step of Core 0 is the one with which `requestStreamStop` returns
true. -/
def ReturnsTrue (caller : StopCaller) (system : DualCore) : Prop :=
  system.core0 = .requestTestClient caller ∧ system.shared.streamClient = false ∨
    system.core0 = .requestClearDone caller true

/-- The call has found `isStreaming` cleared, has come to its second test
since, and finds no client there. -/
def FoundNoStream (start : DualCore) (events : List DualCoreEvent) (last : DualCore)
    (caller : StopCaller) : Prop :=
  (∃ before env after called tested, events = before ++ .core0 env :: after ∧
    run dualCoreStep start before = some called ∧
    called.core0 = .requestTestStreaming caller ∧ called.shared.isStreaming = false ∧
    dualCoreStep called (.core0 env) = some tested ∧
    Throughout dualCoreStep (fun state => state.core0 = .requestTestClient caller)
      tested after) ∧
  last.shared.isStreaming = false ∧ last.shared.streamClient = false

def DualCore.TaskAt (system : DualCore) (id : Nat) (pc : TaskPc) : Prop :=
  ∃ task, system.tasks id = some task ∧ task.pc = pc

def DualCore.Stopping (system : DualCore) (id : Nat) : Prop :=
  ∃ task, system.tasks id = some task ∧ task.pc.phase = .stopping

/-- Between two states the task goes through its stop branch, from the test
of `stopStreamRequested` to the assignment of `streamCleanupDone`. -/
def RunsStopBranch (id : Nat) (start : DualCore) (events : List DualCoreEvent)
    (last : DualCore) : Prop :=
  ∃ testEnv within doneEnv begun confirming,
    events = .core1 id testEnv :: (within ++ [.core1 id doneEnv]) ∧
    start.TaskAt id .stopTest ∧ start.shared.stopStreamRequested = true ∧
    dualCoreStep start (.core1 id testEnv) = some begun ∧
    Throughout dualCoreStep (fun state => state.Stopping id) begun within ∧
    run dualCoreStep begun within = some confirming ∧
    confirming.TaskAt id .stopSetDone ∧
    dualCoreStep confirming (.core1 id doneEnv) = some last

/-- The call has set `stopStreamRequested`, a task has gone through its stop
branch since, and Core 0 has not left the call. -/
def StoppedInCall (start : DualCore) (events : List DualCoreEvent)
    (caller : StopCaller) : Prop :=
  ∃ before env polls branch after asking asked testing confirmed id,
    events = before ++ .core0 env :: (polls ++ (branch ++ after)) ∧
    run dualCoreStep start before = some asking ∧
    asking.core0 = .requestSetRequested caller ∧
    dualCoreStep asking (.core0 env) = some asked ∧
    run dualCoreStep asked polls = some testing ∧
    RunsStopBranch id testing branch confirmed ∧
    Throughout dualCoreStep (fun state => state.core0.asked = some caller) asked
      (polls ++ (branch ++ after))

/-- Core 0 does not finish a request while a task is in its stop branch. -/
def AnswersInTime (system : DualCore) : DualCoreEvent → Prop
  | .core0 _ => ∀ caller confirmed, system.core0 = .requestClearDone caller confirmed →
      ∀ id, ¬ system.Stopping id
  | _ => True

/-! ## The invariant -/

def Core0Pc.confirms : Core0Pc → Bool
  | .requestClearStreaming _ confirmed | .requestClearClient _ confirmed => confirmed
  | .requestClearRequested _ confirmed | .requestClearDone _ confirmed => confirmed
  | _ => false

/-- Stopping tasks and answers exist only during a request. -/
structure AnswersFresh (system : DualCore) : Prop where
  flags : FlagsOwned system.shared system.core0
  stopping : ∀ id, system.Stopping id → system.core0.asked.isSome = true
  confirmed : system.core0.confirms = true → system.shared.streamCleanupDone = true

theorem answersFresh_boot (currentBufferSize : Nat) :
    AnswersFresh (DualCore.boot currentBufferSize) where
  flags := (socketOwned_boot currentBufferSize).flags
  stopping := fun _ ⟨_, impossible, _⟩ => nomatch impossible
  confirmed := fun impossible => nomatch impossible

theorem asked_isSome_iff (pc : Core0Pc) :
    pc.asked.isSome = true ↔
      pc.phase = .polling ∨ pc.phase = .answered ∨ pc.phase = .clearing := by
  cases pc <;> simp [Core0Pc.asked, Core0Pc.phase]

section Core0

variable {shared : Shared} {pc : Core0Pc} (env : Core0Env)

@[simp]
theorem asked_afterRequest (caller : StopCaller) : caller.afterRequest.asked = none := by
  cases caller <;> rfl

@[simp]
theorem asked_afterStop (caller : StopCaller) : caller.afterStop.asked = none := by
  rcases afterStop_cases caller with after | after | after | after <;> rw [after] <;> rfl

@[simp]
theorem confirms_afterRequest (caller : StopCaller) : caller.afterRequest.confirms = false := by
  cases caller <;> rfl

@[simp]
theorem confirms_afterStop (caller : StopCaller) : caller.afterStop.confirms = false := by
  rcases afterStop_cases caller with after | after | after | after <;> rw [after] <;> rfl

@[simp]
theorem afterRequest_ne_requestTestClient (caller other : StopCaller) :
    caller.afterRequest ≠ .requestTestClient other := by
  cases caller <;> nofun

@[simp]
theorem afterStop_ne_requestTestClient (caller other : StopCaller) :
    caller.afterStop ≠ .requestTestClient other := by
  rcases afterStop_cases caller with after | after | after | after <;> rw [after] <;> nofun

/-- A request is left only by its last step. -/
theorem core0Step_asked {caller : StopCaller} (inRequest : pc.asked = some caller) :
    (core0Step env shared pc).2.asked = some caller ∨
      ∃ confirmed, pc = .requestClearDone caller confirmed := by
  cases pc <;> first
    | cases inRequest; simp only [core0Step]; (repeat' split) <;> simp [Core0Pc.asked]
    | cases inRequest

/-- A request begins with setting `stopStreamRequested`. -/
theorem core0Step_asks {caller : StopCaller}
    (asks : (core0Step env shared pc).2.asked = some caller) :
    pc.asked = some caller ∨ pc = .requestSetRequested caller := by
  cases pc <;> simp only [core0Step] at asks <;> (repeat' split at asks) <;> first
    | (simp at asks; done)
    | simp_all [Core0Pc.asked]

theorem core0Step_testsClient {caller : StopCaller}
    (tests : (core0Step env shared pc).2 = .requestTestClient caller) :
    pc = .requestTestStreaming caller ∧ shared.isStreaming = false := by
  cases pc <;> simp only [core0Step] at tests <;> (repeat' split at tests) <;> first
    | (simp at tests; done)
    | simp_all

theorem core0Step_confirms (confirmed : pc.confirms = true → shared.streamCleanupDone = true)
    (nextConfirms : (core0Step env shared pc).2.confirms = true) :
    (core0Step env shared pc).1.streamCleanupDone = true := by
  cases pc <;> simp only [core0Step] at nextConfirms ⊢ <;>
    (repeat' split at nextConfirms) <;> first
    | (simp at nextConfirms; done)
    | simp_all [Core0Pc.confirms]

end Core0

section Core1

variable {shared : Shared} {task next : AudioTask} (env : TaskEnv)

/-- A task enters its stop branch when it finds a request. -/
theorem taskStep_entersStop (notStopping : task.pc.phase ≠ .stopping)
    (continues : (taskStep env shared task).2 = some next)
    (stops : next.pc.phase = .stopping) :
    task.pc = .stopTest ∧ shared.stopStreamRequested = true := by
  cases pc : task.pc <;>
    simp only [taskStep, pc, AudioTask.goto, AudioTask.continue] at continues <;>
    (repeat' split at continues) <;> cases continues <;>
    simp_all [TaskPc.phase]

theorem taskStep_setsDone (notDone : shared.streamCleanupDone ≠ true)
    (done : (taskStep env shared task).1.streamCleanupDone = true) :
    task.pc = .stopSetDone := by
  cases pc : task.pc <;> simp_all [taskStep]

theorem taskStep_keepsDone (done : shared.streamCleanupDone = true) :
    (taskStep env shared task).1.streamCleanupDone = true := by
  cases pc : task.pc <;> simp only [taskStep, pc, done]

end Core1

/-! ## Every step keeps the answers fresh -/

theorem stopping_tasksAfter {system : DualCore} {env : Core0Env} {id : Nat}
    {task : AudioTask} (live : system.tasksAfter env id = some task)
    (stops : task.pc.phase = .stopping) : system.Stopping id := by
  rcases DualCore.tasksAfter_cases live with before | ⟨-, -, rfl⟩
  · exact ⟨task, before, stops⟩
  · cases stops

theorem answersFresh_core0 {system : DualCore} {env : Core0Env}
    (fresh : AnswersFresh system) (inTime : AnswersInTime system (.core0 env)) :
    AnswersFresh
      { shared := (core0Step env system.shared system.core0).1
        core0 := (core0Step env system.shared system.core0).2
        tasks := system.tasksAfter env } := by
  refine ⟨flagsOwned_core0 env fresh.flags, ?_, core0Step_confirms env fresh.confirmed⟩
  rintro id ⟨task, live, stops⟩
  have before := stopping_tasksAfter live stops
  obtain ⟨caller, inRequest⟩ := Option.isSome_iff_exists.mp (fresh.stopping id before)
  rcases core0Step_asked env inRequest with stays | ⟨confirmed, last⟩
  · rw [stays]
    rfl
  · exact absurd before (inTime caller confirmed last id)

theorem answersFresh_core1 {system : DualCore} {id : Nat} {task : AudioTask}
    (fresh : AnswersFresh system) (live : system.tasks id = some task) (env : TaskEnv) :
    AnswersFresh
      { system with
        shared := (taskStep env system.shared task).1
        tasks := Function.update system.tasks id (taskStep env system.shared task).2 } := by
  refine ⟨⟨?_, ?_, ?_, ?_, fresh.flags.teardown⟩, ?_, ?_⟩
  · rw [taskStep_stopStreamRequested]
    exact fresh.flags.requested
  · intro done
    rcases taskStep_done env done with before | ⟨stopping, -⟩
    · exact fresh.flags.done before
    · exact (asked_isSome_iff _).mp (fresh.stopping id ⟨task, live, stopping⟩)
  · exact fun closing => taskStep_isStreaming env _ _ (fresh.flags.closing closing)
  · exact fun owns => taskStep_isStreaming env _ _ (fresh.flags.owning owns)
  · rintro other ⟨otherTask, otherLive, stops⟩
    rcases update_cases otherLive with ⟨-, continues⟩ | ⟨-, before⟩
    · by_cases stopping : task.pc.phase = .stopping
      · exact fresh.stopping id ⟨task, live, stopping⟩
      · have requested := (taskStep_entersStop env stopping continues stops).2
        rcases fresh.flags.requested.mp requested with polling | answered
        · exact (asked_isSome_iff _).mpr (Or.inl polling)
        · exact (asked_isSome_iff _).mpr (Or.inr (Or.inl answered))
    · exact fresh.stopping other ⟨otherTask, before, stops⟩
  · exact fun confirms => taskStep_keepsDone env (fresh.confirmed confirms)

theorem answersFresh_step {system next : DualCore} {event : DualCoreEvent}
    (fresh : AnswersFresh system) (inTime : AnswersInTime system event)
    (stepped : dualCoreStep system event = some next) : AnswersFresh next := by
  cases event with
  | core0 env =>
      cases stepped
      exact answersFresh_core0 fresh inTime
  | core1 id env =>
      obtain ⟨task, live, rfl⟩ := dualCoreStep_core1 stepped
      exact answersFresh_core1 fresh live env
  | peerCloses =>
      cases stepped
      exact ⟨⟨fresh.flags.requested, fresh.flags.done, fresh.flags.closing,
        fresh.flags.owning, fresh.flags.teardown⟩, fresh.stopping, fresh.confirmed⟩

/-! ## From the answer back to the request -/

/-- Outside of a request nothing is confirmed and no task is stopping. -/
theorem AnswersFresh.quiet {system : DualCore} (fresh : AnswersFresh system)
    (notAsked : system.core0.asked = none) :
    system.shared.streamCleanupDone ≠ true ∧ ∀ id, ¬ system.Stopping id := by
  constructor
  · intro done
    have asked := (asked_isSome_iff _).mpr (fresh.flags.done done)
    rw [notAsked] at asked
    cases asked
  · intro id stopping
    have asked := fresh.stopping id stopping
    rw [notAsked] at asked
    cases asked

section Rises

variable {system next : DualCore} {event : DualCoreEvent}

theorem asks_of_step {caller : StopCaller} (stepped : dualCoreStep system event = some next)
    (before : ¬ system.core0.asked = some caller) (asks : next.core0.asked = some caller) :
    ∃ env, event = .core0 env ∧ system.core0 = .requestSetRequested caller := by
  cases event with
  | core0 env =>
      cases stepped
      rcases core0Step_asks env asks with asked | sets
      · exact absurd asked before
      · exact ⟨env, rfl, sets⟩
  | core1 id env =>
      obtain ⟨task, live, rfl⟩ := dualCoreStep_core1 stepped
      exact absurd asks before
  | peerCloses =>
      cases stepped
      exact absurd asks before

theorem testsClient_of_step {caller : StopCaller}
    (stepped : dualCoreStep system event = some next)
    (before : ¬ system.core0 = .requestTestClient caller)
    (tests : next.core0 = .requestTestClient caller) :
    ∃ env, event = .core0 env ∧ system.core0 = .requestTestStreaming caller ∧
      system.shared.isStreaming = false := by
  cases event with
  | core0 env =>
      cases stepped
      exact ⟨env, rfl, core0Step_testsClient env tests⟩
  | core1 id env =>
      obtain ⟨task, live, rfl⟩ := dualCoreStep_core1 stepped
      exact absurd tests before
  | peerCloses =>
      cases stepped
      exact absurd tests before

theorem stops_of_step {id : Nat} (stepped : dualCoreStep system event = some next)
    (before : ¬ system.Stopping id) (stops : next.Stopping id) :
    ∃ env, event = .core1 id env ∧ system.TaskAt id .stopTest ∧
      system.shared.stopStreamRequested = true := by
  obtain ⟨task, live, stopping⟩ := stops
  cases event with
  | core0 env =>
      cases stepped
      exact absurd (stopping_tasksAfter live stopping) before
  | core1 other env =>
      obtain ⟨otherTask, otherLive, rfl⟩ := dualCoreStep_core1 stepped
      rcases update_cases live with ⟨rfl, continues⟩ | ⟨-, unchanged⟩
      · have notStopping : otherTask.pc.phase ≠ .stopping :=
          fun stops => before ⟨otherTask, otherLive, stops⟩
        obtain ⟨atTest, requested⟩ := taskStep_entersStop env notStopping continues stopping
        exact ⟨env, rfl, ⟨otherTask, otherLive, atTest⟩, requested⟩
      · exact absurd ⟨task, unchanged, stopping⟩ before
  | peerCloses =>
      cases stepped
      exact absurd ⟨task, live, stopping⟩ before

theorem done_of_step (stepped : dualCoreStep system event = some next)
    (before : ¬ system.shared.streamCleanupDone = true)
    (done : next.shared.streamCleanupDone = true) :
    ∃ id env, event = .core1 id env ∧ system.TaskAt id .stopSetDone := by
  cases event with
  | core0 env =>
      cases stepped
      exact absurd (core0Step_done env done) before
  | core1 id env =>
      obtain ⟨task, live, rfl⟩ := dualCoreStep_core1 stepped
      exact ⟨id, env, rfl, task, live, taskStep_setsDone env before done⟩
  | peerCloses =>
      cases stepped
      exact absurd done before

end Rises

/-- Setting the request answers nothing and starts no stop branch. -/
theorem quiet_of_requestSetRequested {asking asked : DualCore} {env : Core0Env}
    {caller : StopCaller} (fresh : AnswersFresh asking)
    (sets : asking.core0 = .requestSetRequested caller)
    (stepped : dualCoreStep asking (.core0 env) = some asked) :
    ¬ asked.shared.streamCleanupDone = true ∧ ∀ id, ¬ asked.Stopping id := by
  obtain ⟨notDone, noneStopping⟩ := fresh.quiet (by rw [sets]; rfl)
  cases stepped
  constructor
  · exact fun done => notDone (core0Step_done env done)
  · rintro id ⟨task, live, stopping⟩
    exact noneStopping id (stopping_tasksAfter live stopping)

/-- A run that ends with a confirmation and did not begin with one contains
the stop branch of a task. -/
theorem runsStopBranch_of_done {asked last : DualCore} {rest : List DualCoreEvent}
    (notDone : ¬ asked.shared.streamCleanupDone = true)
    (noneStopping : ∀ id, ¬ asked.Stopping id)
    (ran : run dualCoreStep asked rest = some last)
    (done : last.shared.streamCleanupDone = true) :
    ∃ polls branch after testing confirmed id, rest = polls ++ (branch ++ after) ∧
      run dualCoreStep asked polls = some testing ∧
      RunsStopBranch id testing branch confirmed := by
  obtain ⟨_, _, after, confirming, confirmed, rfl, ranConfirming, notYet, confirms, since, -⟩ :=
    exists_rise (fun state => state.shared.streamCleanupDone = true) notDone ran done
  obtain ⟨id, doneEnv, rfl, task, live, setsDone⟩ := done_of_step confirms notYet since.start
  have stopping : confirming.Stopping id := ⟨task, live, by rw [setsDone]; rfl⟩
  obtain ⟨polls, _, within, testing, begun, rfl, ranTesting, notStopping, begins, stays,
    ranWithin⟩ :=
      exists_rise (fun state => state.Stopping id) (noneStopping id) ranConfirming stopping
  obtain ⟨testEnv, rfl, atTest, requested⟩ := stops_of_step begins notStopping stays.start
  refine ⟨polls, .core1 id testEnv :: (within ++ [.core1 id doneEnv]), after, testing,
    confirmed, id, by simp, ranTesting, ?_⟩
  exact ⟨testEnv, within, doneEnv, begun, confirming, rfl, atTest, requested, begins, stays,
    ranWithin, ⟨task, live, setsDone⟩, confirms⟩

theorem stoppedInCall_of_confirmed {currentBufferSize : Nat} {events : List DualCoreEvent}
    {last : DualCore} {caller : StopCaller}
    (inTime : Guarded dualCoreStep AnswersInTime (DualCore.boot currentBufferSize) events)
    (ran : run dualCoreStep (DualCore.boot currentBufferSize) events = some last)
    (fresh : AnswersFresh last) (confirmed : last.core0 = .requestClearDone caller true) :
    StoppedInCall (DualCore.boot currentBufferSize) events caller := by
  have done : last.shared.streamCleanupDone = true :=
    fresh.confirmed (by rw [confirmed]; rfl)
  have initially : ¬ (DualCore.boot currentBufferSize).core0.asked = some caller := nofun
  have inRequest : last.core0.asked = some caller := by rw [confirmed]; rfl
  obtain ⟨before, _, rest, asking, asked, rfl, ranBefore, notAsked, asks, since, ranRest⟩ :=
    exists_rise (fun state => state.core0.asked = some caller) initially ran inRequest
  obtain ⟨env, rfl, sets⟩ := asks_of_step asks notAsked since.start
  have freshAsking : AnswersFresh asking :=
    invariant_of_guarded (fun _ _ _ => answersFresh_step)
      (answersFresh_boot currentBufferSize) inTime.append.1 ranBefore
  obtain ⟨notDone, noneStopping⟩ := quiet_of_requestSetRequested freshAsking sets asks
  obtain ⟨polls, branch, after, testing, confirmed, id, rfl, ranPolls, runs⟩ :=
    runsStopBranch_of_done notDone noneStopping ranRest done
  exact ⟨before, env, polls, branch, after, asking, asked, testing, confirmed, id, rfl,
    ranBefore, sets, asks, ranPolls, runs, since⟩

theorem foundNoStream_of_testsClient {currentBufferSize : Nat} {events : List DualCoreEvent}
    {last : DualCore} {caller : StopCaller}
    (ran : run dualCoreStep (DualCore.boot currentBufferSize) events = some last)
    (fresh : AnswersFresh last) (tests : last.core0 = .requestTestClient caller)
    (noClient : last.shared.streamClient = false) :
    FoundNoStream (DualCore.boot currentBufferSize) events last caller := by
  have initially : ¬ (DualCore.boot currentBufferSize).core0 = .requestTestClient caller :=
    nofun
  obtain ⟨before, _, after, called, tested, rfl, ranBefore, notTesting, stepped, since, -⟩ :=
    exists_rise (fun state => state.core0 = .requestTestClient caller) initially ran tests
  obtain ⟨env, rfl, calls, cleared⟩ := testsClient_of_step stepped notTesting since.start
  have closing := fresh.flags.closing (by rw [tests]; rfl)
  exact ⟨⟨before, env, after, called, tested, rfl, ranBefore, calls, cleared, stepped, since⟩,
    closing, noClient⟩

/-- When `requestStreamStop` returns true, the call has found no stream or
Core 1 has stopped it during the call, in every run in which tasks answer in
time. -/
theorem stopConfirmed_of_answersInTime (currentBufferSize : Nat)
    (events : List DualCoreEvent) (last : DualCore) (caller : StopCaller)
    (inTime : Guarded dualCoreStep AnswersInTime (DualCore.boot currentBufferSize) events)
    (ran : run dualCoreStep (DualCore.boot currentBufferSize) events = some last)
    (returns : ReturnsTrue caller last) :
    FoundNoStream (DualCore.boot currentBufferSize) events last caller ∨
      StoppedInCall (DualCore.boot currentBufferSize) events caller := by
  have fresh : AnswersFresh last :=
    invariant_of_guarded (fun _ _ _ => answersFresh_step)
      (answersFresh_boot currentBufferSize) inTime ran
  rcases returns with ⟨tests, noClient⟩ | confirmed
  · exact Or.inl (foundNoStream_of_testsClient ran fresh tests noClient)
  · exact Or.inr (stoppedInCall_of_confirmed inTime ran fresh confirmed)

/-- A task answers in time as long as Core 0 is not about to finish a request. -/
theorem answersInTime_of_phase {system : DualCore} (event : DualCoreEvent)
    (unfinished : system.core0.phase ≠ .clearing) : AnswersInTime system event := by
  cases event with
  | core0 env =>
      intro caller confirmed finishes
      rw [finishes] at unfinished
      exact absurd rfl unfinished
  | core1 id env => trivial
  | peerCloses => trivial

/-- A step of Core 0 while `server_stop` waits. -/
def serverStopping (expired : Bool) : DualCoreEvent :=
  .core0 ⟨.serverStop, expired, false, false, none⟩

/-- A step of the task, which reads a block. -/
def streaming : DualCoreEvent :=
  .core1 0 ⟨true, 256, false, false, none⟩

/-- The server is stopped while a client plays, and Core 1 answers. -/
def stopAnswered : List DualCoreEvent :=
  startPlaying ++ List.replicate 4 (serverStopping false) ++ List.replicate 15 streaming ++
    List.replicate 5 (serverStopping false)

theorem stopConfirmed_stopAnswered :
    ∃ last, run dualCoreStep (DualCore.boot 1024) stopAnswered = some last ∧
      ReturnsTrue .serverStop last ∧
      (FoundNoStream (DualCore.boot 1024) stopAnswered last .serverStop ∨
        StoppedInCall (DualCore.boot 1024) stopAnswered .serverStop) := by
  have unfinished : Guarded dualCoreStep (fun system _ => system.core0.phase ≠ .clearing)
      (DualCore.boot 1024) stopAnswered := by decide
  have inTime := unfinished.imp fun _ event => answersInTime_of_phase event
  exact ⟨_, rfl, Or.inr rfl, stopConfirmed_of_answersInTime 1024 stopAnswered _ .serverStop
    inTime rfl (Or.inr rfl)⟩

/-- A call that finds no stream is still at its second test. -/
theorem FoundNoStream.testsClient {start last : DualCore} {events : List DualCoreEvent}
    {caller : StopCaller} (found : FoundNoStream start events last caller)
    (ran : run dualCoreStep start events = some last) :
    last.core0 = .requestTestClient caller := by
  obtain ⟨⟨before, env, after, called, tested, rfl, ranBefore, -, -, stepped, since⟩, -⟩ := found
  rw [run_append, ranBefore, Option.bind_some, run_cons, stepped, Option.bind_some] at ran
  exact since.last ran

/-- The confirmation of Core 1 lies in the call: when Core 1 makes no step in
the rest of a run, the call has begun before that rest. -/
theorem StoppedInCall.asked_before {start middle : DualCore}
    {first second : List DualCoreEvent} {caller : StopCaller}
    (stopped : StoppedInCall start (first ++ second) caller)
    (core0Only : ∀ id env, .core1 id env ∉ second)
    (ran : run dualCoreStep start first = some middle) :
    middle.core0.asked = some caller := by
  obtain ⟨before, env, polls, branch, after, asking, asked, testing, confirmed, id, split,
    ranBefore, -, stepped, -, runs, since⟩ := stopped
  obtain ⟨testEnv, within, doneEnv, -, -, rfl, -⟩ := runs
  -- The events up to the confirmation lie in the first part.
  have regrouped : first ++ second =
      (before ++ .core0 env :: (polls ++ .core1 id testEnv :: within)) ++
        .core1 id doneEnv :: after := by
    rw [split]
    simp
  rcases List.append_eq_append_iff.mp regrouped with
    ⟨rest, -, inSecond⟩ | ⟨rest, inFirst, inRest⟩
  · exact absurd (inSecond ▸ List.mem_append_right rest List.mem_cons_self)
      (core0Only id doneEnv)
  · cases rest with
    | nil =>
        rw [List.nil_append] at inRest
        exact absurd (inRest ▸ List.mem_cons_self) (core0Only id doneEnv)
    | cons event rest =>
        obtain ⟨rfl, rfl⟩ := List.cons.inj inRest
        have ranCall : run dualCoreStep asked
            (polls ++ .core1 id testEnv :: within ++ .core1 id doneEnv :: rest) =
              some middle := by
          rw [inFirst] at ran
          simpa [run_append, run_cons, ranBefore, stepped] using ran
        have throughout : Throughout dualCoreStep (fun state => state.core0.asked = some caller)
            asked ((polls ++ .core1 id testEnv :: within ++ .core1 id doneEnv :: rest) ++
              second) := by
          simpa using since
        exact (throughout.of_append ranCall).start

/-- The first request times out in the last step of the stop branch, another
client plays, and Core 1 finishes the branch and streams to that client. -/
def lateAnswer : List DualCoreEvent :=
  startPlaying ++ List.replicate 4 (serverStopping false) ++ List.replicate 14 streaming ++
    List.replicate 8 (serverStopping true) ++
    [.core0 ⟨.serverStart, false, false, false, none⟩] ++ List.replicate 16 playing ++
    List.replicate 7 streaming

/-- The late answer confirms the next request, which Core 1 has not seen. -/
theorem stale_confirmation :
    ∃ last, run dualCoreStep (DualCore.boot 1024)
        (lateAnswer ++ List.replicate 9 (serverStopping false)) = some last ∧
      ReturnsTrue .serverStop last ∧
      ¬ (FoundNoStream (DualCore.boot 1024)
            (lateAnswer ++ List.replicate 9 (serverStopping false)) last .serverStop ∨
          StoppedInCall (DualCore.boot 1024)
            (lateAnswer ++ List.replicate 9 (serverStopping false)) .serverStop) := by
  obtain ⟨middle, last, ranFirst, returned, ran, confirmed⟩ :
      ∃ middle last, run dualCoreStep (DualCore.boot 1024) lateAnswer = some middle ∧
        middle.core0 = .loop ∧
        run dualCoreStep (DualCore.boot 1024)
          (lateAnswer ++ List.replicate 9 (serverStopping false)) = some last ∧
        last.core0 = .requestClearDone .serverStop true :=
    ⟨_, _, rfl, rfl, rfl, rfl⟩
  refine ⟨last, ran, Or.inr confirmed, ?_⟩
  rintro (found | stopped)
  · have tests := found.testsClient ran
    rw [confirmed] at tests
    cases tests
  · have asked := stopped.asked_before
      (fun id env member => nomatch List.eq_of_mem_replicate member) ranFirst
    rw [returned] at asked
    cases asked

end EchoMic
