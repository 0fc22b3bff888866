import EchoMic.AudioTaskLifecycle

/-!
# Bounds of the audio buffers

The audio task allocates its buffers once, with the size configured at that
moment, and reads the configured size again for every block.  A settings
request changes the size before it stops the task.  The buffers are in bounds
in every run in which no such request raises the size beyond the buffers of a
task that may still read.
-/

namespace EchoMic

open GuardedRuns TaskTable

/-- The steps between finding the stream running and `i2s_read`. -/
def TaskPc.isReading : TaskPc → Bool
  | .clientTest => true
  | .clientLoad => true
  | .i2sRead => true
  | _ => false

/-- The steps before both buffers are known to be allocated. -/
def TaskPc.isStarting : TaskPc → Bool
  | .start => true
  | .mallocCapture => true
  | .mallocOutput => true
  | .mallocFailed => true
  | _ => false

/-- A buffer, once allocated, has room for `size` samples. -/
def HasRoom (buffer : Option Nat) (size : Nat) : Prop :=
  ∀ allocated, buffer = some allocated → size ≤ allocated

def AudioTask.HasRoom (task : AudioTask) (size : Nat) : Prop :=
  EchoMic.HasRoom task.captureBuffer size ∧ EchoMic.HasRoom task.outputBuffer size

/-- `i2s_read` is asked for at most what the capture buffer holds, and the
block is written inside the output buffer. -/
structure BuffersInBounds (system : DualCore) : Prop where
  read : ∀ id task, system.tasks id = some task → task.pc = .i2sRead →
    ∃ allocated, task.captureBuffer = some allocated ∧
      system.shared.currentBufferSize ≤ allocated
  written : ∀ id task samplesRead, system.tasks id = some task →
    task.pc = .process samplesRead →
      ∃ allocated, task.outputBuffer = some allocated ∧ samplesRead ≤ allocated

/-- A new buffer size fits every live task, unless no stream is running and
the task is not about to read.  The wait for the exit of a task does not
expire while it is alive. -/
structure BufferChangeSafe (system : DualCore) (event : DualCoreEvent) : Prop where
  exits : TaskExitsInTime system event
  changes : ∀ env v, event = .core0 env → system.core0 = .loop →
    env.operation = .setBuffer v → ∀ id task, system.tasks id = some task →
      task.HasRoom v ∨ system.shared.isStreaming = false ∧ task.pc.isReading = false

/-- Without a stream, Core 0 goes on from here until the task is stopped. -/
def Core0Pc.stopsTask : Core0Pc → Bool
  | .restartReadStreaming => true
  | .restartTestStreaming _ => true
  | .stopTestHandle _ => true
  | .stopClearRunning _ => true
  | .stopTake _ => true
  | _ => false

/-- A task has room for the configured size, or will be stopped before it
reads again. -/
def FitsOrStops (system : DualCore) (task : AudioTask) : Prop :=
  task.HasRoom system.shared.currentBufferSize ∨
    system.shared.isStreaming = false ∧ task.pc.isReading = false ∧
      system.core0.stopsTask = true

structure BuffersFit (system : DualCore) : Prop where
  allocated : ∀ id task, system.tasks id = some task → task.pc.isStarting = false →
    task.captureBuffer.isSome = true ∧ task.outputBuffer.isSome = true
  fits : ∀ id task, system.tasks id = some task → FitsOrStops system task
  processing : ∀ id task samplesRead, system.tasks id = some task →
    task.pc = .process samplesRead → ∃ allocated,
      task.outputBuffer = some allocated ∧ samplesRead ≤ allocated

theorem buffersFit_boot (currentBufferSize : Nat) :
    BuffersFit (DualCore.boot currentBufferSize) where
  allocated := fun _ _ impossible => nomatch impossible
  fits := fun _ _ impossible => nomatch impossible
  processing := fun _ _ _ impossible => nomatch impossible

theorem BuffersFit.inBounds {system : DualCore} (fit : BuffersFit system) :
    BuffersInBounds system where
  read := by
    intro id task live reads
    rcases fit.fits id task live with room | ⟨-, notReading, -⟩
    · have allocated := (fit.allocated id task live (by rw [reads]; rfl)).1
      obtain ⟨size, captured⟩ := Option.isSome_iff_exists.mp allocated
      exact ⟨size, captured, room.1 size captured⟩
    · rw [reads] at notReading
      cases notReading
  written := fit.processing

theorem hasRoom_created (size : Nat) : AudioTask.created.HasRoom size := by
  constructor <;> exact fun _ impossible => nomatch impossible

/-! ## Steps of the task -/

section Core1

variable (env : TaskEnv) (shared : Shared) (task : AudioTask)

theorem taskStep_currentBufferSize :
    (taskStep env shared task).1.currentBufferSize = shared.currentBufferSize := by
  cases pc : task.pc <;> simp only [taskStep, pc]

theorem taskStep_allocated {next : AudioTask}
    (before : task.pc.isStarting = false →
      task.captureBuffer.isSome = true ∧ task.outputBuffer.isSome = true)
    (continues : (taskStep env shared task).2 = some next)
    (started : next.pc.isStarting = false) :
    next.captureBuffer.isSome = true ∧ next.outputBuffer.isSome = true := by
  cases pc : task.pc <;>
    simp only [taskStep, pc, AudioTask.goto, AudioTask.continue] at continues before <;>
    (repeat' split at continues) <;> cases continues <;>
    simp_all [TaskPc.isStarting]

/-- Buffers are allocated with the configured size. -/
theorem taskStep_hasRoom {next : AudioTask}
    (room : task.HasRoom shared.currentBufferSize)
    (continues : (taskStep env shared task).2 = some next) :
    next.HasRoom shared.currentBufferSize := by
  cases pc : task.pc <;>
    simp only [taskStep, pc, AudioTask.goto, AudioTask.continue] at continues <;>
    (repeat' split at continues) <;> cases continues <;>
    simp_all [AudioTask.HasRoom, HasRoom]

/-- Without a stream the task does not start to read. -/
theorem taskStep_isReading {next : AudioTask} (idle : shared.isStreaming = false)
    (notReading : task.pc.isReading = false)
    (continues : (taskStep env shared task).2 = some next) :
    next.pc.isReading = false := by
  cases pc : task.pc <;>
    simp only [taskStep, pc, AudioTask.goto, AudioTask.continue] at continues <;>
    (repeat' split at continues) <;> cases continues <;>
    simp_all [TaskPc.isReading]

/-- A block has at most as many samples as were requested. -/
theorem taskStep_process {next : AudioTask} {samplesRead : Nat}
    (continues : (taskStep env shared task).2 = some next)
    (processes : next.pc = .process samplesRead) :
    task.pc = .i2sRead ∧ samplesRead ≤ shared.currentBufferSize ∧
      next.outputBuffer = task.outputBuffer := by
  cases pc : task.pc <;>
    simp only [taskStep, pc, AudioTask.goto, AudioTask.continue] at continues <;>
    (repeat' split at continues) <;> cases continues <;>
    simp_all
  omega

end Core1

/-! ## Steps of Core 0 -/

section Core0

variable (env : Core0Env) (shared : Shared) (pc : Core0Pc)

theorem core0Step_currentBufferSize :
    (core0Step env shared pc).1.currentBufferSize = shared.currentBufferSize ∨
      ∃ v, pc = .loop ∧ env.operation = .setBuffer v ∧
        (core0Step env shared pc).1.currentBufferSize = v ∧
        (core0Step env shared pc).2.stopsTask = true ∧
        (core0Step env shared pc).1.isStreaming = shared.isStreaming := by
  cases pc <;> simp only [core0Step] <;> (repeat' split) <;>
    simp_all [Core0Pc.stopsTask]

/-- A wait for the exit of the task ends with the task. -/
theorem core0Step_stopsTask (idle : shared.isStreaming = false)
    (stops : pc.stopsTask = true) :
    (core0Step env shared pc).1.isStreaming = false ∧
      ((core0Step env shared pc).2.stopsTask = true ∨
        shared.audioCaptureTaskHandle = none ∨ shared.taskExitSemaphore = true ∨
        pc.isStopTake = true ∧ env.expired = true) := by
  cases pc <;> simp only [core0Step] <;> (repeat' split) <;>
    simp_all [Core0Pc.stopsTask, Core0Pc.isStopTake]

end Core0

/-! ## Every guarded run -/

theorem buffersFit_core0 {system : DualCore} {env : Core0Env}
    (lifecycle : TaskLifecycle system) (fit : BuffersFit system)
    (safe : BufferChangeSafe system (.core0 env)) :
    BuffersFit
      { shared := (core0Step env system.shared system.core0).1
        core0 := (core0Step env system.shared system.core0).2
        tasks := system.tasksAfter env } := by
  refine ⟨fun id task live => ?_, fun id task live => ?_, fun id task samplesRead live => ?_⟩
  · rcases DualCore.tasksAfter_cases live with before | ⟨-, -, rfl⟩
    · exact fit.allocated id task before
    · exact fun impossible => nomatch impossible
  · rcases DualCore.tasksAfter_cases live with before | ⟨-, -, rfl⟩
    swap
    · exact Or.inl (hasRoom_created _)
    rcases fit.fits id task before with room | ⟨idle, notReading, stops⟩
    · rcases core0Step_currentBufferSize env system.shared system.core0 with
        same | ⟨v, atLoop, changes, sizeEq, stops, streamEq⟩
      · left
        rw [same]
        exact room
      · rcases safe.changes env v rfl atLoop changes id task before with fits | ⟨idle, still⟩
        · left
          rw [sizeEq]
          exact fits
        · exact Or.inr ⟨streamEq.trans idle, still, stops⟩
    · obtain ⟨stillIdle, stillStops | handle | given | expired⟩ :=
        core0Step_stopsTask env system.shared system.core0 idle stops
      · exact Or.inr ⟨stillIdle, notReading, stillStops⟩
      · rw [lifecycle.noTask_of_handle handle id] at before
        cases before
      · rw [(lifecycle.given given).2 id] at before
        cases before
      · rw [safe.exits expired.1 expired.2 id] at before
        cases before
  · rcases DualCore.tasksAfter_cases live with before | ⟨-, -, rfl⟩
    · exact fit.processing id task samplesRead before
    · exact fun impossible => nomatch impossible

theorem buffersFit_core1 {system : DualCore} {id : Nat} {task : AudioTask}
    (fit : BuffersFit system) (live : system.tasks id = some task) (env : TaskEnv) :
    BuffersFit
      { system with
        shared := (taskStep env system.shared task).1
        tasks := Function.update system.tasks id (taskStep env system.shared task).2 } := by
  have sizeEq := taskStep_currentBufferSize env system.shared task
  refine ⟨fun other next otherLive => ?_, fun other next otherLive => ?_,
    fun other next samplesRead otherLive processes => ?_⟩
  · rcases update_cases otherLive with ⟨-, continues⟩ | ⟨-, before⟩
    · exact taskStep_allocated env _ _ (fit.allocated id task live) continues
    · exact fit.allocated other next before
  · rcases update_cases otherLive with ⟨-, continues⟩ | ⟨-, before⟩
    · rcases fit.fits id task live with room | ⟨idle, notReading, stops⟩
      · left
        rw [sizeEq]
        exact taskStep_hasRoom env _ _ room continues
      · exact Or.inr ⟨taskStep_isStreaming env _ _ idle,
          taskStep_isReading env _ _ idle notReading continues, stops⟩
    · rcases fit.fits other next before with room | ⟨idle, notReading, stops⟩
      · left
        rw [sizeEq]
        exact room
      · exact Or.inr ⟨taskStep_isStreaming env _ _ idle, notReading, stops⟩
  · rcases update_cases otherLive with ⟨-, continues⟩ | ⟨-, before⟩
    · obtain ⟨reads, atMost, sameBuffer⟩ := taskStep_process env _ _ continues processes
      rcases fit.fits id task live with room | ⟨-, notReading, -⟩
      · have allocated := (fit.allocated id task live (by rw [reads]; rfl)).2
        obtain ⟨size, output⟩ := Option.isSome_iff_exists.mp allocated
        rw [sameBuffer]
        exact ⟨size, output, Nat.le_trans atMost (room.2 size output)⟩
      · rw [reads] at notReading
        cases notReading
    · exact fit.processing other next samplesRead before processes

theorem buffersFit_step {system next : DualCore} {event : DualCoreEvent}
    (lifecycle : TaskLifecycle system) (fit : BuffersFit system)
    (safe : BufferChangeSafe system event)
    (stepped : dualCoreStep system event = some next) : BuffersFit next := by
  cases event with
  | core0 env =>
      cases stepped
      exact buffersFit_core0 lifecycle fit safe
  | core1 id env =>
      obtain ⟨task, live, rfl⟩ := dualCoreStep_core1 stepped
      exact buffersFit_core1 fit live env
  | peerCloses =>
      cases stepped
      exact ⟨fit.allocated, fit.fits, fit.processing⟩

/-- The buffers are in bounds in every state of a run whose buffer changes
are safe and whose tasks exit in time. -/
theorem buffersInBounds_of_bufferChangeSafe (currentBufferSize : Nat)
    (events : List DualCoreEvent) (last : DualCore)
    (safe : Guarded dualCoreStep BufferChangeSafe (DualCore.boot currentBufferSize) events)
    (ran : run dualCoreStep (DualCore.boot currentBufferSize) events = some last) :
    BuffersInBounds last := by
  have kept : TaskLifecycle last ∧ BuffersFit last := by
    refine @invariant_of_guarded DualCore DualCoreEvent dualCoreStep BufferChangeSafe
      (fun system => TaskLifecycle system ∧ BuffersFit system) ?_ _ _ events
      ⟨taskLifecycle_boot currentBufferSize, buffersFit_boot currentBufferSize⟩ safe ran
    rintro system event next ⟨lifecycle, fit⟩ safe stepped
    exact ⟨taskLifecycle_step lifecycle safe.exits stepped,
      buffersFit_step lifecycle fit safe stepped⟩
  exact kept.2.inBounds

/-- The size is raised while the task is about to read: 8192 samples are
requested for a buffer of 256. -/
theorem read_beyond_capture_buffer :
    ∃ last,
      run dualCoreStep (DualCore.boot 256)
          (startPlaying ++ [.core0 ⟨.setBuffer 8192, false, true, false, none⟩]) =
        some last ∧
      ¬ BuffersInBounds last := by
  refine ⟨_, rfl, fun bounds => ?_⟩
  obtain ⟨allocated, captured, fits⟩ := bounds.read 0 _ rfl rfl
  cases captured
  exact absurd fits (by decide)

/-- The size is raised before the client plays. -/
theorem buffersInBounds_raised_before_play :
    ∃ last,
      run dualCoreStep (DualCore.boot 256)
          (.core0 ⟨.setBuffer 8192, false, true, false, none⟩ ::
            (List.replicate 3 playing ++ startPlaying)) =
        some last ∧
      BuffersInBounds last := by
  refine ⟨_, rfl, buffersInBounds_of_bufferChangeSafe 256
    (.core0 ⟨.setBuffer 8192, false, true, false, none⟩ ::
      (List.replicate 3 playing ++ startPlaying)) _ ⟨?_, fun next _ => ?_⟩ rfl⟩
  · constructor
    · exact fun impossible => nomatch impossible
    · exact fun _ _ _ _ _ _ _ impossible => nomatch impossible
  · refine guarded_of_forall_mem (fun event member system => ?_) next
    have calm : event = playing ∨ event = .core1 0 ⟨true, 256, false, false, none⟩ := by
      simp only [startPlaying, List.mem_append, List.mem_replicate] at member
      tauto
    rcases calm with rfl | rfl
    · constructor
      · exact fun _ impossible => nomatch impossible
      · rintro env v same - changes
        cases same
        cases changes
    · exact ⟨trivial, fun _ _ impossible => nomatch impossible⟩

end EchoMic
