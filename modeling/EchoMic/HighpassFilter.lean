import EchoMic.GuardedRuns
import EchoMic.TaskTable

/-!
# The high-pass filter on both cores

Core 0 assigns the filter settings and recomputes the global coefficients
with `updateHighpassCoeffs`, which computes none while the filter is off.  The
audio task filters with a copy of its own and takes a new one when the rate or
the cutoff differs from the values it remembers.  Every read and write of a
shared variable is one step.  The five assignments of the coefficients and the
copy of them are one step each as well: the coefficients stand for one value of
a type of their own here, which a copy has or has not, so that a copy taken
between two of the assignments is not among the states.
-/

namespace EchoMic

open GuardedRuns TaskTable

/-- The floating-point part of `updateHighpassCoeffs`: the coefficients for a
sample rate and a cutoff, the cutoff after clamping as an integer, and the
coefficients before the first computation. -/
structure FilterDesign (Coefficients : Type) where
  coefficients : Nat → Nat → Coefficients
  clampedCutoff : Nat → Nat → Nat
  unfilled : Coefficients

structure HighpassGlobals (Coefficients : Type) where
  highpassEnabled : Bool
  highpassCutoffHz : Nat
  currentSampleRate : Nat
  hpf : Coefficients
  hpfConfigSampleRate : Nat
  hpfConfigCutoff : Nat
  deriving DecidableEq

variable {Coefficients : Type} (design : FilterDesign Coefficients)

/-- `F(currentSampleRate, highpassCutoffHz)`. -/
def HighpassGlobals.configured (globals : HighpassGlobals Coefficients) : Coefficients :=
  design.coefficients globals.currentSampleRate globals.highpassCutoffHz

def updateHighpassCoeffs (globals : HighpassGlobals Coefficients) :
    HighpassGlobals Coefficients :=
  if globals.highpassEnabled then
    { globals with
      hpf := globals.configured design
      hpfConfigSampleRate := globals.currentSampleRate
      hpfConfigCutoff :=
        design.clampedCutoff globals.currentSampleRate globals.highpassCutoffHz }
  else
    { globals with
      hpfConfigSampleRate := globals.currentSampleRate
      hpfConfigCutoff := globals.highpassCutoffHz }

/-! ## Core 1 -/

inductive FilterTaskPc where
  | startHpf
  | startSampleRate
  | startCutoff
  | awaitBlock
  | testEnabled
  | testSampleRate
  | testCutoff
  | copyHpf
  | copySampleRate
  | copyCutoff
  | filterBlock
  deriving DecidableEq

/-- An audio task with its own copy of the coefficients and the rate and
cutoff it remembers for them. -/
structure FilterTask (Coefficients : Type) where
  pc : FilterTaskPc
  localHpf : Coefficients
  localHpfConfigSampleRate : Nat
  localHpfConfigCutoff : Nat
  deriving DecidableEq

def FilterTask.created : FilterTask Coefficients where
  pc := .startHpf
  localHpf := design.unfilled
  localHpfConfigSampleRate := 0
  localHpfConfigCutoff := 0

def FilterTask.goto (task : FilterTask Coefficients) (pc : FilterTaskPc) :
    FilterTask Coefficients :=
  { task with pc := pc }

/-- What the loop of the task does next. -/
inductive BlockEvent where
  | nothing
  | block
  | exit
  deriving DecidableEq

/-- One step of the audio task; `none` is the task after `vTaskDelete`. -/
def filterTaskStep (event : BlockEvent) (globals : HighpassGlobals Coefficients)
    (task : FilterTask Coefficients) : Option (FilterTask Coefficients) :=
  match task.pc with
  | .startHpf =>
      some
        { task with
          pc := .startSampleRate
          localHpf := globals.hpf }
  | .startSampleRate =>
      some
        { task with
          pc := .startCutoff
          localHpfConfigSampleRate := globals.hpfConfigSampleRate }
  | .startCutoff =>
      some
        { task with
          pc := .awaitBlock
          localHpfConfigCutoff := globals.hpfConfigCutoff }
  | .awaitBlock =>
      match event with
      | .nothing => some task
      | .block => some (task.goto .testEnabled)
      | .exit => none
  | .testEnabled =>
      some (task.goto (if globals.highpassEnabled then .testSampleRate else .filterBlock))
  | .testSampleRate =>
      some (task.goto
        (if task.localHpfConfigSampleRate ≠ globals.currentSampleRate then .copyHpf
          else .testCutoff))
  | .testCutoff =>
      some (task.goto
        (if task.localHpfConfigCutoff ≠ globals.highpassCutoffHz then .copyHpf
          else .filterBlock))
  | .copyHpf =>
      some
        { task with
          pc := .copySampleRate
          localHpf := globals.hpf }
  | .copySampleRate =>
      some
        { task with
          pc := .copyCutoff
          localHpfConfigSampleRate := globals.currentSampleRate }
  | .copyCutoff =>
      some
        { task with
          pc := .filterBlock
          localHpfConfigCutoff := globals.highpassCutoffHz }
  | .filterBlock => some (task.goto .awaitBlock)

/-! ## Core 0 -/

/-- Who recomputes the coefficients: one of the three settings requests, or
`restartI2S` for another reason. -/
inductive UpdateCaller where
  | hpEnable
  | hpCutoff
  | rate
  | restart
  deriving DecidableEq

def UpdateCaller.isSetting : UpdateCaller → Bool
  | .hpEnable | .hpCutoff | .rate => true
  | .restart => false

inductive FilterCore0Pc where
  | loop
  | restartI2S (caller : UpdateCaller)
  | updateTestEnabled (caller : UpdateCaller)
  | updateHpf (caller : UpdateCaller)
  | updateSampleRate (caller : UpdateCaller)
  | updateCutoff (caller : UpdateCaller)
  | startTask
  deriving DecidableEq

/-- Where the caller of `updateHighpassCoeffs` goes on. -/
def UpdateCaller.afterUpdate : UpdateCaller → FilterCore0Pc
  | .hpEnable | .hpCutoff => .loop
  | .rate | .restart => .startTask

/-- What `loop` does next. -/
inductive FilterOperation where
  | hpEnable (on : Bool)
  | hpCutoff (v : Nat)
  | rate (v : Nat)
  | restart
  | play
  deriving DecidableEq

/-- One step of Core 0, apart from the task that `startTask` creates. -/
def filterCore0Step (operation : FilterOperation) (globals : HighpassGlobals Coefficients) :
    FilterCore0Pc → HighpassGlobals Coefficients × FilterCore0Pc
  | .loop =>
      match operation with
      | .hpEnable on =>
          ({ globals with highpassEnabled := on }, .updateTestEnabled .hpEnable)
      | .hpCutoff v =>
          if 10 ≤ v ∧ v ≤ 10000 then
            ({ globals with highpassCutoffHz := v }, .updateTestEnabled .hpCutoff)
          else (globals, .loop)
      | .rate v =>
          if 8000 ≤ v ∧ v ≤ 96000 then
            ({ globals with currentSampleRate := v }, .restartI2S .rate)
          else (globals, .loop)
      | .restart => (globals, .restartI2S .restart)
      | .play => (globals, .startTask)
  -- The stream and the task are stopped, unless the waits for them expire.
  | .restartI2S caller => (globals, .updateTestEnabled caller)
  | .updateTestEnabled caller =>
      (globals,
        if globals.highpassEnabled then .updateHpf caller else .updateSampleRate caller)
  | .updateHpf caller =>
      ({ globals with hpf := globals.configured design }, .updateSampleRate caller)
  | .updateSampleRate caller =>
      ({ globals with hpfConfigSampleRate := globals.currentSampleRate },
        .updateCutoff caller)
  | .updateCutoff caller =>
      ({ globals with
          hpfConfigCutoff :=
            if globals.highpassEnabled then
              design.clampedCutoff globals.currentSampleRate globals.highpassCutoffHz
            else globals.highpassCutoffHz }, caller.afterUpdate)
  | .startTask => (globals, .loop)

/-! ## Both cores -/

structure FilterCores (Coefficients : Type) where
  globals : HighpassGlobals Coefficients
  core0 : FilterCore0Pc
  tasks : Nat → Option (FilterTask Coefficients)
  tasksCreated : Nat

/-- After `setup`, with the persisted settings and no task. -/
def FilterCores.boot (hpEnable : Bool) (hpCutoff sampleRate : Nat) :
    FilterCores Coefficients where
  globals :=
    updateHighpassCoeffs design
      { highpassEnabled := hpEnable
        highpassCutoffHz := hpCutoff
        currentSampleRate := sampleRate
        hpf := design.unfilled
        hpfConfigSampleRate := 0
        hpfConfigCutoff := 0 }
  core0 := .loop
  tasks := fun _ => none
  tasksCreated := 0

/-- Core 0 takes a step, creating a task when it starts one and `created`
holds, or a task does. -/
inductive FilterEvent where
  | core0 (operation : FilterOperation) (created : Bool)
  | core1 (id : Nat) (event : BlockEvent)
  deriving DecidableEq

/-- Core 0 creates a task in its next step. -/
def FilterCores.creates (system : FilterCores Coefficients) (created : Bool) : Bool :=
  decide (system.core0 = .startTask) && created

def filterStep (system : FilterCores Coefficients) :
    FilterEvent → Option (FilterCores Coefficients)
  | .core0 operation created =>
      let next := filterCore0Step design operation system.globals system.core0
      some
        { globals := next.1
          core0 := next.2
          tasks :=
            if system.creates created then
              Function.update system.tasks system.tasksCreated
                (some (FilterTask.created design))
            else system.tasks
          tasksCreated :=
            if system.creates created then system.tasksCreated + 1
            else system.tasksCreated }
  | .core1 id event =>
      match system.tasks id with
      | none => none
      | some task =>
          some
            { system with
              tasks :=
                Function.update system.tasks id
                  (filterTaskStep event system.globals task) }

variable {design}

theorem filterStep_core1 {system next : FilterCores Coefficients} {id : Nat}
    {event : BlockEvent} (stepped : filterStep design system (.core1 id event) = some next) :
    ∃ task, system.tasks id = some task ∧
      next =
        { system with
          tasks :=
            Function.update system.tasks id (filterTaskStep event system.globals task) } := by
  simp only [filterStep] at stepped
  cases live : system.tasks id with
  | none =>
      rw [live] at stepped
      cases stepped
  | some task =>
      rw [live] at stepped
      cases stepped
      exact ⟨task, rfl, rfl⟩

/-! ## The filter in use is the configured one -/

/-- A settings request is in progress. -/
def FilterCore0Pc.inSettings : FilterCore0Pc → Bool
  | .restartI2S caller | .updateTestEnabled caller | .updateHpf caller => caller.isSetting
  | .updateSampleRate caller | .updateCutoff caller => caller.isSetting
  | .loop | .startTask => false

/-- Core 0 has assigned a setting and has not recomputed the coefficients. -/
def FilterCore0Pc.isPending : FilterCore0Pc → Bool
  | .restartI2S caller | .updateTestEnabled caller | .updateHpf caller => caller.isSetting
  | .updateSampleRate _ | .updateCutoff _ | .loop | .startTask => false

/-- Every block that is about to be filtered outside of a settings request is
filtered with the configured coefficients. -/
def ConfiguredFilter (design : FilterDesign Coefficients)
    (system : FilterCores Coefficients) : Prop :=
  system.globals.highpassEnabled = true → system.core0.inSettings = false →
    ∀ id task, system.tasks id = some task → task.pc = .filterBlock →
      task.localHpf = system.globals.configured design

/-- The task copies the global coefficients before it filters its next
block, if the settings stay as they are. -/
def FilterTask.copiesFirst (globals : HighpassGlobals Coefficients)
    (task : FilterTask Coefficients) : Prop :=
  match task.pc with
  | .startHpf | .copyHpf => True
  | .awaitBlock | .testEnabled | .testSampleRate =>
      task.localHpfConfigSampleRate ≠ globals.currentSampleRate ∨
        task.localHpfConfigCutoff ≠ globals.highpassCutoffHz
  | .testCutoff => task.localHpfConfigCutoff ≠ globals.highpassCutoffHz
  | .startSampleRate | .startCutoff | .copySampleRate | .copyCutoff | .filterBlock => False

/-- The task has the configured coefficients or is going to copy the global
ones. -/
def FilterTask.UpToDate (design : FilterDesign Coefficients)
    (globals : HighpassGlobals Coefficients) (task : FilterTask Coefficients) : Prop :=
  task.localHpf = globals.configured design ∨ task.copiesFirst globals

/-- When the coefficients are recomputed, no live task is left with others. -/
def RecomputedInTime (design : FilterDesign Coefficients)
    (system : FilterCores Coefficients) : FilterEvent → Prop
  | .core0 _ _ =>
      (∃ caller, system.core0 = .updateHpf caller) →
        Every system.tasks (FilterTask.UpToDate design system.globals)
  | .core1 _ _ => True

/-- Unless the filter is off or a change is pending, the global coefficients
are the configured ones and every task has or is going to copy them. -/
def FilterKept (design : FilterDesign Coefficients)
    (system : FilterCores Coefficients) : Prop :=
  system.globals.highpassEnabled = true → system.core0.isPending = false →
    system.globals.hpf = system.globals.configured design ∧
      Every system.tasks (FilterTask.UpToDate design system.globals)

theorem filterKept_boot (design : FilterDesign Coefficients) (hpEnable : Bool)
    (hpCutoff sampleRate : Nat) :
    FilterKept design (FilterCores.boot design hpEnable hpCutoff sampleRate) := by
  intro enabled settled
  refine ⟨?_, every_empty⟩
  cases hpEnable with
  | false => cases enabled
  | true => rfl

theorem isPending_of_inSettings {pc : FilterCore0Pc} (quiet : pc.inSettings = false) :
    pc.isPending = false := by
  cases pc <;> first | rfl | exact quiet

theorem FilterKept.configuredFilter {system : FilterCores Coefficients}
    (kept : FilterKept design system) : ConfiguredFilter design system := by
  intro enabled quiet id task live filters
  have upToDate := (kept enabled (isPending_of_inSettings quiet)).2 id task live
  rcases upToDate with configured | copies
  · exact configured
  · rw [FilterTask.copiesFirst, filters] at copies
    exact copies.elim

/-- A step of a task keeps it up to date. -/
theorem filterTaskStep_upToDate {globals : HighpassGlobals Coefficients}
    {task next : FilterTask Coefficients} {event : BlockEvent}
    (enabled : globals.highpassEnabled = true)
    (configured : globals.hpf = globals.configured design)
    (upToDate : task.UpToDate design globals)
    (stepped : filterTaskStep event globals task = some next) :
    next.UpToDate design globals := by
  obtain ⟨pc, localHpf, localHpfConfigSampleRate, localHpfConfigCutoff⟩ := task
  cases pc with
  | startHpf | copyHpf =>
      cases stepped
      exact Or.inl configured
  | startSampleRate | startCutoff | copySampleRate | copyCutoff | filterBlock =>
      cases stepped
      exact Or.inl (upToDate.resolve_right id)
  | awaitBlock => cases event <;> cases stepped <;> exact upToDate
  | testEnabled =>
      simp only [filterTaskStep, FilterTask.goto, enabled, if_true] at stepped
      cases stepped
      exact upToDate
  | testSampleRate =>
      by_cases sameRate : localHpfConfigSampleRate = globals.currentSampleRate
      · simp only [filterTaskStep, FilterTask.goto, sameRate, ne_eq, not_true, if_false]
          at stepped
        cases stepped
        exact upToDate.imp_right fun differs => differs.resolve_left (absurd sameRate)
      · simp only [filterTaskStep, FilterTask.goto, ne_eq, sameRate, not_false_eq_true,
          if_true] at stepped
        cases stepped
        exact Or.inr trivial
  | testCutoff =>
      by_cases sameCutoff : localHpfConfigCutoff = globals.highpassCutoffHz
      · simp only [filterTaskStep, FilterTask.goto, sameCutoff, ne_eq, not_true, if_false]
          at stepped
        cases stepped
        exact Or.inl (upToDate.resolve_right (absurd sameCutoff))
      · simp only [filterTaskStep, FilterTask.goto, ne_eq, sameCutoff, not_false_eq_true,
          if_true] at stepped
        cases stepped
        exact Or.inr trivial

/-- Only a recomputation makes the settings settled again; every other step
of Core 0 leaves a settled configuration as it is. -/
theorem filterCore0Step_settled (operation : FilterOperation)
    (globals : HighpassGlobals Coefficients) (pc : FilterCore0Pc)
    (enabled : (filterCore0Step design operation globals pc).1.highpassEnabled = true)
    (settled : (filterCore0Step design operation globals pc).2.isPending = false) :
    (∃ caller, pc = .updateHpf caller) ∨
      globals.highpassEnabled = true ∧ pc.isPending = false ∧
        (filterCore0Step design operation globals pc).1.hpf = globals.hpf ∧
        (filterCore0Step design operation globals pc).1.currentSampleRate =
          globals.currentSampleRate ∧
        (filterCore0Step design operation globals pc).1.highpassCutoffHz =
          globals.highpassCutoffHz := by
  cases pc with
  | loop =>
      simp only [filterCore0Step] at enabled settled ⊢
      (repeat' split) <;> simp_all [FilterCore0Pc.isPending, UpdateCaller.isSetting]
  | updateHpf caller => exact Or.inl ⟨caller, rfl⟩
  | _ =>
      simp only [filterCore0Step] at enabled settled ⊢
      (repeat' split at settled) <;> simp_all [FilterCore0Pc.isPending]

theorem upToDate_of_settled {globals next : HighpassGlobals Coefficients}
    (sameRate : next.currentSampleRate = globals.currentSampleRate)
    (sameCutoff : next.highpassCutoffHz = globals.highpassCutoffHz)
    {task : FilterTask Coefficients} (upToDate : task.UpToDate design globals) :
    task.UpToDate design next := by
  simpa only [FilterTask.UpToDate, FilterTask.copiesFirst, HighpassGlobals.configured,
    sameRate, sameCutoff] using upToDate

theorem filterKept_core0 {system : FilterCores Coefficients} {operation : FilterOperation}
    {created : Bool} (kept : FilterKept design system)
    (inTime : RecomputedInTime design system (.core0 operation created)) :
    FilterKept design
      { system with
        globals := (filterCore0Step design operation system.globals system.core0).1
        core0 := (filterCore0Step design operation system.globals system.core0).2 } := by
  intro enabled settled
  rcases filterCore0Step_settled operation system.globals system.core0 enabled settled with
    ⟨caller, recomputes⟩ | ⟨wasEnabled, wasSettled, sameHpf, sameRate, sameCutoff⟩
  · have upToDate := inTime ⟨caller, recomputes⟩
    rw [recomputes]
    exact ⟨rfl, upToDate⟩
  · obtain ⟨configured, upToDate⟩ := kept wasEnabled wasSettled
    refine ⟨?_, upToDate.imp fun task => upToDate_of_settled sameRate sameCutoff⟩
    simp only [HighpassGlobals.configured, sameHpf, sameRate, sameCutoff]
    exact configured

theorem filterKept_step {system next : FilterCores Coefficients} {event : FilterEvent}
    (kept : FilterKept design system) (inTime : RecomputedInTime design system event)
    (stepped : filterStep design system event = some next) : FilterKept design next := by
  cases event with
  | core0 operation created =>
      have keptNext := filterKept_core0 kept inTime
      cases stepped
      intro enabled settled
      obtain ⟨configured, upToDate⟩ := keptNext enabled settled
      refine ⟨configured, ?_⟩
      dsimp only
      split
      · refine upToDate.update fun task isNew => ?_
        cases isNew
        exact Or.inr trivial
      · exact upToDate
  | core1 id event =>
      obtain ⟨task, live, rfl⟩ := filterStep_core1 stepped
      intro enabled settled
      obtain ⟨configured, upToDate⟩ := kept enabled settled
      refine ⟨configured, upToDate.update fun next continues => ?_⟩
      exact filterTaskStep_upToDate enabled configured (upToDate id task live) continues

/-- Every block outside of a settings request is filtered as configured, in
every run in which the coefficients are recomputed in time. -/
theorem configuredFilter_of_recomputedInTime (design : FilterDesign Coefficients)
    (hpEnable : Bool) (hpCutoff sampleRate : Nat) (events : List FilterEvent)
    (last : FilterCores Coefficients)
    (inTime : Guarded (filterStep design) (RecomputedInTime design)
      (FilterCores.boot design hpEnable hpCutoff sampleRate) events)
    (ran : run (filterStep design) (FilterCores.boot design hpEnable hpCutoff sampleRate)
      events = some last) :
    ConfiguredFilter design last :=
  (invariant_of_guarded (fun _ _ _ => filterKept_step)
    (filterKept_boot design hpEnable hpCutoff sampleRate) inTime ran).configuredFilter

/-- Coefficients by name: the rate and cutoff they were computed for. -/
def namedDesign : FilterDesign (Option (Nat × Nat)) where
  coefficients := fun sampleRate cutoff => some (sampleRate, cutoff)
  clampedCutoff := fun sampleRate cutoff => min (max cutoff 10) (sampleRate * 45 / 100)
  unfilled := none

/-- The filter is off at boot and switched on while a task waits for a block. -/
def enableWhileStreaming : List FilterEvent :=
  List.replicate 2 (.core0 .play true) ++ List.replicate 3 (.core1 0 .nothing) ++
    List.replicate 5 (.core0 (.hpEnable true) false) ++
    List.replicate 4 (.core1 0 .block)

/-- The next block is filtered with the coefficients of no computation. -/
theorem unfilled_after_enable :
    ∃ last, run (filterStep namedDesign) (FilterCores.boot namedDesign false 500 48000)
        enableWhileStreaming = some last ∧
      ¬ ConfiguredFilter namedDesign last := by
  refine ⟨_, rfl, fun configured => ?_⟩
  exact absurd (configured rfl rfl 0 _ rfl rfl) (by decide)

theorem recomputedInTime_of_noTask {system : FilterCores Coefficients}
    (noTask : ∀ id, system.tasks id = none) (event : FilterEvent) :
    RecomputedInTime design system event := by
  cases event with
  | core0 operation created =>
      intro _ id task live
      rw [noTask id] at live
      cases live
  | core1 id event => trivial

/-- The cutoff is changed before a client plays. -/
def changeCutoffAndPlay : List FilterEvent :=
  List.replicate 5 (.core0 (.hpCutoff 1000) false) ++
    List.replicate 2 (.core0 .play true) ++ List.replicate 7 (.core1 0 .block)

theorem configuredFilter_changeCutoffAndPlay :
    ∃ last, run (filterStep namedDesign) (FilterCores.boot namedDesign true 500 48000)
        changeCutoffAndPlay = some last ∧
      ConfiguredFilter namedDesign last ∧
      last.tasks 0 = some ⟨.filterBlock, some (48000, 1000), 48000, 1000⟩ := by
  refine ⟨_, rfl, configuredFilter_of_recomputedInTime namedDesign true 500 48000
    changeCutoffAndPlay _ ?_ rfl, rfl⟩
  iterate 7
    refine ⟨recomputedInTime_of_noTask (fun _ => rfl) _, fun next stepped => ?_⟩
    cases stepped
  exact guarded_of_forall_mem
    (fun event member system => by rw [List.eq_of_mem_replicate member]; trivial) _

end EchoMic
