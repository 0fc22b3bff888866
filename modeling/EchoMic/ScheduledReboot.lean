import EchoMic.GuardedRuns

/-!
# Scheduled reboots and the factory reset

Four paths restart the device: the deferred check at the end of `loop`, with
or without a factory reset before it, the scheduled reset, and the task of
the ship-ready reset.  `factory_reset` and `reboot` share one pair of
variables.  This file follows an acknowledged factory reset through all of
them.
-/

namespace EchoMic

open GuardedRuns

/-- The requests of the web page that end in a restart. -/
inductive RestartAction where
  | factory_reset
  | reboot
  | ship_ready_reset
  deriving DecidableEq

/-- What is seen from outside: the answer to a request, and the end of
`resetToDefaultSettings`. -/
inductive RebootMark where
  | answered (action : RestartAction)
  | resetRun
  deriving DecidableEq

/-- Where Core 0 is in `loop`.  A handler sends its answer before it does
anything else. -/
inductive LoopPc where
  | handleClient
  | answered (action : RestartAction)
  | checkScheduledReset
  | scheduledDelay
  | deferredCheck
  | resetting
  | deferredDelay
  | restarted
  deriving DecidableEq

/-- The steps of `shipReadyResetTask`. -/
inductive ShipPc where
  | delayFirst
  | resetSettings
  | delayLast
  deriving DecidableEq

/-- The variables of the four paths, and the marks, the latest one first. -/
structure RebootState where
  scheduledFactoryReset : Bool
  scheduledRebootAt : UInt32
  scheduledResetEnabled : Bool
  resetIntervalHours : UInt32
  bootTime : UInt32
  core0 : LoopPc
  shipTasks : List ShipPc
  marks : List RebootMark
  deriving DecidableEq

def RebootState.boot (scheduledResetEnabled : Bool) (resetIntervalHours bootTime : UInt32) :
    RebootState where
  scheduledFactoryReset := false
  scheduledRebootAt := 0
  scheduledResetEnabled := scheduledResetEnabled
  resetIntervalHours := resetIntervalHours
  bootTime := bootTime
  core0 := .handleClient
  shipTasks := []
  marks := []

/-- `ESP.restart` stops both cores. -/
def RebootState.restart (state : RebootState) : RebootState :=
  { state with core0 := .restarted }

def scheduleReboot (factoryReset : Bool) (delayMs now : UInt32) (state : RebootState) :
    RebootState :=
  { state with
    scheduledFactoryReset := factoryReset
    scheduledRebootAt := now + delayMs }

/-- The test of `checkScheduledReset`. -/
def scheduledResetDue (now : UInt32) (state : RebootState) : Bool :=
  state.scheduledResetEnabled && (now - state.bootTime) / 3600000 ≥ state.resetIntervalHours

/-- The rest of a handler, behind its answer. -/
def restOfHandler (now : UInt32) (created : Bool) (state : RebootState) :
    RestartAction → RebootState
  | .factory_reset => scheduleReboot true 600 now state
  | .reboot => scheduleReboot false 600 now state
  | .ship_ready_reset =>
      { state with
        shipTasks := if created then state.shipTasks ++ [.delayFirst] else state.shipTasks }

/-- The next step of Core 0, when `webui_handleClient` has no request. -/
def loopStep (now : UInt32) (created : Bool) (state : RebootState) : Option RebootState :=
  match state.core0 with
  | .handleClient => some { state with core0 := .checkScheduledReset }
  | .answered action =>
      some { restOfHandler now created state action with core0 := .checkScheduledReset }
  | .checkScheduledReset =>
      some
        { state with
          core0 := if scheduledResetDue now state then .scheduledDelay else .deferredCheck }
  | .scheduledDelay => some state.restart
  | .deferredCheck =>
      some
        { state with
          core0 :=
            if state.scheduledRebootAt ≠ 0 ∧ now ≥ state.scheduledRebootAt then
              if state.scheduledFactoryReset then .resetting else .deferredDelay
            else .handleClient }
  | .resetting =>
      some
        { state with
          scheduledResetEnabled := false
          resetIntervalHours := 24
          core0 := .deferredDelay
          marks := .resetRun :: state.marks }
  | .deferredDelay => some state.restart
  | .restarted => none

/-- The next step of one task of the ship-ready reset. -/
def shipStep (index : Nat) (state : RebootState) : Option RebootState :=
  if state.core0 = .restarted then none
  else
    match state.shipTasks[index]? with
    | none => none
    | some .delayFirst =>
        some { state with shipTasks := state.shipTasks.set index .resetSettings }
    | some .resetSettings =>
        some { state with shipTasks := state.shipTasks.set index .delayLast }
    | some .delayLast => some state.restart

/-- The steps of both cores: a request at `webui_handleClient`, or the next
step of `loop` or of a task. -/
inductive RebootEvent where
  | request (action : RestartAction)
  | setScheduledReset (enabled : Bool) (hours : UInt32)
  | loop (now : UInt32) (created : Bool)
  | ship (index : Nat)
  deriving DecidableEq

def rebootStep (state : RebootState) : RebootEvent → Option RebootState
  | .request action =>
      if state.core0 = .handleClient then
        some
          { state with
            core0 := .answered action
            marks := .answered action :: state.marks }
      else none
  | .setScheduledReset enabled hours =>
      if state.core0 = .handleClient then
        some
          { state with
            scheduledResetEnabled := enabled
            resetIntervalHours := hours
            core0 := .checkScheduledReset }
      else none
  | .loop now created => loopStep now created state
  | .ship index => shipStep index state

/-- A device that has restarted has run `resetToDefaultSettings` after each
answer to `factory_reset`. -/
def NoResetLost (state : RebootState) : Prop :=
  state.core0 = .restarted → ∀ later earlier,
    state.marks = later ++ .answered .factory_reset :: earlier → .resetRun ∈ later

/-- The latest answer to `factory_reset` has no reset behind it. -/
def unserved : List RebootMark → Bool
  | [] => false
  | .answered .factory_reset :: _ => true
  | .resetRun :: _ => false
  | .answered .reboot :: marks => unserved marks
  | .answered .ship_ready_reset :: marks => unserved marks

/-- A step that restarts the device on another path, or hands the pending
reboot to another request. -/
def Overtakes (state : RebootState) : RebootEvent → Prop
  | .request action => action = .reboot
  | .setScheduledReset _ _ => False
  | .loop now _ => state.core0 = .checkScheduledReset ∧ scheduledResetDue now state = true
  | .ship index => state.shipTasks[index]? = some .delayLast

/-- While an acknowledged factory reset has not run, nothing overtakes it. -/
def WaitsForReset (state : RebootState) (event : RebootEvent) : Prop :=
  unserved state.marks = true → ¬ Overtakes state event

instance (state : RebootState) : DecidablePred (Overtakes state)
  | .request action => inferInstanceAs (Decidable (action = .reboot))
  | .setScheduledReset _ _ => isFalse id
  | .loop now _ =>
      inferInstanceAs (Decidable (state.core0 = .checkScheduledReset ∧
        scheduledResetDue now state = true))
  | .ship index => inferInstanceAs (Decidable (state.shipTasks[index]? = some .delayLast))

instance (state : RebootState) (event : RebootEvent) : Decidable (WaitsForReset state event) :=
  inferInstanceAs (Decidable (_ → _))

/-! ## The pending reset -/

theorem resetRun_mem_of_served {marks later earlier : List RebootMark}
    (served : unserved marks = false)
    (split : marks = later ++ .answered .factory_reset :: earlier) : .resetRun ∈ later := by
  subst split
  induction later with
  | nil => cases served
  | cons mark later ih =>
      cases mark with
      | resetRun => exact List.mem_cons_self
      | answered action =>
          cases action with
          | factory_reset => cases served
          | reboot => exact List.mem_cons_of_mem _ (ih served)
          | ship_ready_reset => exact List.mem_cons_of_mem _ (ih served)

/-- A reset that has been scheduled and not been overtaken is found by the
deferred check. -/
def LoopPc.keepsScheduled : LoopPc → Bool
  | .handleClient => true
  | .answered .ship_ready_reset => true
  | .checkScheduledReset => true
  | .deferredCheck => true
  | _ => false

/-- A reset that has not run is about to be scheduled, scheduled, or
running. -/
def ResetUnderWay (state : RebootState) : Prop :=
  state.core0 = .answered .factory_reset ∨ state.core0 = .resetting ∨
    state.scheduledFactoryReset = true ∧ state.core0.keepsScheduled = true

/-- Between two requests, a reset that has not run is scheduled. -/
theorem ResetUnderWay.scheduled {state : RebootState} (underWay : ResetUnderWay state)
    (atClient : state.core0 = .handleClient) : state.scheduledFactoryReset = true := by
  rcases underWay with atAnswer | running | ⟨scheduled, -⟩
  · rw [atClient] at atAnswer
    cases atAnswer
  · rw [atClient] at running
    cases running
  · exact scheduled

theorem not_resetUnderWay_restarted {state : RebootState} (restarted : state.core0 = .restarted) :
    ¬ ResetUnderWay state := by
  rintro (atAnswer | running | ⟨-, kept⟩)
  · rw [restarted] at atAnswer
    cases atAnswer
  · rw [restarted] at running
    cases running
  · rw [restarted] at kept
    cases kept

theorem resetUnderWay_loop {state next : RebootState} {now : UInt32} {created : Bool}
    (underWay : ResetUnderWay state) (waits : ¬ Overtakes state (.loop now created))
    (stepped : loopStep now created state = some next) :
    unserved next.marks = true → ResetUnderWay next := by
  rcases underWay with atAnswer | running | ⟨scheduled, kept⟩
  · simp only [loopStep, atAnswer] at stepped
    cases stepped
    exact fun _ => Or.inr (Or.inr ⟨rfl, rfl⟩)
  · simp only [loopStep, running] at stepped
    cases stepped
    intro impossible
    cases impossible
  · unfold loopStep at stepped
    split at stepped
    · cases stepped
      exact fun _ => Or.inr (Or.inr ⟨scheduled, rfl⟩)
    · rename_i action atAnswer
      rw [atAnswer] at kept
      cases action with
      | factory_reset => cases kept
      | reboot => cases kept
      | ship_ready_reset =>
          cases stepped
          exact fun _ => Or.inr (Or.inr ⟨scheduled, rfl⟩)
    · rename_i atCheck
      cases stepped
      have notDue : ¬ scheduledResetDue now state = true := fun due => waits ⟨atCheck, due⟩
      rw [if_neg notDue]
      exact fun _ => Or.inr (Or.inr ⟨scheduled, rfl⟩)
    · rename_i atDelay
      rw [atDelay] at kept
      cases kept
    · cases stepped
      intro _
      by_cases come : state.scheduledRebootAt ≠ 0 ∧ now ≥ state.scheduledRebootAt
      · rw [if_pos come, if_pos scheduled]
        exact Or.inr (Or.inl rfl)
      · rw [if_neg come]
        exact Or.inr (Or.inr ⟨scheduled, rfl⟩)
    · rename_i running
      rw [running] at kept
      cases kept
    · rename_i atDelay
      rw [atDelay] at kept
      cases kept
    · cases stepped

/-- Without a reset to wait for, a step of `loop` brings none. -/
theorem unserved_loop {state next : RebootState} {now : UInt32} {created : Bool}
    (stepped : loopStep now created state = some next) :
    unserved next.marks = true → unserved state.marks = true := by
  unfold loopStep at stepped
  split at stepped
  case h_2 action _ =>
    cases stepped
    cases action <;> exact id
  case h_6 =>
    cases stepped
    intro impossible
    cases impossible
  all_goals
    cases stepped
    try exact id

theorem resetUnderWay_ship {state next : RebootState} {index : Nat}
    (underWay : ResetUnderWay state) (waits : ¬ Overtakes state (.ship index))
    (stepped : shipStep index state = some next) : ResetUnderWay next := by
  unfold shipStep at stepped
  split at stepped
  · cases stepped
  · split at stepped
    · cases stepped
    · cases stepped
      exact underWay
    · cases stepped
      exact underWay
    · exact absurd ‹_› waits

theorem marks_ship {state next : RebootState} {index : Nat}
    (stepped : shipStep index state = some next) : next.marks = state.marks := by
  unfold shipStep at stepped
  split at stepped
  · cases stepped
  · split at stepped <;> cases stepped <;> rfl

/-! ## Every run -/

theorem resetUnderWay_step {state next : RebootState} {event : RebootEvent}
    (kept : unserved state.marks = true → ResetUnderWay state)
    (waits : WaitsForReset state event) (stepped : rebootStep state event = some next) :
    unserved next.marks = true → ResetUnderWay next := by
  intro pending
  cases event with
  | request action =>
      simp only [rebootStep] at stepped
      split at stepped
      · rename_i atClient
        cases stepped
        cases action with
        | factory_reset => exact Or.inl rfl
        | reboot => exact absurd rfl (waits pending)
        | ship_ready_reset =>
            exact Or.inr (Or.inr ⟨(kept pending).scheduled atClient, rfl⟩)
      · cases stepped
  | setScheduledReset enabled hours =>
      simp only [rebootStep] at stepped
      split at stepped
      · rename_i atClient
        cases stepped
        exact Or.inr (Or.inr ⟨(kept pending).scheduled atClient, rfl⟩)
      · cases stepped
  | loop now created =>
      have before := unserved_loop stepped pending
      exact resetUnderWay_loop (kept before) (waits before) stepped pending
  | ship index =>
      rw [marks_ship stepped] at pending
      exact resetUnderWay_ship (kept pending) (waits pending) stepped

/-- When nothing overtakes a pending factory reset, no restart precedes it. -/
theorem noResetLost_of_guarded (scheduledResetEnabled : Bool)
    (resetIntervalHours bootTime : UInt32) (events : List RebootEvent) (last : RebootState)
    (waits : Guarded rebootStep WaitsForReset
      (RebootState.boot scheduledResetEnabled resetIntervalHours bootTime) events)
    (ran : run rebootStep
      (RebootState.boot scheduledResetEnabled resetIntervalHours bootTime) events = some last) :
    NoResetLost last := by
  have initially (impossible : unserved [] = true) : ResetUnderWay
      (RebootState.boot scheduledResetEnabled resetIntervalHours bootTime) :=
    absurd impossible Bool.false_ne_true
  have kept : unserved last.marks = true → ResetUnderWay last :=
    @invariant_of_guarded RebootState RebootEvent rebootStep WaitsForReset
      (fun state => unserved state.marks = true → ResetUnderWay state)
      (fun _ _ _ => resetUnderWay_step) _ last events initially waits ran
  intro restarted later earlier split
  refine resetRun_mem_of_served ?_ split
  rw [Bool.eq_false_iff]
  intro pending
  exact not_resetUnderWay_restarted restarted (kept pending)

/-- One iteration of `loop` behind a request, with one reading of the clock. -/
def iteration (action : RestartAction) (now : UInt32) : List RebootEvent :=
  [.request action, .loop now true, .loop now true, .loop now true]

/-- A reboot that is requested 300 milliseconds behind a factory reset. -/
theorem reboot_overtakes_factory_reset :
    ∃ last,
      run rebootStep (RebootState.boot false 24 0)
        (iteration .factory_reset 60000 ++ iteration .reboot 60300 ++
          [.loop 60900 true, .loop 60900 true, .loop 60900 true, .loop 60950 true]) =
        some last ∧
      ¬ NoResetLost last := by
  refine ⟨_, rfl, fun noneLost => ?_⟩
  have lost := noneLost rfl [.answered .reboot] [] rfl
  exact absurd lost (by decide)

/-- A factory reset behind a reboot that is requested first. -/
def resetBehindReboot : List RebootEvent :=
  iteration .reboot 60000 ++ iteration .factory_reset 60300 ++
    [.loop 60900 true, .loop 60900 true, .loop 60900 true, .loop 60900 true,
      .loop 60950 true]

theorem factory_reset_overtakes_reboot :
    ∃ last,
      run rebootStep (RebootState.boot false 24 0) resetBehindReboot = some last ∧
      last.core0 = .restarted ∧ NoResetLost last :=
  ⟨_, rfl, rfl, noResetLost_of_guarded false 24 0 resetBehindReboot _ (by decide) rfl⟩

end EchoMic
