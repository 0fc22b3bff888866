import EchoMic.WireGuardManager

/-!
# Calls of the manager in single accesses

The calls of the manager are modelled twice.  As a whole, a call is one piece
in which the resolving task has written what it likes between any two accesses
to its results; in single accesses, the task runs step by step beside Core 0.
This file proves that whatever happens in single accesses is a run of whole
calls.
-/

namespace EchoMic

open GuardedRuns
open WireGuardState

/-! ## What both models show -/

/-- `IPAddress(uint32_t)`, with the first byte in the lowest place. -/
def IPAddress.ofWord (word : Nat) : IPAddress :=
  ⟨UInt8.ofNat word, UInt8.ofNat (word / 0x100), UInt8.ofNat (word / 0x10000),
    UInt8.ofNat (word / 0x1000000)⟩

/-- `s_resolvedEndpointIP`. -/
def resolvedText : Option ResolvedIP → String
  | none => ""
  | some ip => (IPAddress.ofWord ip.address).toString

/-- The variables of the manager that both models have. -/
structure WgView where
  enabled : Bool
  privateKey : String
  serverPublicKey : String
  endpointHost : String
  tunnelAddress : String
  initialized : Bool
  state : WgState
  dnsTaskHandle : Bool
  resolvedEndpointIP : String
  dnsDone : Bool
  dnsFailed : Bool
  dnsGeneration : UInt8

def WireGuardState.view (wg : WireGuardState) : WgView where
  enabled := wg.config.enabled
  privateKey := wg.config.privateKey
  serverPublicKey := wg.config.serverPublicKey
  endpointHost := wg.config.endpointHost
  tunnelAddress := wg.config.tunnelAddress
  initialized := wg.tunnel.isSome
  state := wg.state
  dnsTaskHandle := wg.dnsTaskHandle
  resolvedEndpointIP := wg.resolvedEndpointIP
  dnsDone := wg.dnsDone
  dnsFailed := wg.dnsFailed
  dnsGeneration := wg.dnsGeneration

def WgShared.view (shared : WgShared) : WgView where
  enabled := shared.enabled
  privateKey := shared.privateKey
  serverPublicKey := shared.serverPublicKey
  endpointHost := shared.endpointHost
  tunnelAddress := shared.tunnelAddress
  initialized := shared.initialized
  state := shared.state
  dnsTaskHandle := shared.dnsTaskHandle
  resolvedEndpointIP := resolvedText shared.resolvedEndpointIP
  dnsDone := shared.dnsDone
  dnsFailed := shared.dnsFailed
  dnsGeneration := shared.dnsGeneration

theorem resolvedText_eq_empty_iff (ip : Option ResolvedIP) : resolvedText ip = "" ↔ ip = none := by
  cases ip with
  | none => simp [resolvedText]
  | some ip =>
      simp only [resolvedText, reduceCtorEq, iff_false]
      intro empty
      have length := congrArg String.length empty
      simp [IPAddress.toString] at length

/-! ## What the resolving task has written -/

/-- Two updates in one. -/
def DnsUpdate.followedBy (first second : DnsUpdate) : DnsUpdate where
  resolved := second.resolved <|> first.resolved
  done := first.done || second.done
  failed := second.failed <|> first.failed
  ended := first.ended || second.ended

namespace WgView

def runs (update : DnsUpdate) (view : WgView) : WgView :=
  { view with
    resolvedEndpointIP := update.resolved.getD view.resolvedEndpointIP
    dnsDone := view.dnsDone || update.done
    dnsFailed := update.failed.getD view.dnsFailed
    dnsTaskHandle := view.dnsTaskHandle && !update.ended }

@[simp]
theorem runs_idle (view : WgView) : view.runs .idle = view := by
  simp [runs, DnsUpdate.idle]

theorem runs_followedBy (first second : DnsUpdate) (view : WgView) :
    view.runs (first.followedBy second) = (view.runs first).runs second := by
  cases resolved : second.resolved <;> cases failed : second.failed <;>
    simp [runs, DnsUpdate.followedBy, resolved, failed, Bool.or_assoc, Bool.and_assoc]

end WgView

/-- A step of the task writes an update. -/
theorem exists_update_dnsTaskStep (answer : Option Nat) (shared : WgShared) (task : DnsTask) :
    ∃ update, (dnsTaskStep answer shared task).1.view = shared.view.runs update := by
  cases pc : task.pc with
  | store ip =>
      refine ⟨⟨some (resolvedText (some ip)), false, none, false⟩, ?_⟩
      simp [dnsTaskStep, pc, WgShared.view, WgView.runs]
  | setDone =>
      refine ⟨⟨none, true, none, false⟩, ?_⟩
      simp [dnsTaskStep, pc, WgShared.view, WgView.runs]
  | setFailed =>
      refine ⟨⟨none, false, some (!task.success), false⟩, ?_⟩
      simp [dnsTaskStep, pc, WgShared.view, WgView.runs]
  | cleanup =>
      refine ⟨⟨none, false, none, true⟩, ?_⟩
      simp [dnsTaskStep, pc, WgShared.view, WgView.runs]
  | _ => exact ⟨.idle, by simp [dnsTaskStep, pc]⟩

/-! ## The rest of a call -/

namespace WgView

def withState (state : WgState) (view : WgView) : WgView :=
  { view with state := state }

def bump (view : WgView) : WgView :=
  { view with dnsGeneration := view.dnsGeneration + 1 }

def forget (view : WgView) : WgView :=
  { view with
    dnsDone := false
    dnsFailed := false
    resolvedEndpointIP := "" }

def cancel (update : DnsUpdate) (view : WgView) : WgView :=
  let view := view.runs update
  if view.dnsTaskHandle then view.bump else view.forget

/-- What `wg_stop` does behind the cancellation. -/
def ended (view : WgView) : WgView :=
  { view with
    initialized := false
    state := if view.enabled then .waitTime else .disabled }

def stop (update : DnsUpdate) (view : WgView) : WgView :=
  (view.cancel update).ended

def stopIfInitialized (update : DnsUpdate) (view : WgView) : WgView :=
  if view.initialized then view.stop update else view

theorem enabled_cancel (update : DnsUpdate) (view : WgView) :
    (view.cancel update).enabled = view.enabled := by
  simp only [cancel]
  split <;> rfl

/-- A manager that is not enabled is disabled by a stop. -/
theorem stopIfInitialized_of_disabled {view : WgView} (disabled : view.enabled = false)
    (update : DnsUpdate) :
    (view.stopIfInitialized update).withState .disabled =
      if view.initialized then view.stop update else view.withState .disabled := by
  have stops : (view.stop update).state = .disabled := by
    simp only [stop, ended, enabled_cancel, disabled]
    rfl
  unfold stopIfInitialized
  split
  · rw [← stops]
    rfl
  · rfl

def canBegin (view : WgView) : Bool :=
  !view.initialized && view.privateKey ≠ "" && view.serverPublicKey ≠ "" &&
    view.endpointHost ≠ "" && view.tunnelAddress ≠ ""

end WgView

/-- The access at which a caller of `_cancelDNS` tests the handle. -/
def CancelCaller.access : CancelCaller → DnsAccess
  | .stop | .stopForWifi => .stopCancel
  | _ => .cancel

/-- What a caller of `_cancelDNS` does behind it. -/
def CancelCaller.rest (update : DnsUpdate) (view : WgView) : CancelCaller → WgView
  | .setting | .waitTime => view.stopIfInitialized update
  | .enabledOff => view.stop update
  | .enabledOn => view.withState .waitTime
  | .disabled =>
      if view.initialized then view.stop update else view.withState .disabled
  | .waitWifi => (view.stopIfInitialized update).withState .waitWifi
  | .stop => view.ended
  | .stopForWifi => view.ended.withState .waitWifi

/-- What the rest of a call finds: whether the time for an attempt has come,
whether the task is created and the tunnel begins, and what the task writes
meanwhile. -/
structure WgAnswers where
  due : Bool
  created : Bool
  begins : Bool
  dns : DnsAccess → DnsUpdate

section Rest

variable (parses : String → Bool) (answers : WgAnswers)

namespace WgView

def startTunnel (view : WgView) : WgView :=
  { view with initialized := answers.begins && parses view.tunnelAddress }

def takeAddress (failed : Bool) (ip : String) (view : WgView) : WgView :=
  if failed || ip = "" then view else view.startTunnel parses answers

def takeResolution (view : WgView) : WgView :=
  view.forget.takeAddress parses answers view.dnsFailed view.resolvedEndpointIP

def createTask (view : WgView) : WgView :=
  let view := { view with dnsTaskHandle := answers.created }
  (view.runs (answers.dns .createdHandle)).withState .connecting

def begin (view : WgView) : WgView :=
  if view.canBegin then
    let view := view.runs (answers.dns .beginHandle)
    if view.dnsTaskHandle then view
    else if view.dnsDone then view.takeResolution parses answers
    else view.bump.createTask answers
  else view

def awaitTask (view : WgView) : WgView :=
  let view := view.runs (answers.dns .tickHandle)
  if view.dnsTaskHandle then view.withState .connecting
  else if answers.due then view.begin parses answers
  else view

def testFailed (view : WgView) : WgView :=
  let view := view.runs (answers.dns .tickFailed)
  if view.dnsFailed then view.awaitTask parses answers else view.begin parses answers

end WgView

/-- What is left of a call from a program point on, as one piece. -/
def WgPc.rest (view : WgView) : WgPc → WgView
  | .loop => view
  | .testCancel caller =>
      let view := view.runs (answers.dns .testHandle)
      caller.rest (answers.dns .stopCancel)
        (if view.dnsTaskHandle then view.cancel (answers.dns caller.access) else view)
  | .cancelTestHandle caller =>
      caller.rest (answers.dns .stopCancel) (view.cancel (answers.dns caller.access))
  | .cancelBump caller => caller.rest (answers.dns .stopCancel) view.bump
  | .cancelClearDone caller => caller.rest (answers.dns .stopCancel) view.forget
  | .cancelClearFailed caller =>
      caller.rest (answers.dns .stopCancel)
        { view with
          dnsFailed := false
          resolvedEndpointIP := "" }
  | .cancelClearIP caller =>
      caller.rest (answers.dns .stopCancel) { view with resolvedEndpointIP := "" }
  | .tickTestDone =>
      let view := view.runs (answers.dns .tickDone)
      if view.dnsDone then view.testFailed parses answers
      else (view.runs (answers.dns .tickFailed)).awaitTask parses answers
  | .tickTestFailed => view.testFailed parses answers
  | .tickTestHandle => view.awaitTask parses answers
  | .beginTestHandle => view.begin parses answers
  | .beginTestDone =>
      if view.dnsDone then view.takeResolution parses answers else view.bump.createTask answers
  | .beginReadFailed => view.takeResolution parses answers
  | .beginReadIP failed =>
      view.forget.takeAddress parses answers failed view.resolvedEndpointIP
  | .beginClearDone failed ip =>
      view.forget.takeAddress parses answers failed (resolvedText ip)
  | .beginClearFailed failed ip =>
      WgView.takeAddress parses answers failed (resolvedText ip)
        { view with
          dnsFailed := false
          resolvedEndpointIP := "" }
  | .beginClearIP failed ip =>
      WgView.takeAddress parses answers failed (resolvedText ip)
        { view with resolvedEndpointIP := "" }
  | .startTunnelWithIP _ => view.startTunnel parses answers
  | .beginBump => view.bump.createTask answers
  | .beginCreate => view.createTask answers

end Rest

/-! ## Single accesses -/

/-- The task writes an update before an access. -/
def WgAnswers.at (answers : WgAnswers) (access : DnsAccess) (update : DnsUpdate) : WgAnswers :=
  { answers with dns := Function.update answers.dns access update }

@[simp]
theorem WgAnswers.dns_at (answers : WgAnswers) (access : DnsAccess) (update : DnsUpdate) :
    (answers.at access update).dns access = update :=
  Function.update_self ..

theorem WgAnswers.dns_at_of_ne (answers : WgAnswers) {access other : DnsAccess}
    (apart : other ≠ access) (update : DnsUpdate) :
    (answers.at access update).dns other = answers.dns other :=
  Function.update_of_ne apart ..

/-- Core 0 goes on from `view`, and what the task has written since is still
to be read.  There is nothing to be read where Core 0 is alone. -/
structure Follows (view : WgView) (shared : WgShared) (pc : WgPc) : Prop where
  pending : ∃ update, view.runs update = shared.view
  alone : pc.isAlone = true → view = shared.view

theorem follows_view (shared : WgShared) (pc : WgPc) : Follows shared.view shared pc :=
  ⟨⟨.idle, WgView.runs_idle _⟩, fun _ => rfl⟩

theorem follows_of_notAlone {view : WgView} {shared : WgShared} {pc : WgPc} {update : DnsUpdate}
    (same : view.runs update = shared.view) (notAlone : pc.isAlone ≠ true) :
    Follows view shared pc :=
  ⟨⟨update, same⟩, fun alone => absurd alone notAlone⟩

section Rest

variable (parses : String → Bool)

/-- From `pc` and `view` on, Core 0 does what is left from `pc'` and `next` on. -/
def Continues (view : WgView) (pc : WgPc) (next : WgView) (pc' : WgPc) : Prop :=
  ∀ later : WgAnswers, ∃ answers, pc.rest parses answers view = pc'.rest parses later next

theorem begin_at (view : WgView) (answers : WgAnswers) {access : DnsAccess} (update : DnsUpdate)
    (begins : DnsAccess.beginHandle ≠ access) (creates : DnsAccess.createdHandle ≠ access) :
    view.begin parses (answers.at access update) = view.begin parses answers := by
  simp only [WgView.begin, WgView.createTask, answers.dns_at_of_ne begins,
    answers.dns_at_of_ne creates]
  rfl

theorem awaitTask_at (view : WgView) (answers : WgAnswers) {access : DnsAccess}
    (update : DnsUpdate) (tests : DnsAccess.tickHandle ≠ access)
    (begins : DnsAccess.beginHandle ≠ access) (creates : DnsAccess.createdHandle ≠ access) :
    view.awaitTask parses (answers.at access update) = view.awaitTask parses answers := by
  simp only [WgView.awaitTask, answers.dns_at_of_ne tests,
    begin_at parses _ answers update begins creates]
  rfl

theorem testFailed_at (view : WgView) (answers : WgAnswers) (update : DnsUpdate) :
    view.testFailed parses (answers.at .tickDone update) = view.testFailed parses answers := by
  simp only [WgView.testFailed, answers.dns_at_of_ne (show DnsAccess.tickFailed ≠ .tickDone by
    decide), awaitTask_at parses _ answers update (show _ ≠ DnsAccess.tickDone by decide)
      (by decide) (by decide), begin_at parses _ answers update
        (show _ ≠ DnsAccess.tickDone by decide) (by decide)]

/-- Behind `_cancelDNS`. -/
theorem afterCancel_continues (caller : CancelCaller) {view : WgView} {shared : WgShared}
    {update : DnsUpdate} (same : view.runs update = shared.view) :
    ∃ next, Follows next (caller.afterCancel shared).1 (caller.afterCancel shared).2 ∧
      ∀ answers : WgAnswers, caller.rest (answers.dns .stopCancel) view =
        (caller.afterCancel shared).2.rest parses answers next := by
  have initialized : view.initialized = shared.initialized := congrArg WgView.initialized same
  have notAlone := (afterCancel_knowsNothing shared caller).alone
  cases caller <;> simp only [CancelCaller.afterCancel] at notAlone ⊢
  case enabledOff => exact ⟨view, follows_of_notAlone same notAlone, fun _ => rfl⟩
  case enabledOn =>
    exact ⟨view.withState .waitTime,
      follows_of_notAlone (congrArg (WgView.withState .waitTime) same) notAlone, fun _ => rfl⟩
  case stop =>
    exact ⟨view.ended, follows_of_notAlone (congrArg WgView.ended same) notAlone, fun _ => rfl⟩
  case stopForWifi =>
    exact ⟨view.ended.withState .waitWifi, follows_of_notAlone
      (congrArg (fun shown : WgView => shown.ended.withState .waitWifi) same) notAlone,
      fun _ => rfl⟩
  -- the others go on to `wg_stop` while the interface is there
  case setting | waitTime =>
    by_cases initially : shared.initialized = true
    · simp only [if_pos initially] at notAlone ⊢
      refine ⟨view, follows_of_notAlone same notAlone, fun answers => ?_⟩
      simp [CancelCaller.rest, WgView.stopIfInitialized, WgView.stop, CancelCaller.access,
        initialized, initially, WgPc.rest]
    · simp only [if_neg initially] at notAlone ⊢
      refine ⟨view, follows_of_notAlone same notAlone, fun answers => ?_⟩
      simp [CancelCaller.rest, WgView.stopIfInitialized, initialized, initially, WgPc.rest]
  case disabled =>
    by_cases initially : shared.initialized = true
    · simp only [if_pos initially] at notAlone ⊢
      refine ⟨view, follows_of_notAlone same notAlone, fun answers => ?_⟩
      simp [CancelCaller.rest, WgView.stop, CancelCaller.access, initialized, initially,
        WgPc.rest]
    · simp only [if_neg initially] at notAlone ⊢
      refine ⟨view.withState .disabled, follows_of_notAlone
        (congrArg (WgView.withState .disabled) same) notAlone, fun answers => ?_⟩
      simp [CancelCaller.rest, initialized, initially, WgPc.rest]
  case waitWifi =>
    by_cases initially : shared.initialized = true
    · simp only [if_pos initially] at notAlone ⊢
      refine ⟨view, follows_of_notAlone same notAlone, fun answers => ?_⟩
      simp [CancelCaller.rest, WgView.stopIfInitialized, WgView.stop, CancelCaller.access,
        initialized, initially, WgPc.rest]
    · simp only [if_neg initially] at notAlone ⊢
      refine ⟨view.withState .waitWifi, follows_of_notAlone
        (congrArg (WgView.withState .waitWifi) same) notAlone, fun answers => ?_⟩
      simp [CancelCaller.rest, WgView.stopIfInitialized, initialized, initially, WgPc.rest]

/-- A single access of Core 0 leaves what is left of the call as it is. -/
def StepContinues (env : WgEnv) (shared : WgShared) (pc : WgPc) (view : WgView) : Prop :=
  ∃ next, Follows next (wgStep env shared pc).1 (wgStep env shared pc).2 ∧
    Continues parses view pc next (wgStep env shared pc).2

section Accesses

variable (env : WgEnv) {shared : WgShared} {view : WgView} {update : DnsUpdate}

theorem testCancel_continues (caller : CancelCaller) (same : view.runs update = shared.view) :
    StepContinues parses env shared (.testCancel caller) view := by
  have other : caller.access ≠ .testHandle := by cases caller <;> decide
  simp only [StepContinues, wgStep]
  by_cases runs : shared.dnsTaskHandle = true
  · simp only [if_pos runs]
    refine ⟨shared.view, follows_view _ _, fun later => ⟨later.at .testHandle update, ?_⟩⟩
    have handle : shared.view.dnsTaskHandle = true := runs
    simp only [WgPc.rest, WgAnswers.dns_at, same, handle, if_true,
      later.dns_at_of_ne other,
      later.dns_at_of_ne (show DnsAccess.stopCancel ≠ .testHandle by decide)]
  · simp only [if_neg runs]
    obtain ⟨next, follows, continues⟩ := afterCancel_continues parses caller
      (WgView.runs_idle shared.view)
    refine ⟨next, follows, fun later => ⟨later.at .testHandle update, ?_⟩⟩
    have handle : shared.view.dnsTaskHandle = false := Bool.not_eq_true _ ▸ runs
    rw [← continues later]
    simp only [WgPc.rest, WgAnswers.dns_at, same, handle, Bool.false_eq_true, if_false,
      later.dns_at_of_ne (show DnsAccess.stopCancel ≠ .testHandle by decide)]

theorem cancelTestHandle_continues (caller : CancelCaller) (same : view.runs update = shared.view) :
    StepContinues parses env shared (.cancelTestHandle caller) view := by
  simp only [StepContinues, wgStep]
  refine ⟨shared.view, follows_view _ _, fun later => ⟨later.at caller.access update, ?_⟩⟩
  have cancels : view.cancel ((later.at caller.access update).dns caller.access) =
      if shared.dnsTaskHandle then shared.view.bump else shared.view.forget := by
    rw [WgAnswers.dns_at, WgView.cancel, same]
    rfl
  have others : ∀ view : WgView,
      caller.rest ((later.at caller.access update).dns .stopCancel) view =
        caller.rest (later.dns .stopCancel) view := by
    intro view
    cases caller <;> rfl
  rw [WgPc.rest, cancels, others]
  split <;> rfl

theorem tickTestDone_continues (same : view.runs update = shared.view) :
    StepContinues parses env shared .tickTestDone view := by
  simp only [StepContinues, wgStep]
  refine ⟨shared.view, follows_view _ _, fun later => ?_⟩
  cases done : shared.dnsDone with
  | true =>
      have found : shared.view.dnsDone = true := done
      refine ⟨later.at .tickDone update, ?_⟩
      simp only [WgPc.rest, WgAnswers.dns_at, same, found, if_true, testFailed_at]
  | false =>
      have found : shared.view.dnsDone = false := done
      refine ⟨(later.at .tickDone update).at .tickFailed .idle, ?_⟩
      simp only [WgPc.rest, WgAnswers.dns_at, Bool.false_eq_true, if_false,
        (later.at .tickDone update).dns_at_of_ne (show DnsAccess.tickDone ≠ .tickFailed by
          decide), same, found, WgView.runs_idle]
      rw [awaitTask_at _ _ _ _ (by decide) (by decide) (by decide),
        awaitTask_at _ _ _ _ (by decide) (by decide) (by decide)]

theorem tickTestFailed_continues (same : view.runs update = shared.view) :
    StepContinues parses env shared .tickTestFailed view := by
  simp only [StepContinues, wgStep]
  refine ⟨shared.view, follows_view _ _, fun later => ⟨later.at .tickFailed update, ?_⟩⟩
  simp only [WgPc.rest, WgView.testFailed, WgAnswers.dns_at, same]
  rw [awaitTask_at _ _ _ _ (by decide) (by decide) (by decide),
    begin_at _ _ _ _ (by decide) (by decide)]
  change (if shared.dnsFailed then _ else _) = _
  split <;> rfl

theorem tickTestHandle_continues (same : view.runs update = shared.view) :
    StepContinues parses env shared .tickTestHandle view := by
  simp only [StepContinues, wgStep]
  by_cases running : shared.dnsTaskHandle = true
  · simp only [if_pos running]
    refine ⟨shared.view.withState .connecting, follows_view
      { shared with state := .connecting } _, fun later => ⟨later.at .tickHandle update, ?_⟩⟩
    have handle : shared.view.dnsTaskHandle = true := running
    simp only [WgPc.rest, WgView.awaitTask, WgAnswers.dns_at, same, handle, if_true]
  · simp only [if_neg running]
    refine ⟨shared.view, follows_view _ _,
      fun later => ⟨{ later.at .tickHandle update with due := env.due }, ?_⟩⟩
    have handle : shared.view.dnsTaskHandle = false := Bool.not_eq_true _ ▸ running
    have begins : shared.view.begin parses
        { later.at .tickHandle update with due := env.due } =
          shared.view.begin parses later :=
      begin_at parses _ later update (show DnsAccess.beginHandle ≠ .tickHandle by decide)
        (by decide)
    simp only [WgPc.rest, WgView.awaitTask, WgAnswers.dns_at, same, handle,
      Bool.false_eq_true, if_false, begins]
    cases env.due <;> rfl

theorem beginTestHandle_continues (same : view.runs update = shared.view) :
    StepContinues parses env shared .beginTestHandle view := by
  have canBegin : view.canBegin = shared.canBegin := congrArg WgView.canBegin same
  simp only [StepContinues, wgStep]
  cases can : shared.canBegin with
  | false =>
      refine ⟨view, follows_of_notAlone same Bool.false_ne_true, fun later => ⟨later, ?_⟩⟩
      simp only [WgPc.rest, WgView.begin, canBegin, can, Bool.false_eq_true, if_false,
        Bool.false_and]
  | true =>
      refine ⟨shared.view, follows_view _ _, fun later => ⟨later.at .beginHandle update, ?_⟩⟩
      simp only [WgPc.rest, WgView.begin, canBegin, can, if_true, Bool.true_and,
        WgAnswers.dns_at, same]
      cases handle : shared.dnsTaskHandle with
      | true =>
          have handle : shared.view.dnsTaskHandle = true := handle
          simp only [handle, if_true, Bool.not_true, Bool.false_eq_true, if_false]
      | false =>
          have handle : shared.view.dnsTaskHandle = false := handle
          simp only [handle, Bool.not_false, if_true, Bool.false_eq_true, if_false]
          rfl

theorem beginClearIP_continues (failed : Bool) (ip : Option ResolvedIP) :
    StepContinues parses env shared (.beginClearIP failed ip) shared.view := by
  simp only [StepContinues, wgStep]
  refine ⟨_, follows_view { shared with resolvedEndpointIP := none } _,
    fun later => ⟨later, ?_⟩⟩
  cases ip with
  | none =>
      simp only [WgPc.rest, WgView.takeAddress, (resolvedText_eq_empty_iff none).mpr rfl]
      simp only [decide_true, Bool.or_true, if_true]
      rfl
  | some ip =>
      have notEmpty : resolvedText (some ip) ≠ "" := fun empty =>
        Option.some_ne_none ip ((resolvedText_eq_empty_iff (some ip)).mp empty)
      simp only [WgPc.rest, WgView.takeAddress, notEmpty, decide_false, Bool.or_false,
        afterTaking]
      cases failed <;> rfl

theorem startTunnelWithIP_continues (ip : ResolvedIP)
    (same : view.runs update = shared.view)
    (begins : env.begins = true → parses shared.tunnelAddress = true) :
    StepContinues parses env shared (.startTunnelWithIP ip) view := by
  have address : view.tunnelAddress = shared.tunnelAddress := congrArg WgView.tunnelAddress same
  refine ⟨{ view with initialized := env.begins }, follows_of_notAlone
    (congrArg (fun shown : WgView => { shown with initialized := env.begins }) same)
    Bool.false_ne_true, fun later => ⟨{ later with begins := env.begins }, ?_⟩⟩
  have parsed : (env.begins && parses view.tunnelAddress) = env.begins := by
    cases begun : env.begins with
    | false => rfl
    | true => rw [address, begins begun, Bool.and_self]
  simp only [WgPc.rest, WgView.startTunnel, parsed, wgStep]

end Accesses

/-- A single access inside a call. -/
theorem wgStep_continues {env : WgEnv} {shared : WgShared} {pc : WgPc} {view : WgView}
    (follows : Follows view shared pc) (busy : pc ≠ .loop)
    (begins : env.begins = true → parses shared.tunnelAddress = true) :
    StepContinues parses env shared pc view := by
  obtain ⟨⟨update, same⟩, alone⟩ := follows
  cases pc with
  | loop => exact absurd rfl busy
  | testCancel caller => exact testCancel_continues parses env caller same
  | cancelTestHandle caller => exact cancelTestHandle_continues parses env caller same
  | cancelBump caller =>
      simp only [StepContinues, wgStep]
      have bumped : view.bump.runs update =
          ({ shared with dnsGeneration := shared.dnsGeneration + 1 } : WgShared).view :=
        congrArg WgView.bump same
      obtain ⟨next, follows, continues⟩ := afterCancel_continues parses caller bumped
      exact ⟨next, follows, fun later => ⟨later, continues later⟩⟩
  | cancelClearIP caller =>
      cases alone rfl
      simp only [StepContinues, wgStep]
      obtain ⟨next, follows, continues⟩ := afterCancel_continues parses caller
        (WgView.runs_idle ({ shared with resolvedEndpointIP := none } : WgShared).view)
      exact ⟨next, follows, fun later => ⟨later, continues later⟩⟩
  | tickTestDone => exact tickTestDone_continues parses env same
  | tickTestFailed => exact tickTestFailed_continues parses env same
  | tickTestHandle => exact tickTestHandle_continues parses env same
  | beginTestHandle => exact beginTestHandle_continues parses env same
  | beginTestDone =>
      cases alone rfl
      simp only [StepContinues, wgStep]
      refine ⟨shared.view, follows_view _ _, fun later => ⟨later, ?_⟩⟩
      change (if shared.dnsDone then _ else _) = _
      split <;> rfl
  | beginClearIP failed ip =>
      cases alone rfl
      exact beginClearIP_continues parses env failed ip
  | startTunnelWithIP ip => exact startTunnelWithIP_continues parses env ip same begins
  | beginCreate =>
      cases alone rfl
      refine ⟨_, follows_view
          { shared with
            dnsTaskHandle := env.created
            state := .connecting } _,
        fun later => ⟨{ later.at .createdHandle .idle with created := env.created }, ?_⟩⟩
      simp only [WgPc.rest, WgView.createTask, WgAnswers.dns_at, WgView.runs_idle, wgStep]
      rfl
  -- the other points are reached alone, and only clear or copy a variable
  | cancelClearDone | cancelClearFailed | beginReadFailed | beginReadIP | beginClearDone
  | beginClearFailed | beginBump =>
      cases alone rfl
      exact ⟨_, follows_view _ _, fun later => ⟨later, rfl⟩⟩

end Rest

/-! ## Whole calls -/

section Calls

variable (fromString : String → Option IPAddress)

/-- `_startTunnelWithIP` goes on with the address. -/
def addressParses (addr : String) : Bool :=
  (parseTunnelAddress fromString addr).isSome

/-- What the outside of a whole call answers. -/
def WgOutside.answers (outside : WgOutside) (due : Bool) : WgAnswers where
  due := due
  created := outside.created
  begins := outside.begins
  dns := outside.dns

variable (outside : WgOutside) (wg : WireGuardState)

theorem view_cancelDNS (update : DnsUpdate) (reason : String) :
    (cancelDNS update reason wg).view = wg.view.cancel update := by
  simp only [cancelDNS, WgView.cancel]
  change _ = if (wg.dnsRuns update).dnsTaskHandle then _ else _
  split <;> rfl

theorem view_cancelIfResolving (reason : String) :
    (cancelIfResolving outside reason wg).view =
      if (wg.view.runs (outside.dns .testHandle)).dnsTaskHandle then
        (wg.view.runs (outside.dns .testHandle)).cancel (outside.dns .cancel)
      else wg.view.runs (outside.dns .testHandle) := by
  simp only [cancelIfResolving]
  change _ = if (wg.dnsRuns (outside.dns .testHandle)).dnsTaskHandle then _ else _
  split
  · exact view_cancelDNS _ _ reason
  · rfl

theorem view_endTunnel : (endTunnel wg).view = { wg.view with initialized := false } := by
  unfold endTunnel
  split
  · rfl
  · rename_i noTunnel
    have notInitialized : wg.view.initialized = false := Bool.not_eq_true _ ▸ noTunnel
    rw [← notInitialized]

theorem view_wgStop : (wgStop outside wg).view = wg.view.stop (outside.dns .stopCancel) := by
  have cancelled := view_cancelDNS wg (outside.dns .stopCancel) "stop"
  have ended := view_endTunnel (cancelDNS (outside.dns .stopCancel) "stop" wg)
  rw [cancelled] at ended
  exact congrArg
    (fun view : WgView => { view with state := if view.enabled then .waitTime else .disabled })
    ended

theorem view_stopIfInitialized :
    (stopIfInitialized outside wg).view =
      wg.view.stopIfInitialized (outside.dns .stopCancel) := by
  unfold stopIfInitialized WgView.stopIfInitialized
  change _ = if wg.tunnel.isSome then _ else _
  split
  · exact view_wgStop outside wg
  · rfl

theorem view_changeConfig (reason : String) (config : WgConfig) :
    (changeConfig reason config outside wg).view =
      ({ wg with config := config }.view.cancel (outside.dns .cancel)).stopIfInitialized
        (outside.dns .stopCancel) := by
  rw [changeConfig, view_stopIfInitialized, view_cancelDNS]
  rfl

variable {wg}

theorem view_startTunnelWithIP (noTunnel : wg.tunnel = none) (resolvedIP : String)
    (due : Bool) :
    (startTunnelWithIP fromString outside resolvedIP wg).view =
      wg.view.startTunnel (addressParses fromString) (outside.answers due) := by
  have notInitialized : wg.view.initialized = false := by
    change wg.tunnel.isSome = false
    rw [noTunnel]
    rfl
  cases parsed : parseTunnelAddress fromString wg.config.tunnelAddress with
  | none =>
      have refused : addressParses fromString wg.view.tunnelAddress = false :=
        congrArg Option.isSome parsed
      simp only [startTunnelWithIP, parsed, WgView.startTunnel, refused, Bool.and_false]
      rw [← notInitialized]
      rfl
  | some address =>
      have accepted : addressParses fromString wg.view.tunnelAddress = true :=
        congrArg Option.isSome parsed
      simp only [startTunnelWithIP, parsed, WgView.startTunnel, accepted, Bool.and_true]
      change _ = { wg.view with initialized := outside.begins }
      split
      · rename_i begins
        rw [begins]
        rfl
      · rename_i refused
        rw [Bool.eq_false_iff.mpr refused, ← notInitialized]
        rfl

theorem view_takeResolution (noTunnel : wg.tunnel = none) (due : Bool) :
    (takeResolution fromString outside wg).view =
      wg.view.takeResolution (addressParses fromString) (outside.answers due) := by
  simp only [takeResolution, WgView.takeResolution, WgView.takeAddress]
  change _ = if wg.dnsFailed || wg.resolvedEndpointIP = "" then _ else _
  split
  · rfl
  · rw [view_startTunnelWithIP fromString outside _ _ due]
    · rfl
    · exact noTunnel

theorem view_startResolution (due : Bool) :
    (startResolution outside wg).view =
      wg.view.bump.createTask (outside.answers due) := by
  simp only [startResolution]
  split <;> rfl

theorem view_wgBegin (due : Bool) :
    (wgBegin fromString outside wg).view =
      wg.view.begin (addressParses fromString) (outside.answers due) := by
  have canBegin : wg.view.canBegin = true ↔ wg.tunnel.isSome = false ∧
      ¬ (wg.config.privateKey = "" ∨ wg.config.serverPublicKey = "") ∧
      wg.config.endpointHost ≠ "" ∧ wg.config.tunnelAddress ≠ "" := by
    change (!wg.tunnel.isSome && wg.config.privateKey ≠ "" && wg.config.serverPublicKey ≠ "" &&
      wg.config.endpointHost ≠ "" && wg.config.tunnelAddress ≠ "") = true ↔ _
    simp [and_assoc]
  unfold wgBegin WgView.begin
  by_cases begins : wg.view.canBegin = true
  · obtain ⟨noTunnel, keys, host, address⟩ := canBegin.mp begins
    rw [if_neg (by rw [noTunnel]; nofun), if_neg keys, if_neg host, if_neg address,
      if_pos begins]
    have noTunnel : (wg.dnsRuns (outside.dns .beginHandle)).tunnel = none :=
      Option.not_isSome_iff_eq_none.mp (Bool.eq_false_iff.mp noTunnel)
    simp only
    change _ = if (wg.dnsRuns (outside.dns .beginHandle)).dnsTaskHandle then _
      else if (wg.dnsRuns (outside.dns .beginHandle)).dnsDone then _ else _
    split
    · rfl
    · split
      · exact view_takeResolution fromString outside noTunnel due
      · exact view_startResolution outside due
  · rw [if_neg begins]
    (repeat' split) <;> first
      | rfl
      | exact absurd (canBegin.mpr (by simp_all)) begins

/-- The part of `wg_tick` that waits for a task or for the backoff. -/
theorem view_waits {due : Bool}
    (waits : outside.millis32 - wg.lastAttemptMs < wg.backoffMs ↔ due = false) :
    (if wg.dnsTaskHandle then { wg with state := .connecting }
      else if outside.millis32 - wg.lastAttemptMs < wg.backoffMs then wg
      else wgBegin fromString outside wg).view =
        if wg.view.dnsTaskHandle then wg.view.withState .connecting
        else if due then wg.view.begin (addressParses fromString) (outside.answers due)
        else wg.view := by
  change _ = if wg.dnsTaskHandle then _ else _
  split
  · rfl
  · cases due with
    | true =>
        rw [if_neg (fun early => nomatch waits.mp early), if_pos rfl]
        exact view_wgBegin fromString outside true
    | false => rw [if_pos (waits.mpr rfl), if_neg Bool.false_ne_true]

theorem view_awaitTunnel {due : Bool}
    (waits : outside.millis32 - wg.lastAttemptMs < wg.backoffMs ↔ due = false) :
    (awaitTunnel fromString outside wg).view =
      WgPc.rest (addressParses fromString) (outside.answers due) wg.view .tickTestDone := by
  simp only [awaitTunnel, WgPc.rest, WgView.testFailed, WgView.awaitTask]
  have tail := @view_waits fromString outside
    (((wg.dnsRuns (outside.dns .tickDone)).dnsRuns (outside.dns .tickFailed)).dnsRuns
      (outside.dns .tickHandle)) due waits
  change _ = if (wg.dnsRuns (outside.dns .tickDone)).dnsDone then
      if ((wg.dnsRuns (outside.dns .tickDone)).dnsRuns (outside.dns .tickFailed)).dnsFailed
      then _ else _
    else _
  cases (wg.dnsRuns (outside.dns .tickDone)).dnsDone with
  | false => exact tail
  | true =>
      cases ((wg.dnsRuns (outside.dns .tickDone)).dnsRuns (outside.dns .tickFailed)).dnsFailed with
      | false => exact view_wgBegin fromString outside due
      | true => exact tail

theorem view_watchPeer {due : Bool}
    (late : outside.millis32 - wg.lastAttemptMs > 30000 ↔ due = true) :
    (watchPeer outside wg).view =
      if outside.peerUp then wg.view.withState .up
      else if due then (wg.view.withState .connecting).stop (outside.dns .stopCancel)
      else wg.view.withState .connecting := by
  have noted : ∀ next : WireGuardState, next.view = wg.view →
      next.lastAttemptMs = wg.lastAttemptMs →
      (if outside.millis32 - next.lastAttemptMs > 30000 then
        raiseBackoff
          { wgStop outside (print .reconnecting { next with state := .connecting }) with
            lastAttemptMs := outside.millis32 }
      else { next with state := .connecting }).view =
        if due then (wg.view.withState .connecting).stop (outside.dns .stopCancel)
        else wg.view.withState .connecting := by
    intro next same attempt
    rw [← same]
    rw [← attempt] at late
    cases due with
    | true =>
        rw [if_pos (late.mpr rfl), if_pos rfl]
        exact view_wgStop outside (print .reconnecting { next with state := .connecting })
    | false =>
        rw [if_neg (fun passed => nomatch late.mp passed), if_neg Bool.false_ne_true]
        rfl
  simp only [watchPeer]
  cases outside.peerUp with
  | true => cases wg.wasUp <;> rfl
  | false =>
      cases wg.wasUp with
      | true => exact noted (print .tunnelDown { wg with wasUp := false }) rfl rfl
      | false => exact noted wg rfl rfl

/-- `wg_tick` as a whole, in the branches of `wgTickStart`. -/
theorem view_wgTick {due : Bool}
    (waits : outside.millis32 - wg.lastAttemptMs < wg.backoffMs ↔ due = false)
    (late : outside.millis32 - wg.lastAttemptMs > 30000 ↔ due = true) :
    (wgTick fromString outside wg).view =
      let rest := WgPc.rest (addressParses fromString) (outside.answers due)
      let view := wg.view
      if !view.enabled then
        if view.state = .disabled then view else rest view (.testCancel .disabled)
      else if outside.now < 100000 then
        if view.state = .waitTime then view
        else rest (view.withState .waitTime) (.testCancel .waitTime)
      else if !outside.wifiConnected then rest view (.testCancel .waitWifi)
      else if !view.initialized then rest view .tickTestDone
      else if outside.peerUp then view.withState .up
      else rest (view.withState .connecting) (if due then .cancelTestHandle .stop else .loop) := by
  have stopped : ∀ next : WireGuardState, ∀ reason,
      (stopIfInitialized outside (cancelIfResolving outside reason next)).view =
        WgPc.rest (addressParses fromString) (outside.answers due) next.view
          (.testCancel .waitTime) := by
    intro next reason
    rw [view_stopIfInitialized, view_cancelIfResolving]
    rfl
  simp only [wgTick]
  change _ = if !wg.config.enabled then if wg.state = WgState.disabled then _ else _
    else if outside.now < 100000 then if wg.state = WgState.waitTime then _ else _
    else if !outside.wifiConnected then _
    else if !wg.tunnel.isSome then _
    else _
  split
  · rename_i disabled
    have disabled : wg.config.enabled = false := by simpa using disabled
    by_cases already : wg.state = .disabled
    · rw [if_neg (not_not_intro already), if_pos already, ← already]
    · rw [if_pos already, if_neg already]
      change (stopIfInitialized outside
        (cancelIfResolving outside "disable" wg)).view.withState .disabled = _
      rw [stopped]
      apply WgView.stopIfInitialized_of_disabled
      have notEnabled : ∀ update, ((wg.view.runs update).cancel (outside.dns .cancel)).enabled =
          false := fun update => (WgView.enabled_cancel _ _).trans disabled
      split
      · exact notEnabled _
      · exact disabled
  · split
    · split
      · rfl
      · exact stopped _ _
    · split
      · exact congrArg (WgView.withState .waitWifi) (stopped wg _)
      · cases begun : wg.tunnel with
        | none => exact view_awaitTunnel fromString outside waits
        | some tunnel =>
            refine (view_watchPeer outside late).trans ?_
            cases due <;> rfl

end Calls

/-! ## A call begins -/

/-- The call as it begins in single accesses, where port and keepalive are
not seen. -/
def WgCall.operation : WgCall → Option WgOperation
  | .tick => some .tick
  | .stop => none
  | .setEnabled en => some (.setEnabled en)
  | .setPrivateKey key => some (.setPrivateKey key)
  | .setServerPublicKey key => some (.setServerPublicKey key)
  | .setEndpoint host _ => some (.setEndpoint host)
  | .setTunnelAddress addr => some (.setTunnelAddress addr)
  | .setKeepalive _ => some .setKeepalive
  | .clear => none

/-- The outside of a whole call that begins with `env` and goes on with
`answers`. -/
def WgEnv.outside (env : WgEnv) (answers : WgAnswers) (due : Bool) (wg : WireGuardState) :
    WgOutside where
  now := if env.timeKnown then 100000 else 0
  wifiConnected := env.wifiConnected
  millis := (wg.lastAttemptMs + if due then 40000 else 0).toNat
  created := answers.created
  begins := answers.begins
  peerUp := env.peerUp
  dns := answers.dns

section Begins

variable (env : WgEnv) (answers : WgAnswers) (due : Bool) (wg : WireGuardState)

theorem elapsed_outside :
    (env.outside answers due wg).millis32 - wg.lastAttemptMs = if due then 40000 else 0 := by
  rw [WgOutside.millis32, WgEnv.outside, UInt32.ofNat_toNat, UInt32.add_comm,
    UInt32.add_sub_cancel]

theorem tooEarly_outside :
    (env.outside answers due wg).now < 100000 ↔ env.timeKnown = false := by
  change (if env.timeKnown then (100000 : Int) else 0) < 100000 ↔ _
  cases env.timeKnown <;> decide

theorem late_outside :
    (env.outside answers due wg).millis32 - wg.lastAttemptMs > 30000 ↔ due = true := by
  rw [elapsed_outside]
  cases due <;> decide

theorem waits_outside {wg : WireGuardState} (backoff : BackoffStep wg.backoffMs) :
    (env.outside answers due wg).millis32 - wg.lastAttemptMs < wg.backoffMs ↔ due = false := by
  obtain ⟨-, low, high⟩ := backoff
  rw [elapsed_outside, UInt32.lt_iff_toNat_lt]
  cases due with
  | true => simp; omega
  | false => simp; omega

end Begins

variable (fromString : String → Option IPAddress)

/-- `wg_tick` begins. -/
theorem wgTickStart_begins (env : WgEnv) {shared : WgShared} {wg : WireGuardState}
    {update : DnsUpdate} (backoff : BackoffStep wg.backoffMs)
    (same : wg.view.runs update = shared.view) :
    ∃ view, Follows view (wgTickStart env shared).1 (wgTickStart env shared).2 ∧
      ∀ answers, ∃ outside, (wgTick fromString outside wg).view =
        (wgTickStart env shared).2.rest (addressParses fromString) answers view := by
  have enabled : wg.view.enabled = shared.enabled := congrArg WgView.enabled same
  have state : wg.view.state = shared.state := congrArg WgView.state same
  have initialized : wg.view.initialized = shared.initialized := congrArg WgView.initialized same
  have tick : ∀ answers due, _ := fun answers due =>
    view_wgTick fromString (env.outside answers due wg)
      (waits_outside env answers due backoff) (late_outside env answers due wg)
  simp only [enabled, state, initialized, tooEarly_outside] at tick
  cases isEnabled : shared.enabled with
  | false =>
      simp only [isEnabled, Bool.not_false, if_true] at tick
      by_cases already : shared.state = .disabled
      · have started : wgTickStart env shared = (shared, .loop) := by
          simp [wgTickStart, isEnabled, already]
        simp only [if_pos already] at tick
        rw [started]
        exact ⟨wg.view, follows_of_notAlone same Bool.false_ne_true,
          fun answers => ⟨_, tick answers true⟩⟩
      · have started : wgTickStart env shared = (shared, .testCancel .disabled) := by
          simp [wgTickStart, isEnabled, already]
        simp only [if_neg already] at tick
        rw [started]
        exact ⟨wg.view, follows_of_notAlone same Bool.false_ne_true,
          fun answers => ⟨_, tick answers true⟩⟩
  | true =>
  simp only [isEnabled, Bool.not_true, Bool.false_eq_true, if_false] at tick
  cases timeKnown : env.timeKnown with
  | false =>
      simp only [timeKnown, if_true] at tick
      by_cases already : shared.state = .waitTime
      · have started : wgTickStart env shared = (shared, .loop) := by
          simp [wgTickStart, isEnabled, timeKnown, already]
        simp only [if_pos already] at tick
        rw [started]
        exact ⟨wg.view, follows_of_notAlone same Bool.false_ne_true,
          fun answers => ⟨_, tick answers true⟩⟩
      · have started : wgTickStart env shared =
            ({ shared with state := .waitTime }, .testCancel .waitTime) := by
          simp [wgTickStart, isEnabled, timeKnown, already]
        simp only [if_neg already] at tick
        rw [started]
        exact ⟨wg.view.withState .waitTime,
          follows_of_notAlone (congrArg (WgView.withState .waitTime) same) Bool.false_ne_true,
          fun answers => ⟨_, tick answers true⟩⟩
  | true =>
  simp only [timeKnown, reduceCtorEq, if_false] at tick
  cases wifiConnected : env.wifiConnected with
  | false =>
      have started : wgTickStart env shared = (shared, .testCancel .waitWifi) := by
        simp [wgTickStart, isEnabled, timeKnown, wifiConnected]
      have noWifi : ∀ answers due, (env.outside answers due wg).wifiConnected = false :=
        fun _ _ => wifiConnected
      simp only [noWifi, Bool.not_false, if_true] at tick
      rw [started]
      exact ⟨wg.view, follows_of_notAlone same Bool.false_ne_true,
        fun answers => ⟨_, tick answers true⟩⟩
  | true =>
  have wifi : ∀ answers due, (env.outside answers due wg).wifiConnected = true :=
    fun _ _ => wifiConnected
  simp only [wifi, Bool.not_true, Bool.false_eq_true, if_false] at tick
  cases begun : shared.initialized with
  | false =>
      have started : wgTickStart env shared = (shared, .tickTestDone) := by
        simp [wgTickStart, isEnabled, timeKnown, wifiConnected, begun]
      simp only [begun, Bool.not_false, if_true] at tick
      rw [started]
      exact ⟨wg.view, follows_of_notAlone same Bool.false_ne_true,
        fun answers => ⟨_, tick answers answers.due⟩⟩
  | true =>
  simp only [begun, Bool.not_true, Bool.false_eq_true, if_false] at tick
  cases peerUp : env.peerUp with
  | false =>
      have started : wgTickStart env shared =
          ({ shared with state := .connecting },
            if env.due then .cancelTestHandle .stop else .loop) := by
        simp [wgTickStart, isEnabled, timeKnown, wifiConnected, begun, peerUp]
      have down : ∀ answers due, (env.outside answers due wg).peerUp = false :=
        fun _ _ => peerUp
      simp only [down, Bool.false_eq_true, if_false] at tick
      rw [started]
      refine ⟨wg.view.withState .connecting,
        follows_of_notAlone (congrArg (WgView.withState .connecting) same) ?_,
        fun answers => ⟨_, (tick answers env.due).trans ?_⟩⟩
      · split <;> exact Bool.false_ne_true
      · cases env.due <;> rfl
  | true =>
      have started : wgTickStart env shared = ({ shared with state := .up }, .loop) := by
        simp [wgTickStart, isEnabled, timeKnown, wifiConnected, begun, peerUp]
      have up : ∀ answers due, (env.outside answers due wg).peerUp = true :=
        fun _ _ => peerUp
      simp only [up, if_true] at tick
      rw [started]
      exact ⟨wg.view.withState .up,
        follows_of_notAlone (congrArg (WgView.withState .up) same) Bool.false_ne_true,
        fun answers => ⟨_, tick answers true⟩⟩

/-- A call begins with what has happened outside of it. -/
theorem wgStep_begins (env : WgEnv) {shared : WgShared} {wg : WireGuardState}
    {update : DnsUpdate} (backoff : BackoffStep wg.backoffMs)
    (same : wg.view.runs update = shared.view) :
    ∃ view, Follows view (wgStep env shared .loop).1 (wgStep env shared .loop).2 ∧
      ∀ answers, ∃ outside call, call.operation = some env.operation ∧
        (wgCall fromString outside wg call).view =
          (wgStep env shared .loop).2.rest (addressParses fromString) answers view := by
  -- the setters change one text and go on to `_cancelDNS`
  have setter : ∀ (config : WgConfig) (next : WgShared),
      { wg with config := config }.view.runs update = next.view →
      ∃ view, Follows view next (.cancelTestHandle .setting) ∧
        ∀ (answers : WgAnswers) (reason : String),
          (changeConfig reason config (env.outside answers true wg) wg).view =
            WgPc.rest (addressParses fromString) answers view (.cancelTestHandle .setting) :=
    fun config next changed => ⟨_, follows_of_notAlone changed Bool.false_ne_true,
      fun answers reason => view_changeConfig _ wg reason config⟩
  simp only [wgStep]
  cases operation : env.operation with
  | tick =>
      obtain ⟨view, follows, whole⟩ := wgTickStart_begins fromString env backoff same
      refine ⟨view, follows, fun answers => ?_⟩
      obtain ⟨outside, ran⟩ := whole answers
      exact ⟨outside, .tick, rfl, ran⟩
  | setEnabled en =>
      have changed : { wg with config := { wg.config with enabled := en } }.view.runs update =
          { shared with enabled := en }.view :=
        congrArg (fun shown : WgView => { shown with enabled := en }) same
      cases en with
      | false =>
          refine ⟨_, follows_of_notAlone changed Bool.false_ne_true, fun answers =>
            ⟨env.outside answers true wg, .setEnabled false, rfl, ?_⟩⟩
          simp only [wgCall, wgSetEnabled, Bool.not_false, if_true]
          refine (view_wgStop _ _).trans ?_
          rw [view_cancelIfResolving]
          rfl
      | true =>
          refine ⟨_, follows_of_notAlone changed Bool.false_ne_true, fun answers =>
            ⟨env.outside answers true wg, .setEnabled true, rfl, ?_⟩⟩
          exact congrArg (WgView.withState .waitTime) (view_cancelDNS _ _ _)
  | setPrivateKey key =>
      obtain ⟨view, follows, whole⟩ := setter { wg.config with privateKey := key }
        { shared with privateKey := key }
        (congrArg (fun shown : WgView => { shown with privateKey := key }) same)
      exact ⟨view, follows, fun answers => ⟨_, .setPrivateKey key, rfl, whole answers _⟩⟩
  | setServerPublicKey key =>
      obtain ⟨view, follows, whole⟩ := setter { wg.config with serverPublicKey := key }
        { shared with serverPublicKey := key }
        (congrArg (fun shown : WgView => { shown with serverPublicKey := key }) same)
      exact ⟨view, follows, fun answers => ⟨_, .setServerPublicKey key, rfl, whole answers _⟩⟩
  | setEndpoint host =>
      obtain ⟨view, follows, whole⟩ := setter
        { wg.config with
          endpointHost := host
          endpointPort := 51820 } { shared with endpointHost := host }
        (congrArg (fun shown : WgView => { shown with endpointHost := host }) same)
      exact ⟨view, follows, fun answers => ⟨_, .setEndpoint host 51820, rfl, whole answers _⟩⟩
  | setTunnelAddress addr =>
      obtain ⟨view, follows, whole⟩ := setter { wg.config with tunnelAddress := addr }
        { shared with tunnelAddress := addr }
        (congrArg (fun shown : WgView => { shown with tunnelAddress := addr }) same)
      exact ⟨view, follows, fun answers => ⟨_, .setTunnelAddress addr, rfl, whole answers _⟩⟩
  | setKeepalive =>
      obtain ⟨view, follows, whole⟩ := setter { wg.config with keepalive := 25 } shared same
      exact ⟨view, follows, fun answers => ⟨_, .setKeepalive 25, rfl, whole answers _⟩⟩

/-! ## Runs -/

/-- The operation that an event begins. -/
def WgEvent.begins (core0 : WgPc) : WgEvent → Option WgOperation
  | .core0 env => if core0 = .loop then some env.operation else none
  | .dnsTask _ => none

/-- The operations that a run begins, in their order. -/
def operationsOf (manager : WgManager) : List WgEvent → List WgOperation
  | [] => []
  | event :: events =>
      (event.begins manager.core0).toList ++
        (wgManagerStep manager event).elim [] fun next => operationsOf next events

/-- A tunnel begins only with an address that parses. -/
def BeginsParsed (manager : WgManager) : WgEvent → Prop
  | .core0 env => env.begins = true → addressParses fromString manager.shared.tunnelAddress = true
  | .dnsTask _ => True

variable (prefs : WgPrefs)

/-- The operations have been whole calls so far, whatever the call that is
going on still finds. -/
def WholeCalls (operations : List WgOperation) (manager : WgManager) : Prop :=
  ∃ view, Follows view manager.shared manager.core0 ∧
    ∀ answers, ∃ calls wg,
      calls.map (fun call => call.2.operation) = operations.map some ∧
      run (wireGuardStep fromString) (wgLoad (powerOn prefs)) calls = some wg ∧
      wg.view = manager.core0.rest (addressParses fromString) answers view

/-- The manager after `wg_load`. -/
def bootFrom (prefs : WgPrefs) : WgManager :=
  WgManager.boot prefs.config.enabled prefs.config.privateKey prefs.config.serverPublicKey
    prefs.config.endpointHost prefs.config.tunnelAddress

theorem wholeCalls_boot :
    WholeCalls fromString prefs [] (bootFrom prefs) :=
  ⟨_, follows_view _ _, fun _ => ⟨[], _, rfl, rfl, rfl⟩⟩

variable {fromString prefs}

/-- Every access goes on with the whole call that it belongs to. -/
theorem wholeCalls_step {operations : List WgOperation} {manager next : WgManager}
    {event : WgEvent} (known : TaskKnown manager)
    (parses : BeginsParsed fromString manager event)
    (whole : WholeCalls fromString prefs operations manager)
    (stepped : wgManagerStep manager event = some next) :
    WholeCalls fromString prefs (operations ++ (event.begins manager.core0).toList) next := by
  obtain ⟨view, follows, calls⟩ := whole
  cases event with
  | dnsTask answer =>
      obtain ⟨task, running, rfl⟩ := wgManagerStep_dnsTask stepped
      obtain ⟨⟨update, same⟩, -⟩ := follows
      obtain ⟨written, wrote⟩ := exists_update_dnsTaskStep answer manager.shared task
      rw [← same, ← WgView.runs_followedBy] at wrote
      rw [WgEvent.begins, Option.toList_none, List.append_nil]
      exact ⟨view, follows_of_notAlone wrote.symm (known.not_alone running), calls⟩
  | core0 env =>
      cases stepped
      by_cases begins : manager.core0 = .loop
      · obtain ⟨before, wg, began, ran, same⟩ :=
          calls ⟨false, false, false, fun _ => .idle⟩
        have coherent := wgCoherent_of_run fromString prefs before wg ran
        rw [begins] at same
        obtain ⟨update, pending⟩ := follows.pending
        have cleared : { wg with printed := [] }.view.runs update = manager.shared.view :=
          (congrArg (WgView.runs update) same).trans pending
        obtain ⟨next, follows, whole⟩ := @wgStep_begins fromString env manager.shared
          { wg with printed := [] } update coherent.backoff cleared
        rw [WgEvent.begins, if_pos begins, begins]
        refine ⟨next, follows, fun answers => ?_⟩
        obtain ⟨outside, call, operation, same⟩ := whole answers
        refine ⟨before ++ [(outside, call)], _, ?_, ?_, same⟩
        · rw [List.map_append, List.map_append, began]
          exact congrArg (_ ++ [·]) operation
        · exact run_concat ran (outside, call)
      · obtain ⟨next, follows, continues⟩ := wgStep_continues (addressParses fromString) follows
          begins parses
        rw [WgEvent.begins, if_neg begins, Option.toList_none, List.append_nil]
        refine ⟨next, follows, fun later => ?_⟩
        obtain ⟨answers, same⟩ := continues later
        obtain ⟨before, wg, began, ran, shown⟩ := calls answers
        exact ⟨before, wg, began, ran, shown.trans same⟩

theorem wholeCalls_run {operations : List WgOperation} {manager last : WgManager}
    {events : List WgEvent} (known : TaskKnown manager)
    (parse : Guarded wgManagerStep (BeginsParsed fromString) manager events)
    (whole : WholeCalls fromString prefs operations manager)
    (ran : run wgManagerStep manager events = some last) :
    WholeCalls fromString prefs (operations ++ operationsOf manager events) last := by
  induction events generalizing operations manager with
  | nil =>
      cases ran
      rw [operationsOf, List.append_nil]
      exact whole
  | cons event events ih =>
      obtain ⟨next, stepped, rest⟩ := run_cons_some ran
      rw [operationsOf, stepped, Option.elim_some, ← List.append_assoc]
      exact ih (taskKnown_step known stepped) (parse.2 next stepped)
        (wholeCalls_step known parse.1 whole stepped) rest

variable (fromString prefs)

/-- Every run in single accesses that has come back to the loop is a run of
whole calls, for the same operations in the same order.  What the resolving
task has written since the last access of Core 0 is all that they differ in. -/
theorem wholeCalls_of_run (events : List WgEvent) (last : WgManager)
    (parse : Guarded wgManagerStep (BeginsParsed fromString) (bootFrom prefs) events)
    (ran : run wgManagerStep (bootFrom prefs) events = some last)
    (atLoop : last.core0 = .loop) :
    ∃ calls wg update,
      calls.map (fun call => call.2.operation) =
        (operationsOf (bootFrom prefs) events).map some ∧
      run (wireGuardStep fromString) (wgLoad (powerOn prefs)) calls = some wg ∧
      wg.view.runs update = last.shared.view := by
  obtain ⟨view, follows, whole⟩ := wholeCalls_run (taskKnown_boot _ _ _ _ _) parse
    (wholeCalls_boot fromString prefs) ran
  obtain ⟨update, pending⟩ := follows.pending
  obtain ⟨calls, wg, began, called, same⟩ := whole ⟨false, false, false, fun _ => .idle⟩
  rw [atLoop] at same
  exact ⟨calls, wg, update, began, called, same ▸ pending⟩

/-- What is proved of whole calls holds of single accesses: between two calls
the interface is there only while the manager is enabled and its address
parses, and only an interface is reported as up. -/
theorem coherent_betweenCalls (events : List WgEvent) (last : WgManager)
    (parse : Guarded wgManagerStep (BeginsParsed fromString) (bootFrom prefs) events)
    (ran : run wgManagerStep (bootFrom prefs) events = some last)
    (atLoop : last.core0 = .loop) :
    (last.shared.initialized = true → last.shared.enabled = true ∧
        addressParses fromString last.shared.tunnelAddress = true) ∧
      (last.shared.state = .up → last.shared.initialized = true) := by
  obtain ⟨calls, wg, update, -, called, same⟩ :=
    wholeCalls_of_run fromString prefs events last parse ran atLoop
  have coherent := wgCoherent_of_run fromString prefs calls wg called
  have enabled : wg.config.enabled = last.shared.enabled := congrArg WgView.enabled same
  have address : wg.config.tunnelAddress = last.shared.tunnelAddress :=
    congrArg WgView.tunnelAddress same
  have initialized : wg.tunnel.isSome = last.shared.initialized :=
    congrArg WgView.initialized same
  have state : wg.state = last.shared.state := congrArg WgView.state same
  rw [← enabled, ← address, ← initialized, ← state]
  refine ⟨fun begun => ⟨coherent.enabled begun, ?_⟩, coherent.up⟩
  obtain ⟨tunnel, has⟩ := Option.isSome_iff_exists.mp begun
  rw [addressParses, (coherent.begun tunnel has).address]
  rfl

end EchoMic
