import EchoMic.GuardedRuns

/-!
# Resolving the WireGuard endpoint

The endpoint is resolved by a task of its own while Core 0 goes on serving
settings requests.  `_cancelDNS` does not end that task but advances an 8-bit
generation, which the task compares with its own before it publishes.  Every
read and write of a variable that the task and Core 0 share is one step.
-/

namespace EchoMic

open GuardedRuns

/-- An address that `lwip_getaddrinfo` answered, with the name it was asked
for. -/
structure ResolvedIP where
  address : Nat
  host : String
  deriving DecidableEq

inductive WgState where
  | disabled
  | waitTime
  | waitWifi
  | connecting
  | up
  deriving DecidableEq

/-- The variables of the WireGuard manager.  The empty address is `none`. -/
structure WgShared where
  enabled : Bool
  privateKey : String
  serverPublicKey : String
  endpointHost : String
  tunnelAddress : String
  initialized : Bool
  state : WgState
  dnsTaskHandle : Bool
  resolvedEndpointIP : Option ResolvedIP
  dnsDone : Bool
  dnsFailed : Bool
  dnsGeneration : UInt8
  deriving DecidableEq

/-! ## The resolving task -/

inductive DnsPc where
  | sleep
  | testGeneration
  | testHandle
  | resolve
  | store (answer : ResolvedIP)
  | retestGeneration
  | lastTestGeneration
  | lastTestHandle
  | setDone
  | setFailed
  | cleanup
  deriving DecidableEq

structure DnsTask where
  pc : DnsPc
  myGen : UInt8
  retry : Nat
  success : Bool
  deriving DecidableEq

def DnsTask.created (generation : UInt8) : DnsTask where
  pc := .sleep
  myGen := generation
  retry := 0
  success := false

def DnsTask.goto (task : DnsTask) (pc : DnsPc) : DnsTask :=
  { task with pc := pc }

/-- An answer is stored, and no answer leads to the next retry. -/
def afterAnswer (host : String) : Option Nat → DnsPc
  | none => .retestGeneration
  | some address => .store ⟨address, host⟩

/-- One step of `_dnsResolveTask`; `none` is the task after it has cleared its
handle.  `answer` is the address that `lwip_getaddrinfo` returns, if any. -/
def dnsTaskStep (answer : Option Nat) (shared : WgShared) (task : DnsTask) :
    WgShared × Option DnsTask :=
  match task.pc with
  | .sleep => (shared, task.goto .testGeneration)
  | .testGeneration =>
      (shared, task.goto
        (if task.myGen ≠ shared.dnsGeneration then .cleanup else .testHandle))
  | .testHandle =>
      (shared, task.goto (if shared.dnsTaskHandle then .resolve else .cleanup))
  | .resolve => (shared, task.goto (afterAnswer shared.endpointHost answer))
  | .store answer =>
      ({ shared with resolvedEndpointIP := some answer }, some
        { task with
          pc := .retestGeneration
          success := true })
  | .retestGeneration =>
      (shared,
        if task.myGen ≠ shared.dnsGeneration then task.goto .cleanup
        else if task.retry + 1 < 5 ∧ task.success = false then some
          { task with
            pc := .sleep
            retry := task.retry + 1 }
        else task.goto .lastTestGeneration)
  | .lastTestGeneration =>
      (shared, task.goto
        (if task.myGen = shared.dnsGeneration then .lastTestHandle else .cleanup))
  | .lastTestHandle =>
      (shared, task.goto (if shared.dnsTaskHandle then .setDone else .cleanup))
  | .setDone => ({ shared with dnsDone := true }, task.goto .setFailed)
  | .setFailed => ({ shared with dnsFailed := !task.success }, task.goto .cleanup)
  | .cleanup => ({ shared with dnsTaskHandle := false }, none)

/-! ## Core 0 -/

/-- Who calls `_cancelDNS`. -/
inductive CancelCaller where
  | setting
  | enabledOff
  | enabledOn
  | disabled
  | waitTime
  | waitWifi
  | stop
  | stopForWifi
  deriving DecidableEq

inductive WgPc where
  | loop
  | testCancel (caller : CancelCaller)
  | cancelTestHandle (caller : CancelCaller)
  | cancelBump (caller : CancelCaller)
  | cancelClearDone (caller : CancelCaller)
  | cancelClearFailed (caller : CancelCaller)
  | cancelClearIP (caller : CancelCaller)
  | tickTestDone
  | tickTestFailed
  | tickTestHandle
  | beginTestHandle
  | beginTestDone
  | beginReadFailed
  | beginReadIP (failed : Bool)
  | beginClearDone (failed : Bool) (ip : Option ResolvedIP)
  | beginClearFailed (failed : Bool) (ip : Option ResolvedIP)
  | beginClearIP (failed : Bool) (ip : Option ResolvedIP)
  | startTunnelWithIP (ip : ResolvedIP)
  | beginBump
  | beginCreate
  deriving DecidableEq

/-- A call of `wg_tick` or of one of the setters. -/
inductive WgOperation where
  | tick
  | setEnabled (en : Bool)
  | setPrivateKey (key : String)
  | setServerPublicKey (key : String)
  | setEndpoint (host : String)
  | setTunnelAddress (addr : String)
  | setKeepalive
  deriving DecidableEq

/-- What the environment answers to a step of Core 0: the operation it starts,
whether the clock is set and WiFi is connected, whether the peer answers,
whether the backoff or the time limit for a handshake has passed, whether the
task is created and whether the tunnel begins. -/
structure WgEnv where
  operation : WgOperation
  timeKnown : Bool
  wifiConnected : Bool
  peerUp : Bool
  due : Bool
  created : Bool
  begins : Bool
  deriving DecidableEq

/-- Where the caller of `_cancelDNS` goes on. -/
def CancelCaller.afterCancel (shared : WgShared) : CancelCaller → WgShared × WgPc
  | .setting | .waitTime =>
      (shared, if shared.initialized then .cancelTestHandle .stop else .loop)
  | .enabledOff => (shared, .cancelTestHandle .stop)
  | .enabledOn => ({ shared with state := .waitTime }, .loop)
  | .disabled =>
      if shared.initialized then (shared, .cancelTestHandle .stop)
      else ({ shared with state := .disabled }, .loop)
  | .waitWifi =>
      if shared.initialized then (shared, .cancelTestHandle .stopForWifi)
      else ({ shared with state := .waitWifi }, .loop)
  | .stop =>
      ({ shared with
          initialized := false
          state := if shared.enabled then .waitTime else .disabled }, .loop)
  | .stopForWifi =>
      ({ shared with
          initialized := false
          state := .waitWifi }, .loop)

/-- The part of `wg_tick` before it looks at the resolution. -/
def wgTickStart (env : WgEnv) (shared : WgShared) : WgShared × WgPc :=
  if !shared.enabled then
    if shared.state = .disabled then (shared, .loop) else (shared, .testCancel .disabled)
  else if !env.timeKnown then
    if shared.state = .waitTime then (shared, .loop)
    else ({ shared with state := .waitTime }, .testCancel .waitTime)
  else if !env.wifiConnected then (shared, .testCancel .waitWifi)
  else if !shared.initialized then (shared, .tickTestDone)
  else if env.peerUp then ({ shared with state := .up }, .loop)
  else
    ({ shared with state := .connecting },
      if env.due then .cancelTestHandle .stop else .loop)

/-- The preconditions of `wg_begin`. -/
def WgShared.canBegin (shared : WgShared) : Bool :=
  !shared.initialized && shared.privateKey ≠ "" && shared.serverPublicKey ≠ "" &&
    shared.endpointHost ≠ "" && shared.tunnelAddress ≠ ""

/-- `wg_begin` starts the tunnel with the address it has taken. -/
def afterTaking (failed : Bool) : Option ResolvedIP → WgPc
  | none => .loop
  | some ip => if failed then .loop else .startTunnelWithIP ip

/-- One step of Core 0, apart from the task that `beginCreate` creates. -/
def wgStep (env : WgEnv) (shared : WgShared) : WgPc → WgShared × WgPc
  | .loop =>
      match env.operation with
      | .tick => wgTickStart env shared
      | .setEnabled en =>
          ({ shared with enabled := en },
            if en then .cancelTestHandle .enabledOn else .testCancel .enabledOff)
      | .setPrivateKey key =>
          ({ shared with privateKey := key }, .cancelTestHandle .setting)
      | .setServerPublicKey key =>
          ({ shared with serverPublicKey := key }, .cancelTestHandle .setting)
      | .setEndpoint host =>
          ({ shared with endpointHost := host }, .cancelTestHandle .setting)
      | .setTunnelAddress addr =>
          ({ shared with tunnelAddress := addr }, .cancelTestHandle .setting)
      | .setKeepalive => (shared, .cancelTestHandle .setting)
  -- A caller that cancels only while a task runs
  | .testCancel caller =>
      if shared.dnsTaskHandle then (shared, .cancelTestHandle caller)
      else caller.afterCancel shared
  -- _cancelDNS
  | .cancelTestHandle caller =>
      (shared,
        if shared.dnsTaskHandle then .cancelBump caller else .cancelClearDone caller)
  | .cancelBump caller =>
      caller.afterCancel { shared with dnsGeneration := shared.dnsGeneration + 1 }
  | .cancelClearDone caller =>
      ({ shared with dnsDone := false }, .cancelClearFailed caller)
  | .cancelClearFailed caller =>
      ({ shared with dnsFailed := false }, .cancelClearIP caller)
  | .cancelClearIP caller =>
      caller.afterCancel { shared with resolvedEndpointIP := none }
  -- wg_tick
  | .tickTestDone =>
      (shared, if shared.dnsDone then .tickTestFailed else .tickTestHandle)
  | .tickTestFailed =>
      (shared, if shared.dnsFailed then .tickTestHandle else .beginTestHandle)
  | .tickTestHandle =>
      if shared.dnsTaskHandle then ({ shared with state := .connecting }, .loop)
      else (shared, if env.due then .beginTestHandle else .loop)
  -- wg_begin
  | .beginTestHandle =>
      (shared,
        if shared.canBegin && !shared.dnsTaskHandle then .beginTestDone else .loop)
  | .beginTestDone =>
      (shared, if shared.dnsDone then .beginReadFailed else .beginBump)
  | .beginReadFailed => (shared, .beginReadIP shared.dnsFailed)
  | .beginReadIP failed => (shared, .beginClearDone failed shared.resolvedEndpointIP)
  | .beginClearDone failed ip =>
      ({ shared with dnsDone := false }, .beginClearFailed failed ip)
  | .beginClearFailed failed ip =>
      ({ shared with dnsFailed := false }, .beginClearIP failed ip)
  | .beginClearIP failed ip =>
      ({ shared with resolvedEndpointIP := none }, afterTaking failed ip)
  | .startTunnelWithIP _ => ({ shared with initialized := env.begins }, .loop)
  | .beginBump =>
      ({ shared with dnsGeneration := shared.dnsGeneration + 1 }, .beginCreate)
  | .beginCreate =>
      ({ shared with
          dnsTaskHandle := env.created
          state := .connecting }, .loop)

/-! ## Core 0 and the task -/

/-- The task is there until it has cleared its handle, so there is at most
one. -/
structure WgManager where
  shared : WgShared
  core0 : WgPc
  task : Option DnsTask
  deriving DecidableEq

/-- After `wg_load`, with the persisted configuration. -/
def WgManager.boot (enabled : Bool)
    (privateKey serverPublicKey endpointHost tunnelAddress : String) : WgManager where
  shared :=
    { enabled := enabled
      privateKey := privateKey
      serverPublicKey := serverPublicKey
      endpointHost := endpointHost
      tunnelAddress := tunnelAddress
      initialized := false
      state := if enabled then .waitTime else .disabled
      dnsTaskHandle := false
      resolvedEndpointIP := none
      dnsDone := false
      dnsFailed := false
      dnsGeneration := 0 }
  core0 := .loop
  task := none

inductive WgEvent where
  | core0 (env : WgEnv)
  | dnsTask (answer : Option Nat)
  deriving DecidableEq

/-- The task after a step of Core 0. -/
def WgManager.taskAfter (manager : WgManager) (env : WgEnv) : Option DnsTask :=
  if manager.core0 = .beginCreate ∧ env.created = true then
    some (DnsTask.created manager.shared.dnsGeneration)
  else manager.task

def wgManagerStep (manager : WgManager) : WgEvent → Option WgManager
  | .core0 env =>
      let next := wgStep env manager.shared manager.core0
      some
        { shared := next.1
          core0 := next.2
          task := manager.taskAfter env }
  | .dnsTask answer =>
      match manager.task with
      | none => none
      | some task =>
          let next := dnsTaskStep answer manager.shared task
          some
            { manager with
              shared := next.1
              task := next.2 }

theorem wgManagerStep_dnsTask {manager next : WgManager} {answer : Option Nat}
    (stepped : wgManagerStep manager (.dnsTask answer) = some next) :
    ∃ task, manager.task = some task ∧
      next =
        { manager with
          shared := (dnsTaskStep answer manager.shared task).1
          task := (dnsTaskStep answer manager.shared task).2 } := by
  simp only [wgManagerStep] at stepped
  cases running : manager.task with
  | none =>
      rw [running] at stepped
      cases stepped
  | some task =>
      rw [running] at stepped
      cases stepped
      exact ⟨task, rfl, rfl⟩

/-! ## The address that is used -/

/-- The tunnel is only started with an address of the current endpoint. -/
def EndpointCurrent (manager : WgManager) : Prop :=
  ∀ ip, manager.core0 = .startTunnelWithIP ip → ip.host = manager.shared.endpointHost

/-- The address that `wg_begin` finds. -/
def WgShared.published (shared : WgShared) : Option ResolvedIP :=
  if shared.dnsDone && !shared.dnsFailed then shared.resolvedEndpointIP else none

/-- The address that the current resolution has published or would publish. -/
def inFlight (shared : WgShared) : Option DnsTask → Option ResolvedIP
  | none => shared.published
  | some task =>
      match task.pc with
      | .store answer => some answer
      | .cleanup => shared.published
      | .sleep | .testGeneration | .testHandle | .resolve | .retestGeneration
      | .lastTestGeneration | .lastTestHandle | .setDone | .setFailed =>
          if task.success then shared.resolvedEndpointIP else none

/-- The task has compared the generations for the last time. -/
def DnsPc.isChecked : DnsPc → Bool
  | .lastTestHandle | .setDone | .setFailed | .cleanup => true
  | .sleep | .testGeneration | .testHandle | .resolve | .store _ => false
  | .retestGeneration | .lastTestGeneration => false

/-- The task is going to find that its generation is not `generation`. -/
def Abandons (generation : UInt8) (task : Option DnsTask) : Prop :=
  ∃ running, task = some running ∧ running.pc.isChecked = false ∧
    running.myGen ≠ generation

def WgPc.isBump : WgPc → Bool
  | .cancelBump _ => true
  | _ => false

/-- When `_cancelDNS` advances the generation, an address of another endpoint
is in flight only in a task that is going to notice. -/
def CancelEffective (manager : WgManager) : WgEvent → Prop
  | .core0 _ =>
      manager.core0.isBump = true →
        ∀ ip, inFlight manager.shared manager.task = some ip →
          ip.host = manager.shared.endpointHost ∨
            Abandons (manager.shared.dnsGeneration + 1) manager.task
  | .dnsTask _ => True

/-! ## The invariant -/

/-- `_cancelDNS` has been called and has not cancelled yet. -/
def WgPc.isCancelling : WgPc → Bool
  | .cancelTestHandle _ | .cancelBump _ | .cancelClearDone _ => true
  | _ => false

/-- Core 0 has found that no task is running. -/
def WgPc.isAlone : WgPc → Bool
  | .cancelClearDone _ | .cancelClearFailed _ | .cancelClearIP _ => true
  | .beginTestDone | .beginReadFailed | .beginReadIP _ => true
  | .beginClearDone _ _ | .beginClearFailed _ _ | .beginClearIP _ _ => true
  | .beginBump | .beginCreate => true
  | _ => false

/-- Core 0 has cleared `s_dnsDone` or found it cleared. -/
def WgPc.isCleared : WgPc → Bool
  | .cancelClearFailed _ | .cancelClearIP _ => true
  | .beginClearFailed _ _ | .beginClearIP _ _ => true
  | .beginBump | .beginCreate => true
  | _ => false

/-- The address that Core 0 has taken and starts the tunnel with. -/
def WgPc.taken : WgPc → Option ResolvedIP
  | .beginClearDone failed ip | .beginClearFailed failed ip | .beginClearIP failed ip =>
      if failed then none else ip
  | .startTunnelWithIP ip => some ip
  | _ => none

/-- The handle denotes the task, and none runs where Core 0 has found so. -/
structure TaskKnown (manager : WgManager) : Prop where
  handle : manager.shared.dnsTaskHandle = manager.task.isSome
  alone : manager.core0.isAlone = true → manager.task = none

structure ResolutionFresh (manager : WgManager) : Prop extends TaskKnown manager where
  publishing : ∀ task, manager.task = some task → manager.shared.dnsDone = true →
    task.pc = .setFailed ∨ task.pc = .cleanup
  cleared : manager.core0.isCleared = true → manager.shared.dnsDone = false
  found : manager.core0 = .beginReadFailed → manager.shared.dnsDone = true
  read : ∀ failed, manager.core0 = .beginReadIP failed →
    manager.shared.dnsDone = true ∧ manager.shared.dnsFailed = failed
  taken : ∀ ip, manager.core0.taken = some ip → ip.host = manager.shared.endpointHost
  fresh : manager.core0.isCancelling = false →
    ∀ ip, inFlight manager.shared manager.task = some ip →
      ip.host = manager.shared.endpointHost ∨
        Abandons manager.shared.dnsGeneration manager.task

theorem taskKnown_boot (enabled : Bool)
    (privateKey serverPublicKey endpointHost tunnelAddress : String) :
    TaskKnown (WgManager.boot enabled privateKey serverPublicKey endpointHost tunnelAddress) where
  handle := rfl
  alone := fun _ => rfl

theorem resolutionFresh_boot (enabled : Bool)
    (privateKey serverPublicKey endpointHost tunnelAddress : String) :
    ResolutionFresh
      (WgManager.boot enabled privateKey serverPublicKey endpointHost tunnelAddress) := by
  constructor
  · exact taskKnown_boot enabled privateKey serverPublicKey endpointHost tunnelAddress
  all_goals
    simp [WgManager.boot, WgPc.isCleared, WgPc.taken, inFlight, WgShared.published]

theorem ResolutionFresh.endpointCurrent {manager : WgManager}
    (kept : ResolutionFresh manager) : EndpointCurrent manager := by
  intro ip starts
  apply kept.taken
  rw [starts]
  rfl

/-! ## Steps of Core 0 -/

/-- Nothing that the task uses differs. -/
structure SameResolution (shared next : WgShared) : Prop where
  endpointHost : next.endpointHost = shared.endpointHost
  dnsTaskHandle : next.dnsTaskHandle = shared.dnsTaskHandle
  resolvedEndpointIP : next.resolvedEndpointIP = shared.resolvedEndpointIP
  dnsDone : next.dnsDone = shared.dnsDone
  dnsFailed : next.dnsFailed = shared.dnsFailed
  dnsGeneration : next.dnsGeneration = shared.dnsGeneration

theorem afterCancel_same (shared : WgShared) (caller : CancelCaller) :
    SameResolution shared (caller.afterCancel shared).1 := by
  cases caller <;> simp only [CancelCaller.afterCancel] <;> (repeat' split) <;>
    constructor <;> rfl

/-- At `pc` Core 0 knows nothing of the resolution. -/
structure WgPc.KnowsNothing (pc : WgPc) : Prop where
  alone : pc.isAlone ≠ true
  cleared : pc.isCleared ≠ true
  taken : ∀ ip, pc.taken ≠ some ip
  found : pc ≠ .beginReadFailed
  read : ∀ failed, pc ≠ .beginReadIP failed

theorem afterCancel_knowsNothing (shared : WgShared) (caller : CancelCaller) :
    (caller.afterCancel shared).2.KnowsNothing := by
  cases caller <;> simp only [CancelCaller.afterCancel] <;> (repeat' split) <;>
    constructor <;> nofun

theorem wgTickStart_same (env : WgEnv) (shared : WgShared) :
    SameResolution shared (wgTickStart env shared).1 := by
  unfold wgTickStart
  (repeat' split) <;> constructor <;> rfl

theorem wgTickStart_knowsNothing (env : WgEnv) (shared : WgShared) :
    (wgTickStart env shared).2.KnowsNothing := by
  unfold wgTickStart
  (repeat' split) <;> constructor <;> nofun

theorem taken_afterTaking {failed : Bool} {ip : Option ResolvedIP} {address : ResolvedIP}
    (taken : (afterTaking failed ip).taken = some address) :
    failed = false ∧ ip = some address := by
  cases ip with
  | none => cases taken
  | some ip =>
      cases failed with
      | false => exact ⟨rfl, taken⟩
      | true => cases taken

theorem afterTaking_notAlone (failed : Bool) (ip : Option ResolvedIP) :
    (afterTaking failed ip).isAlone ≠ true := by
  cases ip <;> cases failed <;> nofun

section Core0

variable (env : WgEnv) (shared : WgShared) (pc : WgPc)

theorem wgStep_handle (noCreate : pc ≠ .beginCreate) :
    (wgStep env shared pc).1.dnsTaskHandle = shared.dnsTaskHandle := by
  cases pc <;> simp only [wgStep] <;> (repeat' split) <;> first
    | rfl
    | exact (afterCancel_same _ _).dnsTaskHandle
    | exact (wgTickStart_same env shared).dnsTaskHandle
    | exact absurd rfl noCreate

theorem wgStep_done (done : (wgStep env shared pc).1.dnsDone = true) :
    shared.dnsDone = true := by
  cases pc <;> simp only [wgStep] at done <;> (repeat' split at done) <;> first
    | exact done
    | cases done
    | rwa [(afterCancel_same _ _).dnsDone] at done
    | rwa [(wgTickStart_same env shared).dnsDone] at done

theorem wgStep_alone (alone : (wgStep env shared pc).2.isAlone = true) :
    shared.dnsTaskHandle = false ∨ pc.isAlone = true := by
  cases pc <;> simp only [wgStep] at alone <;> (repeat' split at alone) <;> first
    | exact absurd alone (afterCancel_knowsNothing _ _).alone
    | exact absurd alone (wgTickStart_knowsNothing env shared).alone
    | exact absurd alone (afterTaking_notAlone _ _)
    | simp_all [WgPc.isAlone]

theorem wgStep_cleared (cleared : (wgStep env shared pc).2.isCleared = true) :
    (wgStep env shared pc).1.dnsDone = false ∨ pc.isCleared = true := by
  cases pc <;> simp only [wgStep] at cleared ⊢ <;> (repeat' split at cleared) <;> first
    | exact absurd cleared (afterCancel_knowsNothing _ _).cleared
    | exact absurd cleared (wgTickStart_knowsNothing env shared).cleared
    | simp_all [WgPc.isCleared]

theorem wgStep_found (found : (wgStep env shared pc).2 = .beginReadFailed) :
    (wgStep env shared pc).1.dnsDone = true := by
  cases pc <;> simp only [wgStep] at found ⊢ <;> (repeat' split at found) <;> first
    | (cases found; done)
    | assumption
    | exact absurd found (afterCancel_knowsNothing _ _).found
    | exact absurd found (wgTickStart_knowsNothing env shared).found
    | exact absurd (by rw [found]; rfl) (afterTaking_notAlone _ _)

theorem wgStep_read {failed : Bool} (read : (wgStep env shared pc).2 = .beginReadIP failed) :
    pc = .beginReadFailed ∧ (wgStep env shared pc).1 = shared ∧ shared.dnsFailed = failed := by
  cases pc <;> simp only [wgStep] at read ⊢ <;> (repeat' split at read) <;> first
    | (cases read; done)
    | exact absurd read ((afterCancel_knowsNothing _ _).read failed)
    | exact absurd read ((wgTickStart_knowsNothing env shared).read failed)
    | exact absurd (by rw [read]; rfl) (afterTaking_notAlone _ _)
    | exact ⟨trivial, trivial, WgPc.beginReadIP.inj read⟩

/-- The address that Core 0 holds is the one it has just read or already
held. -/
theorem wgStep_taken {ip : ResolvedIP} (taken : (wgStep env shared pc).2.taken = some ip) :
    (wgStep env shared pc).1.endpointHost = shared.endpointHost ∧
      (pc.taken = some ip ∨
        pc = .beginReadIP false ∧ shared.resolvedEndpointIP = some ip) := by
  cases pc with
  | beginClearIP failed address =>
      simp only [wgStep] at taken ⊢
      obtain ⟨rfl, rfl⟩ := taken_afterTaking taken
      exact ⟨trivial, Or.inl rfl⟩
  | _ =>
      simp only [wgStep] at taken ⊢
      (repeat' split at taken) <;> first
        | exact absurd taken ((afterCancel_knowsNothing _ _).taken ip)
        | exact absurd taken ((wgTickStart_knowsNothing env shared).taken ip)
        | simp_all [WgPc.taken]

/-- Outside of a cancellation the resolution stays as it is, unless no task
runs and nothing is published. -/
theorem wgStep_settled (settled : (wgStep env shared pc).2.isCancelling = false) :
    (∃ caller, pc = .cancelBump caller) ∨
      pc.isAlone = true ∧
        (pc.isCleared = true ∨ (wgStep env shared pc).1.dnsDone = false) ∨
      pc.isCancelling = false ∧ pc ≠ .beginCreate ∧
        SameResolution shared (wgStep env shared pc).1 := by
  cases pc with
  | cancelBump caller => exact Or.inl ⟨caller, rfl⟩
  | cancelClearDone caller | beginClearDone failed ip => exact Or.inr (Or.inl ⟨rfl, Or.inr rfl⟩)
  | cancelClearFailed caller | cancelClearIP caller | beginClearFailed failed ip
  | beginClearIP failed ip | beginBump | beginCreate =>
      exact Or.inr (Or.inl ⟨rfl, Or.inl rfl⟩)
  | cancelTestHandle caller =>
      simp only [wgStep] at settled
      split at settled <;> cases settled
  | loop =>
      refine Or.inr (Or.inr ⟨rfl, nofun, ?_⟩)
      simp only [wgStep] at settled ⊢
      (repeat' split) <;> first
        | exact wgTickStart_same env shared
        | (constructor <;> rfl)
        | simp_all [WgPc.isCancelling]
  | testCancel caller =>
      refine Or.inr (Or.inr ⟨rfl, nofun, ?_⟩)
      simp only [wgStep]
      split
      · constructor <;> rfl
      · exact afterCancel_same shared caller
  | _ =>
      refine Or.inr (Or.inr ⟨rfl, nofun, ?_⟩)
      constructor <;> simp only [wgStep] <;> (repeat' split) <;> rfl

end Core0

theorem inFlight_same {shared next : WgShared} (same : SameResolution shared next)
    (task : Option DnsTask) : inFlight next task = inFlight shared task := by
  cases task with
  | none =>
      simp only [inFlight, WgShared.published, same.dnsDone, same.dnsFailed,
        same.resolvedEndpointIP]
  | some task =>
      cases pc : task.pc <;>
        simp only [inFlight, pc, WgShared.published, same.dnsDone, same.dnsFailed,
          same.resolvedEndpointIP]

theorem inFlight_of_notDone {shared : WgShared} (notDone : shared.dnsDone = false) :
    inFlight shared none = none := by
  simp [inFlight, WgShared.published, notDone]

theorem taskAfter_of_ne {manager : WgManager} (noCreate : manager.core0 ≠ .beginCreate)
    (env : WgEnv) : manager.taskAfter env = manager.task :=
  if_neg fun creates => noCreate creates.1

theorem taskKnown_core0 {manager : WgManager} (known : TaskKnown manager) (env : WgEnv) :
    TaskKnown
      { shared := (wgStep env manager.shared manager.core0).1
        core0 := (wgStep env manager.shared manager.core0).2
        task := manager.taskAfter env } where
  handle := by
    by_cases creates : manager.core0 = .beginCreate
    · have noTask := known.alone (by rw [creates]; rfl)
      simp only [creates, wgStep, WgManager.taskAfter, noTask]
      cases env.created <;> rfl
    · rw [taskAfter_of_ne creates, wgStep_handle env _ _ creates]
      exact known.handle
  alone := by
    intro alone
    by_cases creates : manager.core0 = .beginCreate
    · rw [creates] at alone
      cases alone
    · rw [taskAfter_of_ne creates]
      rcases wgStep_alone env _ _ alone with noHandle | alone
      · rw [known.handle] at noHandle
        exact Option.not_isSome_iff_eq_none.mp (Bool.eq_false_iff.mp noHandle)
      · exact known.alone alone

theorem fresh_core0 {manager : WgManager} {env : WgEnv} (kept : ResolutionFresh manager)
    (effective : CancelEffective manager (.core0 env))
    (settled : (wgStep env manager.shared manager.core0).2.isCancelling = false)
    {ip : ResolvedIP}
    (flies : inFlight (wgStep env manager.shared manager.core0).1 (manager.taskAfter env) =
      some ip) :
    ip.host = (wgStep env manager.shared manager.core0).1.endpointHost ∨
      Abandons (wgStep env manager.shared manager.core0).1.dnsGeneration
        (manager.taskAfter env) := by
  rcases wgStep_settled env manager.shared manager.core0 settled with
    ⟨caller, bumps⟩ | ⟨alone, notDone⟩ | ⟨wasSettled, noCreate, same⟩
  · have same := afterCancel_same
      { manager.shared with dnsGeneration := manager.shared.dnsGeneration + 1 } caller
    rw [taskAfter_of_ne (by rw [bumps]; nofun)] at flies ⊢
    rw [bumps] at flies ⊢
    simp only [wgStep] at flies ⊢
    rw [inFlight_same same] at flies
    rw [same.endpointHost, same.dnsGeneration]
    refine effective (by rw [bumps]; rfl) ip (Eq.trans ?_ flies)
    exact inFlight_same ⟨rfl, rfl, rfl, rfl, rfl, rfl⟩ manager.task
  · have cleared : (wgStep env manager.shared manager.core0).1.dnsDone = false := by
      rcases notDone with cleared | notDone
      · exact Bool.eq_false_iff.mpr fun done =>
          Bool.eq_false_iff.mp (kept.cleared cleared) (wgStep_done env _ _ done)
      · exact notDone
    unfold WgManager.taskAfter at flies
    split at flies
    · cases flies
    · rw [kept.alone alone, inFlight_of_notDone cleared] at flies
      cases flies
  · rw [taskAfter_of_ne noCreate] at flies ⊢
    rw [inFlight_same same] at flies
    rw [same.endpointHost, same.dnsGeneration]
    exact kept.fresh wasSettled ip flies

theorem resolutionFresh_core0 {manager : WgManager} {env : WgEnv}
    (kept : ResolutionFresh manager) (effective : CancelEffective manager (.core0 env)) :
    ResolutionFresh
      { shared := (wgStep env manager.shared manager.core0).1
        core0 := (wgStep env manager.shared manager.core0).2
        task := manager.taskAfter env } where
  toTaskKnown := taskKnown_core0 kept.toTaskKnown env
  publishing := by
    intro task runs done
    have wasDone := wgStep_done env _ _ done
    by_cases creates : manager.core0 = .beginCreate
    · rw [kept.cleared (by rw [creates]; rfl)] at wasDone
      cases wasDone
    · rw [taskAfter_of_ne creates] at runs
      exact kept.publishing task runs wasDone
  cleared := by
    intro cleared
    rcases wgStep_cleared env _ _ cleared with notDone | cleared
    · exact notDone
    · exact Bool.eq_false_iff.mpr fun done =>
        Bool.eq_false_iff.mp (kept.cleared cleared) (wgStep_done env _ _ done)
  found := wgStep_found env _ _
  read := by
    intro failed read
    obtain ⟨found, same, wasFailed⟩ := wgStep_read env _ _ read
    rw [same]
    exact ⟨kept.found found, wasFailed⟩
  taken := by
    intro ip taken
    obtain ⟨sameHost, held | ⟨reads, resolved⟩⟩ := wgStep_taken env _ _ taken
    · exact (kept.taken ip held).trans sameHost.symm
    · obtain ⟨done, notFailed⟩ := kept.read false reads
      have noTask := kept.alone (by rw [reads]; rfl)
      have flies : inFlight manager.shared manager.task = some ip := by
        simp [noTask, inFlight, WgShared.published, done, notFailed, resolved]
      rcases kept.fresh (by rw [reads]; rfl) ip flies with current | ⟨task, runs, -⟩
      · exact current.trans sameHost.symm
      · rw [noTask] at runs
        cases runs
  fresh := fun settled _ => fresh_core0 kept effective settled

/-! ## Steps of the task -/

section Task

variable (answer : Option Nat) (shared : WgShared) (task : DnsTask)

theorem dnsTaskStep_shared :
    (dnsTaskStep answer shared task).1.endpointHost = shared.endpointHost ∧
      (dnsTaskStep answer shared task).1.dnsGeneration = shared.dnsGeneration := by
  cases pc : task.pc <;> simp [dnsTaskStep, pc]

theorem dnsTaskStep_handle (handle : shared.dnsTaskHandle = true) :
    (dnsTaskStep answer shared task).1.dnsTaskHandle =
      (dnsTaskStep answer shared task).2.isSome := by
  cases pc : task.pc <;> simp only [dnsTaskStep, pc] <;> (repeat' split) <;>
    first | exact handle | rfl

theorem dnsTaskStep_publishing {next : DnsTask}
    (publishing : shared.dnsDone = true → task.pc = .setFailed ∨ task.pc = .cleanup)
    (continues : (dnsTaskStep answer shared task).2 = some next)
    (done : (dnsTaskStep answer shared task).1.dnsDone = true) :
    next.pc = .setFailed ∨ next.pc = .cleanup := by
  cases pc : task.pc <;>
    simp only [dnsTaskStep, pc, DnsTask.goto, Option.some.injEq] at continues done <;>
    (repeat' split at continues) <;> cases continues <;> simp_all

/-- What is in flight after a step of the task was already in flight or has
just been resolved, and a task that passes its last check has its own
generation. -/
theorem dnsTaskStep_inFlight
    (publishing : shared.dnsDone = true → task.pc = .setFailed ∨ task.pc = .cleanup)
    {ip : ResolvedIP}
    (flies : inFlight (dnsTaskStep answer shared task).1
      (dnsTaskStep answer shared task).2 = some ip) :
    ip.host = shared.endpointHost ∨
      inFlight shared (some task) = some ip ∧
        (Abandons shared.dnsGeneration (some task) →
          Abandons shared.dnsGeneration (dnsTaskStep answer shared task).2) := by
  cases pc : task.pc with
  | resolve =>
      cases answer with
      | none => simp_all [dnsTaskStep, DnsTask.goto, afterAnswer, inFlight, Abandons,
          DnsPc.isChecked]
      | some address =>
          simp only [dnsTaskStep, pc, DnsTask.goto, afterAnswer, inFlight] at flies
          cases flies
          exact Or.inl rfl
  | _ =>
      simp only [dnsTaskStep, pc, DnsTask.goto] at flies ⊢
      (repeat' split at flies) <;>
        simp_all [inFlight, WgShared.published, Abandons, DnsPc.isChecked]

end Task

theorem isAlone_of_isCleared {pc : WgPc} (cleared : pc.isCleared = true) :
    pc.isAlone = true := by
  cases pc <;> first | rfl | cases cleared

theorem TaskKnown.not_alone {manager : WgManager} {task : DnsTask}
    (known : TaskKnown manager) (running : manager.task = some task) :
    manager.core0.isAlone ≠ true := by
  intro alone
  rw [known.alone alone] at running
  cases running

theorem taskKnown_dnsTask {manager : WgManager} {task : DnsTask} (known : TaskKnown manager)
    (running : manager.task = some task) (answer : Option Nat) :
    TaskKnown
      { manager with
        shared := (dnsTaskStep answer manager.shared task).1
        task := (dnsTaskStep answer manager.shared task).2 } where
  handle := by
    apply dnsTaskStep_handle
    rw [known.handle, running]
    rfl
  alone := fun alone => absurd alone (known.not_alone running)

theorem taskKnown_step {manager next : WgManager} {event : WgEvent} (known : TaskKnown manager)
    (stepped : wgManagerStep manager event = some next) : TaskKnown next := by
  cases event with
  | core0 env =>
      cases stepped
      exact taskKnown_core0 known env
  | dnsTask answer =>
      obtain ⟨task, running, rfl⟩ := wgManagerStep_dnsTask stepped
      exact taskKnown_dnsTask known running answer

theorem resolutionFresh_dnsTask {manager : WgManager} {task : DnsTask}
    (kept : ResolutionFresh manager) (running : manager.task = some task)
    (answer : Option Nat) :
    ResolutionFresh
      { manager with
        shared := (dnsTaskStep answer manager.shared task).1
        task := (dnsTaskStep answer manager.shared task).2 } := by
  have notAlone := kept.not_alone running
  obtain ⟨sameHost, sameGeneration⟩ := dnsTaskStep_shared answer manager.shared task
  constructor
  · exact taskKnown_dnsTask kept.toTaskKnown running answer
  · intro next continues
    exact dnsTaskStep_publishing _ _ _ (kept.publishing task running) continues
  · exact fun cleared => absurd (isAlone_of_isCleared cleared) notAlone
  · intro found
    exact absurd (by rw [found]; rfl) notAlone
  · intro failed read
    exact absurd (by rw [read]; rfl) notAlone
  · intro ip taken
    exact (kept.taken ip taken).trans sameHost.symm
  · intro settled ip flies
    rw [sameHost, sameGeneration]
    rcases dnsTaskStep_inFlight answer _ task (kept.publishing task running) flies with
      current | ⟨flew, abandons⟩
    · exact Or.inl current
    · rw [← running] at flew abandons
      exact (kept.fresh settled ip flew).imp_right abandons

theorem resolutionFresh_step {manager next : WgManager} {event : WgEvent}
    (kept : ResolutionFresh manager) (effective : CancelEffective manager event)
    (stepped : wgManagerStep manager event = some next) : ResolutionFresh next := by
  cases event with
  | core0 env =>
      cases stepped
      exact resolutionFresh_core0 kept effective
  | dnsTask answer =>
      obtain ⟨task, running, rfl⟩ := wgManagerStep_dnsTask stepped
      exact resolutionFresh_dnsTask kept running answer

/-- The tunnel is only started with an address of the current endpoint, in
every run in which every cancellation is effective. -/
theorem endpointCurrent_of_cancelEffective (enabled : Bool)
    (privateKey serverPublicKey endpointHost tunnelAddress : String)
    (events : List WgEvent) (last : WgManager)
    (effective : Guarded wgManagerStep CancelEffective
      (WgManager.boot enabled privateKey serverPublicKey endpointHost tunnelAddress) events)
    (ran : run wgManagerStep
      (WgManager.boot enabled privateKey serverPublicKey endpointHost tunnelAddress) events =
        some last) :
    EndpointCurrent last :=
  (invariant_of_guarded (fun _ _ _ => resolutionFresh_step)
    (resolutionFresh_boot _ _ _ _ _) effective ran).endpointCurrent

/-- `wg_tick` with WiFi and time, when the backoff has passed. -/
def tick : WgEvent :=
  .core0 ⟨.tick, true, true, false, true, true, true⟩

def setEndpoint (host : String) : WgEvent :=
  .core0 ⟨.setEndpoint host, true, true, false, true, true, true⟩

/-- The endpoint changes when the task has passed its last check. -/
def changeAfterLastCheck : List WgEvent :=
  List.replicate 7 tick ++ List.replicate 8 (.dnsTask (some 1)) ++
    List.replicate 3 (setEndpoint "new.example.org") ++
    List.replicate 3 (.dnsTask none) ++ List.replicate 10 tick

theorem tunnel_to_previous_endpoint :
    ∃ last, run wgManagerStep
        (WgManager.boot true "private" "public" "old.example.org" "10.0.0.2/32")
        changeAfterLastCheck = some last ∧
      ¬ EndpointCurrent last := by
  refine ⟨_, rfl, fun current => ?_⟩
  exact absurd (current ⟨1, "old.example.org"⟩ rfl) (by decide)

instance decidableAbandons (generation : UInt8) (task : Option DnsTask) :
    Decidable (Abandons generation task) :=
  match task with
  | none => .isFalse fun ⟨_, impossible, _⟩ => nomatch impossible
  | some running =>
      decidable_of_iff (running.pc.isChecked = false ∧ running.myGen ≠ generation)
        (by simp [Abandons])

instance decidableCancelEffective (manager : WgManager) :
    ∀ event, Decidable (CancelEffective manager event)
  | .core0 _ =>
      inferInstanceAs (Decidable (manager.core0.isBump = true →
        ∀ ip ∈ inFlight manager.shared manager.task,
          ip.host = manager.shared.endpointHost ∨
            Abandons (manager.shared.dnsGeneration + 1) manager.task))
  | .dnsTask _ => .isTrue trivial

/-- The endpoint changes before the task stores the answer. -/
def changeBeforeStore : List WgEvent :=
  List.replicate 7 tick ++ List.replicate 4 (.dnsTask (some 1)) ++
    List.replicate 3 (setEndpoint "new.example.org") ++
    List.replicate 3 (.dnsTask none) ++ List.replicate 7 tick ++
    List.replicate 11 (.dnsTask (some 2)) ++ List.replicate 10 tick

theorem endpointCurrent_changeBeforeStore :
    ∃ last, run wgManagerStep
        (WgManager.boot true "private" "public" "old.example.org" "10.0.0.2/32")
        changeBeforeStore = some last ∧
      EndpointCurrent last ∧
      last.core0 = .startTunnelWithIP ⟨2, "new.example.org"⟩ := by
  refine ⟨_, rfl, endpointCurrent_of_cancelEffective true "private" "public"
    "old.example.org" "10.0.0.2/32" changeBeforeStore _ ?_ rfl, rfl⟩
  decide +kernel

end EchoMic
