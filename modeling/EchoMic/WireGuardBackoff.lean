import EchoMic.WireGuardManager

/-!
# The backoff between attempts

An attempt that fails notes the time, and the next tick that would resolve
the endpoint compares that time with the backoff.  The path for a rejected
tunnel address notes nothing, so the backoff holds when the address is one
that `parseTunnelAddress` accepts.
-/

namespace EchoMic

open GuardedRuns
open WireGuardState

/-- The lines with which an attempt ends in failure. -/
def WgLine.endsAttempt : WgLine → Bool
  | .invalidTunnelAddress _ | .interfaceFailed => true
  | .resolutionFailed | .reconnecting => true
  | _ => false

/-- The line in front of the creation of a resolving task. -/
def WgLine.startsTask : WgLine → Bool
  | .resolving _ => true
  | _ => false

def WireGuardState.EndsAttempt (wg : WireGuardState) : Prop :=
  ∃ line ∈ wg.printed, line.endsAttempt = true

def WireGuardState.StartsTask (wg : WireGuardState) : Prop :=
  ∃ line ∈ wg.printed, line.startsTask = true

def tickStep (fromString : String → Option IPAddress) (wg : WireGuardState)
    (outside : WgOutside) : Option WireGuardState :=
  wireGuardStep fromString wg (outside, .tick)

/-- The clock is set and WiFi is connected. -/
def WgOutside.Steady (outside : WgOutside) : Prop :=
  100000 ≤ outside.now ∧ outside.wifiConnected = true

/-- After a tick that ends an attempt in failure, a resolving task is created
only once the backoff of that moment has passed. -/
def RespectsBackoff (fromString : String → Option IPAddress) (start : WireGuardState)
    (ticks : List WgOutside) : Prop :=
  ∀ before failing between starting after failed waited last,
    ticks = before ++ failing :: (between ++ starting :: after) →
      run (tickStep fromString) start (before ++ [failing]) = some failed →
      failed.EndsAttempt →
      run (tickStep fromString) failed between = some waited →
      tickStep fromString waited starting = some last → last.StartsTask →
        failing.millis + waited.backoffMs.toNat ≤ starting.millis

/-- Something that `wg_begin` needs is missing. -/
def WgConfig.Incomplete (config : WgConfig) : Prop :=
  config.privateKey = "" ∨ config.serverPublicKey = "" ∨ config.endpointHost = "" ∨
    config.tunnelAddress = ""

/-- The configured address is accepted, or no tunnel can be begun at all. -/
def AddressAccepted (fromString : String → Option IPAddress) (config : WgConfig) : Prop :=
  (parseTunnelAddress fromString config.tunnelAddress).isSome = true ∨ config.Incomplete

/-! ## What a tick notes and prints -/

/-- A part of a tick: it keeps the configuration, notes no time but the
present one, notes it when it ends an attempt, and creates a task only under
`mayStart`. -/
structure TickEffect (mayStart : Prop) (outside : WgOutside) (wg next : WireGuardState) :
    Prop where
  config : next.config = wg.config
  noted : next.lastAttemptMs = wg.lastAttemptMs ∨ next.lastAttemptMs = outside.millis32
  lines : ∃ lines, next.printed = wg.printed ++ lines ∧
    (∀ line ∈ lines, line.startsTask = true → mayStart) ∧
    ∀ line ∈ lines, line.endsAttempt = true → next.lastAttemptMs = outside.millis32

section Effects

variable {mayStart : Prop} {outside : WgOutside} {wg middle next : WireGuardState}

/-- A part that prints nothing and notes nothing. -/
theorem tickEffect_silent (config : next.config = wg.config)
    (noted : next.lastAttemptMs = wg.lastAttemptMs) (printed : next.printed = wg.printed) :
    TickEffect mayStart outside wg next where
  config := config
  noted := Or.inl noted
  lines := ⟨[], by simpa using printed, nofun, nofun⟩

/-- A part that prints one line. -/
theorem tickEffect_prints {line : WgLine} (config : next.config = wg.config)
    (noted : next.lastAttemptMs = wg.lastAttemptMs ∨
      next.lastAttemptMs = outside.millis32)
    (printed : next.printed = wg.printed ++ [line])
    (starts : line.startsTask = false ∨ mayStart)
    (ends : line.endsAttempt = false ∨ next.lastAttemptMs = outside.millis32) :
    TickEffect mayStart outside wg next where
  config := config
  noted := noted
  lines := by
    refine ⟨[line], printed, ?_, ?_⟩
    · intro other member starting
      rw [List.mem_singleton.mp member] at starting
      exact starts.resolve_left (ne_false_of_eq_true starting)
    · intro other member ending
      rw [List.mem_singleton.mp member] at ending
      exact ends.resolve_left (ne_false_of_eq_true ending)

theorem tickEffect_print (line : WgLine) (starts : line.startsTask = false ∨ mayStart)
    (neutral : line.endsAttempt = false) : TickEffect mayStart outside wg (print line wg) :=
  tickEffect_prints rfl (Or.inl rfl) rfl starts (Or.inl neutral)

theorem TickEffect.trans (first : TickEffect mayStart outside wg middle)
    (second : TickEffect mayStart outside middle next) :
    TickEffect mayStart outside wg next where
  config := second.config.trans first.config
  noted := by
    rcases second.noted with same | now
    · rw [same]
      exact first.noted
    · exact Or.inr now
  lines := by
    obtain ⟨firstLines, firstPrinted, firstStarts, firstEnds⟩ := first.lines
    obtain ⟨secondLines, secondPrinted, secondStarts, secondEnds⟩ := second.lines
    refine ⟨firstLines ++ secondLines, ?_, ?_, ?_⟩
    · rw [secondPrinted, firstPrinted, List.append_assoc]
    · intro line member
      rcases List.mem_append.mp member with inFirst | inSecond
      · exact firstStarts line inFirst
      · exact secondStarts line inSecond
    · intro line member ends
      rcases List.mem_append.mp member with inFirst | inSecond
      · rcases second.noted with same | now
        · rw [same]
          exact firstEnds line inFirst ends
        · exact now
      · exact secondEnds line inSecond ends

/-- What happens before a part without printing and noting does not matter. -/
theorem TickEffect.after (effect : TickEffect mayStart outside middle next)
    (config : middle.config = wg.config) (noted : middle.lastAttemptMs = wg.lastAttemptMs)
    (printed : middle.printed = wg.printed) : TickEffect mayStart outside wg next :=
  (tickEffect_silent config noted printed).trans effect

theorem tickEffect_cancelDNS (update : DnsUpdate) (reason : String) :
    TickEffect mayStart outside wg (cancelDNS update reason wg) := by
  simp only [cancelDNS]
  split
  · exact tickEffect_prints rfl (Or.inl rfl) rfl (Or.inl rfl) (Or.inl rfl)
  · exact tickEffect_silent rfl rfl rfl

theorem tickEffect_cancelIfResolving (reason : String) :
    TickEffect mayStart outside wg (cancelIfResolving outside reason wg) := by
  simp only [cancelIfResolving]
  split
  · exact TickEffect.after (tickEffect_cancelDNS _ reason) rfl rfl rfl
  · exact tickEffect_silent rfl rfl rfl

theorem tickEffect_wgStop : TickEffect mayStart outside wg (wgStop outside wg) := by
  have cancelled : TickEffect mayStart outside wg
      (cancelDNS (outside.dns .stopCancel) "stop" wg) := tickEffect_cancelDNS _ _
  simp only [wgStop, endTunnel]
  split
  · exact cancelled.trans (tickEffect_prints rfl (Or.inl rfl) rfl (Or.inl rfl) (Or.inl rfl))
  · exact cancelled.trans (tickEffect_silent rfl rfl rfl)

theorem tickEffect_stopIfInitialized :
    TickEffect mayStart outside wg (stopIfInitialized outside wg) := by
  unfold stopIfInitialized
  split
  · exact tickEffect_wgStop
  · exact tickEffect_silent rfl rfl rfl

/-- Giving up on a peer prints first and notes the time last. -/
theorem tickEffect_reconnect :
    TickEffect mayStart outside wg
      (raiseBackoff
        { wgStop outside (print .reconnecting wg) with
          lastAttemptMs := outside.millis32 }) := by
  obtain ⟨config, -, lines, printed, starts, -⟩ :=
    (tickEffect_wgStop : TickEffect mayStart outside (print .reconnecting wg) _)
  refine ⟨config, Or.inr rfl, .reconnecting :: lines, ?_, ?_, fun _ _ _ => rfl⟩
  · rw [List.append_cons]
    exact printed
  · intro line member starting
    rcases List.mem_cons.mp member with same | inLines
    · rw [same] at starting
      cases starting
    · exact starts line inLines starting

theorem tickEffect_watchPeer : TickEffect mayStart outside wg (watchPeer outside wg) := by
  simp only [watchPeer]
  split
  · split
    · exact tickEffect_silent rfl rfl rfl
    · exact tickEffect_prints rfl (Or.inl rfl) rfl (Or.inl rfl) (Or.inl rfl)
  · have gone : TickEffect mayStart outside wg
        { print .tunnelDown { wg with wasUp := false } with state := .connecting } :=
      tickEffect_prints rfl (Or.inl rfl) rfl (Or.inl rfl) (Or.inl rfl)
    have still : TickEffect mayStart outside wg { wg with state := .connecting } :=
      tickEffect_silent rfl rfl rfl
    split
    · split
      · exact gone.trans tickEffect_reconnect
      · exact gone
    · split
      · exact still.trans tickEffect_reconnect
      · exact still

end Effects

section Address

variable {fromString : String → Option IPAddress} {mayStart : Prop} {outside : WgOutside}
variable {wg : WireGuardState}

/-- With an accepted address an attempt that ends here has noted the time. -/
theorem tickEffect_startTunnelWithIP
    (accepted : (parseTunnelAddress fromString wg.config.tunnelAddress).isSome = true)
    (resolvedIP : String) :
    TickEffect mayStart outside wg
      (startTunnelWithIP fromString outside resolvedIP wg) := by
  obtain ⟨⟨ip, mask⟩, address⟩ := Option.isSome_iff_exists.mp accepted
  simp only [startTunnelWithIP, address]
  have announced : TickEffect mayStart outside wg
      (print (.tunnelIP ip)
        (print (.startingTunnel wg.config.endpointHost resolvedIP wg.config.endpointPort)
          wg)) :=
    (tickEffect_print _ (Or.inl rfl) rfl).trans
      (tickEffect_print _ (Or.inl rfl) rfl)
  split
  · exact announced.trans (tickEffect_prints rfl (Or.inr rfl) rfl (Or.inl rfl) (Or.inl rfl))
  · exact announced.trans (tickEffect_prints rfl (Or.inr rfl) rfl (Or.inl rfl) (Or.inr rfl))

theorem tickEffect_takeResolution
    (accepted : (parseTunnelAddress fromString wg.config.tunnelAddress).isSome = true) :
    TickEffect mayStart outside wg (takeResolution fromString outside wg) := by
  simp only [takeResolution]
  split
  · exact tickEffect_prints rfl (Or.inr rfl) rfl (Or.inl rfl) (Or.inr rfl)
  · exact TickEffect.after (tickEffect_startTunnelWithIP (by exact accepted) _) rfl rfl rfl

theorem tickEffect_startResolution (starts : mayStart) :
    TickEffect mayStart outside wg (startResolution outside wg) := by
  have announced : TickEffect mayStart outside wg
      (print (.resolving wg.config.endpointHost) wg) :=
    tickEffect_print _ (Or.inr starts) rfl
  simp only [startResolution]
  split
  · exact announced.trans (tickEffect_silent rfl rfl rfl)
  · exact announced.trans (tickEffect_prints rfl (Or.inr rfl) rfl (Or.inl rfl) (Or.inl rfl))

/-- `wg_begin` creates a task only when there is no result to take. -/
theorem tickEffect_wgBegin (accepted : AddressAccepted fromString wg.config)
    (starts : wg.dnsDone = true ∨ mayStart) :
    TickEffect mayStart outside wg (wgBegin fromString outside wg) := by
  rcases accepted with accepted | incomplete
  · simp only [wgBegin]
    (repeat' split) <;> try exact tickEffect_silent rfl rfl rfl
    · exact TickEffect.after (tickEffect_takeResolution (by exact accepted)) rfl rfl rfl
    · rename_i notDone
      rcases starts with done | starts
      · rw [dnsRuns, done, Bool.true_or] at notDone
        exact absurd rfl notDone
      · exact TickEffect.after (tickEffect_startResolution starts) rfl rfl rfl
  · have unchanged : wgBegin fromString outside wg = wg := by
      unfold WgConfig.Incomplete at incomplete
      simp only [wgBegin]
      (repeat' split) <;> simp_all
    rw [unchanged]
    exact tickEffect_silent rfl rfl rfl

/-- A tick creates a task only after it has compared the time with the
backoff. -/
theorem tickEffect_awaitTunnel (accepted : AddressAccepted fromString wg.config) :
    TickEffect (¬ outside.millis32 - wg.lastAttemptMs < wg.backoffMs) outside wg
      (awaitTunnel fromString outside wg) := by
  simp only [awaitTunnel]
  split
  · rename_i done
    have taken := (Bool.and_eq_true_iff.mp done).1
    refine TickEffect.after (tickEffect_wgBegin (by exact accepted) (Or.inl ?_)) rfl rfl rfl
    rw [dnsRuns, taken, Bool.true_or]
  · (repeat' split)
    · exact tickEffect_silent rfl rfl rfl
    · exact tickEffect_silent rfl rfl rfl
    · rename_i due
      exact TickEffect.after (tickEffect_wgBegin (by exact accepted) (Or.inr due)) rfl rfl rfl

theorem tickEffect_wgTick (accepted : AddressAccepted fromString wg.config) :
    TickEffect (¬ outside.millis32 - wg.lastAttemptMs < wg.backoffMs) outside wg
      (wgTick fromString outside wg) := by
  have stopped (reason : String) (state : WgState) :
      TickEffect (¬ outside.millis32 - wg.lastAttemptMs < wg.backoffMs) outside wg
        { stopIfInitialized outside (cancelIfResolving outside reason wg) with
          state := state } :=
    ((tickEffect_cancelIfResolving reason).trans tickEffect_stopIfInitialized).trans
      (tickEffect_silent rfl rfl rfl)
  simp only [wgTick]
  (repeat' split)
  · exact stopped "disable" .disabled
  · exact tickEffect_silent rfl rfl rfl
  · exact tickEffect_silent rfl rfl rfl
  · exact TickEffect.after
      ((tickEffect_cancelIfResolving "waiting_time").trans tickEffect_stopIfInitialized)
      rfl rfl rfl
  · exact stopped "waiting_wifi" .waitWifi
  · exact tickEffect_awaitTunnel accepted
  · exact tickEffect_watchPeer

/-! ## Runs of ticks -/

/-- What a whole tick does, which starts with nothing printed. -/
structure TickNotes (outside : WgOutside) (wg next : WireGuardState) : Prop where
  config : next.config = wg.config
  noted : next.lastAttemptMs = wg.lastAttemptMs ∨ next.lastAttemptMs = outside.millis32
  ends : next.EndsAttempt → next.lastAttemptMs = outside.millis32
  starts : next.StartsTask → ¬ outside.millis32 - wg.lastAttemptMs < wg.backoffMs

theorem tickNotes_of_step {next : WireGuardState}
    (accepted : AddressAccepted fromString wg.config)
    (stepped : tickStep fromString wg outside = some next) :
    TickNotes outside wg next := by
  cases stepped
  obtain ⟨config, noted, lines, printed, starts, ends⟩ :=
    (tickEffect_wgTick (by exact accepted) :
      TickEffect _ outside { wg with printed := [] }
        (wgTick fromString outside { wg with printed := [] }))
  rw [List.nil_append] at printed
  refine ⟨config, noted, ?_, ?_⟩
  · rintro ⟨line, member, ending⟩
    exact ends line (printed ▸ member) ending
  · rintro ⟨line, member, starting⟩
    exact starts line (printed ▸ member) starting

/-- The noted time lies between two moments. -/
def NotedBetween (low high : Nat) (wg : WireGuardState) : Prop :=
  ∃ moment, low ≤ moment ∧ moment ≤ high ∧ wg.lastAttemptMs = UInt32.ofNat moment

theorem addressAccepted_of_run {start last : WireGuardState} {ticks : List WgOutside}
    (accepted : AddressAccepted fromString start.config)
    (ran : run (tickStep fromString) start ticks = some last) :
    AddressAccepted fromString last.config := by
  refine @invariant_of_run WireGuardState WgOutside (tickStep fromString)
    (fun wg => AddressAccepted fromString wg.config)
    (fun wg outside next accepted stepped => ?_) start last ticks accepted ran
  rw [(tickNotes_of_step accepted stepped).config]
  exact accepted

theorem notedBetween_of_run {start last : WireGuardState} {ticks : List WgOutside}
    {low high : Nat} (accepted : AddressAccepted fromString start.config)
    (noted : NotedBetween low high start)
    (inside : ∀ outside ∈ ticks, low ≤ outside.millis ∧ outside.millis ≤ high)
    (ran : run (tickStep fromString) start ticks = some last) :
    NotedBetween low high last := by
  have kept := @invariant_of_guarded WireGuardState WgOutside (tickStep fromString)
    (fun _ outside => low ≤ outside.millis ∧ outside.millis ≤ high)
    (fun wg => AddressAccepted fromString wg.config ∧ NotedBetween low high wg)
  refine (kept ?_ ⟨accepted, noted⟩
    (guarded_of_forall_mem (fun outside member _ => inside outside member) start) ran).2
  rintro wg outside next ⟨accepted, moment, after, before, same⟩ ⟨late, early⟩ stepped
  have notes := tickNotes_of_step accepted stepped
  refine ⟨by rw [notes.config]; exact accepted, ?_⟩
  rcases notes.noted with unchanged | now
  · exact ⟨moment, after, before, unchanged.trans same⟩
  · exact ⟨outside.millis, late, early, now⟩

end Address

/-- The target's clock never shows more than the time that has passed. -/
theorem elapsed_le {moment now : Nat} (past : moment ≤ now) :
    (UInt32.ofNat now - UInt32.ofNat moment).toNat ≤ now - moment := by
  rw [UInt32.toNat_sub, UInt32.toNat_ofNat', UInt32.toNat_ofNat']
  omega

/-- Ticks at increasing times respect the backoff when the configured tunnel
address is accepted. -/
theorem respectsBackoff_of_addressAccepted (fromString : String → Option IPAddress)
    (start : WireGuardState) (ticks : List WgOutside)
    (accepted : AddressAccepted fromString start.config)
    (increasing : ticks.Pairwise fun earlier later => earlier.millis ≤ later.millis) :
    RespectsBackoff fromString start ticks := by
  rintro before failing between starting after failed waited last rfl ranFailing ends
    ranBetween stepped starts
  -- The order of the three parts in time.
  have fromFailing := (List.pairwise_append.mp increasing).2.1
  obtain ⟨afterFailing, rest⟩ := List.pairwise_cons.mp fromFailing
  have beforeStarting (outside : WgOutside) (member : outside ∈ between) :
      outside.millis ≤ starting.millis :=
    (List.pairwise_append.mp rest).2.2 outside member starting List.mem_cons_self
  have startingLater : failing.millis ≤ starting.millis :=
    afterFailing starting (List.mem_append_right _ List.mem_cons_self)
  -- The failure notes its time, and the later ticks keep or renew it.
  obtain ⟨wg, ranBefore, steppedFailing⟩ :
      ∃ wg, run (tickStep fromString) start before = some wg ∧
        tickStep fromString wg failing = some failed := by
    rw [run_append] at ranFailing
    obtain ⟨wg, ranBefore, ranLast⟩ := Option.bind_eq_some_iff.mp ranFailing
    obtain ⟨next, steppedFailing, finished⟩ := run_cons_some ranLast
    cases finished
    exact ⟨wg, ranBefore, steppedFailing⟩
  have acceptedFailing := addressAccepted_of_run accepted ranBefore
  have acceptedFailed := addressAccepted_of_run accepted ranFailing
  have notedFailed : NotedBetween failing.millis starting.millis failed :=
    ⟨failing.millis, Nat.le_refl _, startingLater,
      (tickNotes_of_step acceptedFailing steppedFailing).ends ends⟩
  obtain ⟨moment, late, early, noted⟩ :=
    notedBetween_of_run acceptedFailed notedFailed
      (fun outside member =>
        ⟨afterFailing outside (List.mem_append_left _ member), beforeStarting outside member⟩)
      ranBetween
  have due := (tickNotes_of_step (addressAccepted_of_run acceptedFailed ranBetween)
    stepped).starts starts
  rw [noted, WgOutside.millis32, UInt32.not_lt, UInt32.le_iff_toNat_le] at due
  have elapsed := elapsed_le early
  omega

/-- The resolution fails, and is started again after ten seconds. -/
def retriedTicks : List WgOutside :=
  [.working 10000 .idle, .working 10500 ⟨none, true, some true, true⟩,
    .working 20000 .idle, .working 20500 .idle]

theorem respectsBackoff_retriedTicks :
    RespectsBackoff readTunnelIP (wgLoad (powerOn (storedPrefs "10.0.0.2/24"))) retriedTicks :=
  respectsBackoff_of_addressAccepted readTunnelIP _ retriedTicks (Or.inl rfl) (by decide)

/-- The endpoint is resolved, and the tunnel address has no prefix length. -/
def rejectedTicks : List WgOutside :=
  [.working 10000 .idle, .working 10500 (.answered "192.0.2.1"), .working 10501 .idle]

/-- The next tick resolves the endpoint again, a millisecond after the
rejection. -/
theorem retry_without_backoff :
    (∀ outside ∈ rejectedTicks, outside.Steady) ∧
      (rejectedTicks.Pairwise fun earlier later => earlier.millis ≤ later.millis) ∧
      (wgLoad (powerOn (storedPrefs "10.0.0.2"))).config.enabled = true ∧
      ¬ RespectsBackoff readTunnelIP (wgLoad (powerOn (storedPrefs "10.0.0.2")))
        rejectedTicks := by
  refine ⟨?_, by decide, rfl, fun respects => ?_⟩
  · intro outside member
    simp only [rejectedTicks, List.mem_cons, List.not_mem_nil, or_false] at member
    rcases member with rfl | rfl | rfl <;> exact ⟨by decide, rfl⟩
  · have tooEarly := respects [.working 10000 .idle] _ [] _ [] _ _ _ rfl rfl
      ⟨.invalidTunnelAddress "10.0.0.2", List.mem_cons_self, rfl⟩ rfl rfl
      ⟨.resolving "vpn.example", List.mem_cons_self, rfl⟩
    exact absurd tooEarly (by decide)

end EchoMic
