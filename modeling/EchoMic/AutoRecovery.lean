import EchoMic.PacketRate
import EchoMic.Streaks

/-!
# Automatic recovery

`checkPerformance` restarts the audio pipeline at the third low check in a
row.  Its counter is a static of the function, so neither PLAY nor the end of
a stream clears it, and it keeps counting in eight bits while the recovery is
off.  This file follows it over runs of many streams, beside the checks that
were evaluated since the last PLAY.
-/

namespace EchoMic

open GuardedRuns Streaks

/-- The globals, and whether each check evaluated since the last PLAY was
low, the latest one first. -/
structure RecoveryHistory where
  monitor : PerfMonitor
  checks : List Bool
  deriving DecidableEq

/-- The initial values of the globals. -/
def PerfMonitor.boot (lastStatsReset : UInt32) : PerfMonitor where
  minFreeHeap := 0xFFFFFFFF
  isStreaming := false
  audioPacketsSent := 0
  lastStatsReset := lastStatsReset
  lastI2SReset := 0
  maxPacketRate := 0
  minPacketRate := 0xFFFFFFFF
  minAcceptableRate := 50
  autoRecoveryEnabled := false
  consecutiveLowCount := 0

def RecoveryHistory.boot (lastStatsReset : UInt32) : RecoveryHistory where
  monitor := PerfMonitor.boot lastStatsReset
  checks := []

/-- What happens between two checks, and the checks.  A settings request can
change the threshold and the recovery, and restart the pipeline itself. -/
inductive RecoveryEvent where
  | play (now : UInt32)
  | send (success : Bool)
  | ends
  | setMinRate (minAcceptableRate : UInt32)
  | setAutoRecovery (enabled : Bool)
  | restart (resumed : Bool)
  | check (clock : PerfClock) (freeHeap : UInt32) (resumed : Bool)
  deriving DecidableEq

/-- The result of a check: none when it is skipped, else whether its rate is
below the threshold of the moment. -/
def evaluatedLow (clock : PerfClock) (monitor : PerfMonitor) : Option Bool :=
  (checkedRate clock monitor).map fun currentRate =>
    decide (currentRate < monitor.minAcceptableRate)

/-- The checks since PLAY, with the one that is done now. -/
def recordCheck (clock : PerfClock) (history : RecoveryHistory) : List Bool :=
  (evaluatedLow clock history.monitor).toList ++ history.checks

def recoveryStep (history : RecoveryHistory) : RecoveryEvent → Option RecoveryHistory
  | .play now =>
      if history.monitor.isStreaming then none
      else
        some
          { monitor :=
              { history.monitor with
                audioPacketsSent := 0
                lastStatsReset := now
                isStreaming := true }
            checks := [] }
  | .send success =>
      if history.monitor.isStreaming then
        some
          { history with
            monitor :=
              { history.monitor with
                audioPacketsSent :=
                  if success then history.monitor.audioPacketsSent + 1
                  else history.monitor.audioPacketsSent } }
      else none
  | .ends => some { history with monitor := { history.monitor with isStreaming := false } }
  | .setMinRate minAcceptableRate =>
      some
        { history with
          monitor := { history.monitor with minAcceptableRate := minAcceptableRate } }
  | .setAutoRecovery enabled =>
      some
        { history with
          monitor := { history.monitor with autoRecoveryEnabled := enabled } }
  | .restart resumed =>
      some
        { history with
          monitor := history.monitor.restartI2S (history.monitor.isStreaming && resumed) }
  | .check clock freeHeap resumed =>
      some
        { monitor := (checkPerformance clock freeHeap resumed history.monitor).1
          checks := recordCheck clock history }

/-- A check restarts the pipeline only while the recovery is enabled and as
the third low check in a row, all of them since PLAY. -/
def RecoversAfterThreeLow (start : RecoveryHistory) (events : List RecoveryEvent) : Prop :=
  ∀ before clock freeHeap resumed after,
    events = before ++ .check clock freeHeap resumed :: after →
      ∀ history, run recoveryStep start before = some history →
        (checkPerformance clock freeHeap resumed history.monitor).2 = true →
          history.monitor.autoRecoveryEnabled = true ∧
            LastAre id 3 (recordCheck clock history)

/-- PLAY finds the counter at zero. -/
def PlaysFromZeroLow (history : RecoveryHistory) (event : RecoveryEvent) : Prop :=
  ∀ now, event = .play now → history.monitor.consecutiveLowCount = 0

instance (history : RecoveryHistory) : DecidablePred (PlaysFromZeroLow history)
  | .play now =>
      decidable_of_iff (history.monitor.consecutiveLowCount = 0)
        ⟨fun zero _ _ => zero, fun fromZero => fromZero now rfl⟩
  | .send _ | .ends | .setMinRate _ | .setAutoRecovery _ | .restart _ | .check _ _ _ =>
      isTrue fun _ => RecoveryEvent.noConfusion

/-! ## One check -/

/-- A check that is skipped keeps the counter, and one that is not low clears
it. -/
theorem checkPerformance_of_not_low {clock : PerfClock} {monitor : PerfMonitor}
    (notLow : evaluatedLow clock monitor ≠ some true) (freeHeap : UInt32) (resumed : Bool) :
    let next := checkPerformance clock freeHeap resumed monitor
    next.2 = false ∧
      next.1.consecutiveLowCount =
        if evaluatedLow clock monitor = none then monitor.consecutiveLowCount else 0 := by
  cases checked : checkedRate clock monitor with
  | none => simp [checkPerformance, evaluatedLow, checkedRate_minFreeHeap, checked]
  | some currentRate =>
      have reaches : ¬ currentRate < monitor.minAcceptableRate := fun low =>
        notLow (by simp [evaluatedLow, checked, low])
      simp only [checkPerformance, evaluatedLow, checkedRate_minFreeHeap, checked, if_neg reaches]
      exact ⟨trivial, rfl⟩

/-- A low check restarts the pipeline or raises the counter. -/
theorem checkPerformance_of_low {clock : PerfClock} {monitor : PerfMonitor}
    (low : evaluatedLow clock monitor = some true) (freeHeap : UInt32) (resumed : Bool) :
    let next := checkPerformance clock freeHeap resumed monitor
    (next.2 = true ∧ monitor.consecutiveLowCount + 1 ≥ 3 ∧
        monitor.autoRecoveryEnabled = true ∧ next.1.consecutiveLowCount = 0) ∨
      (next.2 = false ∧ next.1.consecutiveLowCount = monitor.consecutiveLowCount + 1) := by
  obtain ⟨currentRate, checked, below⟩ := Option.map_eq_some_iff.mp low
  simp only [checkPerformance, checkedRate_minFreeHeap, checked,
    if_pos (of_decide_eq_true below)]
  split
  · rename_i third
    rw [Bool.and_eq_true, decide_eq_true_eq] at third
    exact Or.inl ⟨rfl, third.1, third.2, rfl⟩
  · exact Or.inr ⟨rfl, rfl⟩

/-! ## Runs in which every PLAY finds the counter at zero -/

/-- The counter is at most the number of low checks in a row since PLAY. -/
def CountsLow (history : RecoveryHistory) : Prop :=
  history.monitor.consecutiveLowCount.toNat ≤ streak id history.checks

/-- An eight-bit counter is raised by at most one. -/
theorem toNat_raise_le (count : UInt8) : (count + 1).toNat ≤ count.toNat + 1 := by
  rw [UInt8.toNat_add]
  exact Nat.mod_le _ _

theorem countsLow_check {history : RecoveryHistory} (counts : CountsLow history)
    (clock : PerfClock) (freeHeap : UInt32) (resumed : Bool) :
    CountsLow
      { monitor := (checkPerformance clock freeHeap resumed history.monitor).1
        checks := recordCheck clock history } := by
  unfold CountsLow recordCheck
  rcases evaluated : evaluatedLow clock history.monitor with _ | _ | _
  · have notLow : evaluatedLow clock history.monitor ≠ some true := by
      simp [evaluated]
    rw [(checkPerformance_of_not_low notLow freeHeap resumed).2, if_pos evaluated]
    exact counts
  · have notLow : evaluatedLow clock history.monitor ≠ some true := by
      simp [evaluated]
    rw [(checkPerformance_of_not_low notLow freeHeap resumed).2, if_neg (by simp [evaluated])]
    exact Nat.zero_le _
  · have raised : streak id ((some true).toList ++ history.checks) =
        streak id history.checks + 1 :=
      streak_cons_of_kind rfl history.checks
    rw [raised]
    rcases checkPerformance_of_low evaluated freeHeap resumed with
      ⟨-, -, -, zero⟩ | ⟨-, next⟩
    · rw [zero]
      exact Nat.zero_le _
    · rw [next]
      exact (toNat_raise_le _).trans (Nat.add_le_add_right counts 1)

theorem countsLow_step {history next : RecoveryHistory} {event : RecoveryEvent}
    (counts : CountsLow history) (fromZero : PlaysFromZeroLow history event)
    (stepped : recoveryStep history event = some next) : CountsLow next := by
  cases event with
  | play now =>
      simp only [recoveryStep] at stepped
      split at stepped
      · cases stepped
      · cases stepped
        have zero := fromZero now rfl
        simp [CountsLow, zero]
  | send success =>
      simp only [recoveryStep] at stepped
      split at stepped
      · cases stepped
        exact counts
      · cases stepped
  | ends | setMinRate _ | setAutoRecovery _ | restart _ =>
      cases stepped
      exact counts
  | check clock freeHeap resumed =>
      cases stepped
      exact countsLow_check counts clock freeHeap resumed

/-- With every PLAY at a zero counter, the recovery needs three low checks in
a row of the stream it restarts. -/
theorem recoversAfterThreeLow_of_guarded (lastStatsReset : UInt32)
    (events : List RecoveryEvent)
    (fromZero : Guarded recoveryStep PlaysFromZeroLow (RecoveryHistory.boot lastStatsReset)
      events) :
    RecoversAfterThreeLow (RecoveryHistory.boot lastStatsReset) events := by
  rintro before clock freeHeap resumed after rfl history ran restarted
  have counts : CountsLow history :=
    invariant_of_guarded (fun _ _ _ => countsLow_step) (Nat.zero_le _) fromZero.append.1 ran
  have low : evaluatedLow clock history.monitor = some true := by
    by_contra notLow
    have kept := (checkPerformance_of_not_low notLow freeHeap resumed).1
    exact absurd (restarted.symm.trans kept) (by decide)
  rcases checkPerformance_of_low low freeHeap resumed with
    ⟨-, third, enabled, -⟩ | ⟨kept, -⟩
  · refine ⟨enabled, ?_⟩
    have raised : streak id (recordCheck clock history) = streak id history.checks + 1 := by
      rw [recordCheck, low]
      exact streak_cons_of_kind rfl history.checks
    have three : 3 ≤ (history.monitor.consecutiveLowCount + 1).toNat :=
      UInt8.le_iff_toNat_le.mp third
    have raisedCount := toNat_raise_le history.monitor.consecutiveLowCount
    rw [lastAre_iff_le_streak, raised]
    unfold CountsLow at counts
    omega
  · exact absurd (restarted.symm.trans kept) (by decide)

/-- A check with one reading of the clock. -/
def checkAt (now : UInt32) : RecoveryEvent :=
  .check ⟨now, now, now, now, now⟩ 100000 true

/-- Two low checks of a stream that sends nothing, and one of the next
stream: the pipeline is restarted at its first check. -/
theorem recovery_at_first_check_of_stream :
    ¬ RecoversAfterThreeLow (RecoveryHistory.boot 0)
      [.setAutoRecovery true, .play 0, checkAt 60000, checkAt 120000, .ends, .play 150000,
        checkAt 210000] := by
  intro recovers
  have last := recovers
    [.setAutoRecovery true, .play 0, checkAt 60000, checkAt 120000, .ends, .play 150000]
    _ _ _ [] rfl _ rfl rfl
  exact absurd last.2 (by decide)

/-- A restart clears the counter, so the next stream starts with zero. -/
theorem recovery_at_third_check_of_stream :
    RecoversAfterThreeLow (RecoveryHistory.boot 0)
      [.setAutoRecovery true, .play 0, checkAt 60000, checkAt 120000, checkAt 180000, .ends,
        .play 350000, checkAt 410000] :=
  recoversAfterThreeLow_of_guarded 0 _ (by decide)

end EchoMic
