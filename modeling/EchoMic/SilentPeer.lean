import EchoMic.WireGuardInterface

/-!
# A peer that has gone silent

The timer destroys an expired key pair only in the current slot.  As long as
nothing arrives, a previous key pair keeps the peer up, although no packet can
be sent to it.
-/

namespace EchoMic

/-- What goes on at the interface while nothing arrives from the peer. -/
inductive QuietEvent where
  | timer (outside : TimerOutside)
  | output (outside : OutputOutside) (q : Bytes) (ip4addr : UInt32)
  | connect
  | updateEndpoint (ip : UInt32) (port : UInt16)

def quietStep (device : WireguardDevice) : QuietEvent → WireguardDevice × List WgAction
  | .timer outside =>
      let result := wireguardifTmr outside device
      (device.withPeer result.1, result.2)
  | .output outside q ip4addr =>
      let result := wireguardifOutput outside q ip4addr device.peer
      (device.withPeer result.1, result.2.2)
  | .connect => (device.withPeer (wireguardifConnect device).1, [])
  | .updateEndpoint ip port => (device.withPeer (wireguardifUpdateEndpoint ip port device).1, [])

def quietRun (device : WireguardDevice) : List QuietEvent → WireguardDevice × List WgAction
  | [] => (device, [])
  | event :: events =>
      let first := quietStep device event
      let rest := quietRun first.1 events
      (rest.1, first.2 ++ rest.2)

/-- Only the previous key pair is left. -/
structure WireguardPeer.Stale (peer : WireguardPeer) : Prop where
  valid : peer.valid = true
  curr : peer.curr.valid = false
  prev : peer.prev.valid = true

/-- The action sends an initiation that has been created with the keys of the
device. -/
def WgAction.IsInitiation (device : WireguardDevice) (action : WgAction) : Prop :=
  ∃ draws peer created msg,
    wireguardCreateHandshakeInitiation draws (device.withPeer peer) = (created, some msg) ∧
      action = .send created.ip created.port msg.bytes

/-! ## Handshakes leave the key pairs alone -/

theorem WireguardPeer.Stale.withHandshake {peer : WireguardPeer} (stale : peer.Stale)
    (handshake : WireguardHandshake) : (peer.withHandshake handshake).Stale :=
  ⟨stale.valid, stale.curr, stale.prev⟩

theorem WireguardPeer.Stale.createHandshakeInitiation {device : WireguardDevice}
    (stale : device.peer.Stale) {draws : HandshakeDraws} {peer : WireguardPeer}
    {msg : Option MessageHandshakeInitiation}
    (created : wireguardCreateHandshakeInitiation draws device = (peer, msg)) :
    peer.Stale := by
  unfold wireguardCreateHandshakeInitiation at created
  apply leaves_of_orFail created (stale.withHandshake _)
  intro ephemeral created
  apply leaves_of_orFail created (stale.withHandshake _)
  intro secret created
  apply leaves_of_orFail created (stale.withHandshake _)
  intro sender created
  obtain ⟨rfl, -⟩ := Prod.mk.inj created
  exact stale.withHandshake _

theorem WireguardPeer.Stale.startHandshake {device : WireguardDevice}
    (stale : device.peer.Stale) (outside : StartOutside) :
    (wireguardStartHandshake outside device).1.Stale ∧
      ∀ action ∈ (wireguardStartHandshake outside device).2.2, action.IsInitiation device := by
  obtain ⟨created, outcome, creates⟩ : ∃ created outcome,
      wireguardCreateHandshakeInitiation outside.draws device = (created, outcome) := ⟨_, _, rfl⟩
  have still := stale.createHandshakeInitiation creates
  unfold wireguardStartHandshake
  rw [creates]
  cases outcome with
  | none => exact ⟨still, fun _ impossible => nomatch impossible⟩
  | some msg =>
      dsimp only
      split
      · refine ⟨⟨still.valid, still.curr, still.prev⟩, ?_⟩
        intro action member
        exact ⟨outside.draws, device.peer, created, msg, creates, List.mem_singleton.mp member⟩
      · exact ⟨still, fun _ impossible => nomatch impossible⟩

/-! ## Steps and runs -/

/-- Nothing is sent while the current key pair is not valid. -/
theorem outputToPeer_of_stale {peer : WireguardPeer} (stale : peer.Stale)
    (outside : OutputOutside) (q : Option Bytes) :
    wireguardifOutputToPeer outside q peer = (peer, .conn, []) := by
  have slot : sendingSlot peer = .curr := by
    simp [sendingSlot, stale.curr]
  simp [wireguardifOutputToPeer, slot, WireguardPeer.keypair, stale.curr]

theorem output_of_stale {peer : WireguardPeer} (stale : peer.Stale) (outside : OutputOutside)
    (q : Bytes) (ip4addr : UInt32) :
    (wireguardifOutput outside q ip4addr peer).1 = peer ∧
      (wireguardifOutput outside q ip4addr peer).2.1 ≠ .ok ∧
      (wireguardifOutput outside q ip4addr peer).2.2 = [] := by
  unfold wireguardifOutput
  split
  · rw [outputToPeer_of_stale stale]
    exact ⟨rfl, Err.noConfusion, rfl⟩
  · exact ⟨rfl, Err.noConfusion, rfl⟩

theorem timer_of_stale {device : WireguardDevice} (stale : device.peer.Stale)
    (outside : TimerOutside) :
    (wireguardifTmr outside device).1.Stale ∧
      ∀ action ∈ (wireguardifTmr outside device).2, action.IsInitiation device := by
  have noReset : shouldResetPeer outside.resetNow device.peer = false := by
    simp [shouldResetPeer, stale.curr]
  have noDestroy : shouldDestroyCurrentKeypair outside.destroyNow device.peer = false := by
    simp [shouldDestroyCurrentKeypair, stale.curr]
  have kept : (if shouldSendKeepalive outside.keepaliveNow device.peer = true then
      wireguardifSendKeepalive outside.keepalive device.peer else (device.peer, [])) =
        (device.peer, []) := by
    rw [wireguardifSendKeepalive, outputToPeer_of_stale stale, ite_self]
  unfold wireguardifTmr
  simp only [stale.valid, if_true, noReset, noDestroy, Bool.false_eq_true, if_false, kept,
    List.nil_append]
  split
  · have before : (device.withPeer device.peer).peer.Stale := stale
    obtain ⟨still, initiations⟩ := before.startHandshake outside.start
    refine ⟨still, ?_⟩
    simp only [still.prev, Bool.or_true, if_true, List.append_nil]
    exact initiations
  · refine ⟨stale, ?_⟩
    simp only [stale.prev, Bool.or_true, if_true, List.append_nil]
    exact fun _ impossible => nomatch impossible

/-- The timer gets there by itself when it finds the current key pair expired
and not yet so old that the peer is reset. -/
theorem stale_of_expired {device : WireguardDevice} {outside : TimerOutside}
    (valid : device.peer.valid = true) (prev : device.peer.prev.valid = true)
    (expired : shouldDestroyCurrentKeypair outside.destroyNow device.peer = true)
    (early : shouldResetPeer outside.resetNow device.peer = false) :
    (wireguardifTmr outside device).1.Stale := by
  let destroyed := device.peer.destroyKeypair .curr
  have stale : destroyed.Stale := ⟨valid, rfl, prev⟩
  have noReset : shouldResetPeer outside.resetNow destroyed = false := by
    simp [shouldResetPeer, stale.curr]
  have noDestroy : shouldDestroyCurrentKeypair outside.destroyNow destroyed = false := by
    simp [shouldDestroyCurrentKeypair, stale.curr]
  have same : wireguardifTmr outside device =
      wireguardifTmr outside (device.withPeer destroyed) := by
    unfold wireguardifTmr
    simp only [valid, early, expired, WireguardDevice.withPeer, stale.valid, noReset, noDestroy,
      Bool.false_eq_true, if_false, if_true]
    rfl
  have before : (device.withPeer destroyed).peer.Stale := stale
  rw [same]
  exact (timer_of_stale before outside).1

theorem quietStep_stale {device : WireguardDevice} (stale : device.peer.Stale)
    (event : QuietEvent) :
    (quietStep device event).1.peer.Stale ∧
      ∀ action ∈ (quietStep device event).2, action.IsInitiation device := by
  cases event with
  | timer outside => exact timer_of_stale stale outside
  | output outside q ip4addr =>
      obtain ⟨same, -, silent⟩ := output_of_stale stale outside q ip4addr
      dsimp only [quietStep, WireguardDevice.withPeer]
      rw [same, silent]
      exact ⟨stale, fun _ impossible => nomatch impossible⟩
  | connect =>
      refine ⟨?_, fun _ impossible => nomatch impossible⟩
      dsimp only [quietStep, WireguardDevice.withPeer, wireguardifConnect]
      split
      · split
        · exact ⟨stale.valid, stale.curr, stale.prev⟩
        · exact stale
      · exact stale
  | updateEndpoint ip port =>
      refine ⟨?_, fun _ impossible => nomatch impossible⟩
      dsimp only [quietStep, WireguardDevice.withPeer, wireguardifUpdateEndpoint]
      split
      · exact ⟨stale.valid, stale.curr, stale.prev⟩
      · exact stale

theorem peer_quietStep_timer (device : WireguardDevice) (outside : TimerOutside) :
    (quietStep device (.timer outside)).1.peer = (wireguardifTmr outside device).1 :=
  rfl

/-- A step changes nothing of the device but its peer. -/
theorem exists_quietStep (device : WireguardDevice) (event : QuietEvent) :
    ∃ peer, (quietStep device event).1 = device.withPeer peer := by
  cases event <;> exact ⟨_, rfl⟩

theorem quietStep_valid (device : WireguardDevice) (event : QuietEvent) :
    (quietStep device event).1.valid = device.valid := by
  obtain ⟨peer, same⟩ := exists_quietStep device event
  rw [same]
  rfl

theorem isInitiation_of_withPeer {device : WireguardDevice} {peer : WireguardPeer}
    {action : WgAction} (initiation : action.IsInitiation (device.withPeer peer)) :
    action.IsInitiation device := by
  obtain ⟨draws, other, created, msg, creates, same⟩ := initiation
  exact ⟨draws, other, created, msg, creates, same⟩

theorem quietRun_valid (device : WireguardDevice) (events : List QuietEvent) :
    (quietRun device events).1.valid = device.valid := by
  induction events generalizing device with
  | nil => rfl
  | cons event events ih => exact (ih _).trans (quietStep_valid device event)

theorem quietRun_stale {device : WireguardDevice} (stale : device.peer.Stale)
    (events : List QuietEvent) :
    (quietRun device events).1.peer.Stale ∧
      ∀ action ∈ (quietRun device events).2, action.IsInitiation device := by
  induction events generalizing device with
  | nil => exact ⟨stale, fun _ impossible => nomatch impossible⟩
  | cons event events ih =>
      obtain ⟨next, initiations⟩ := quietStep_stale stale event
      obtain ⟨last, others⟩ := ih next
      obtain ⟨peer, same⟩ := exists_quietStep device event
      rw [same] at others
      refine ⟨last, ?_⟩
      intro action member
      rcases List.mem_append.mp member with first | rest
      · exact initiations action first
      · rw [same] at rest
        exact isInitiation_of_withPeer (others action rest)

/-- With a previous key pair and no current one the peer is reported as up,
whatever the timer and the stack below do and for however long nothing
arrives.  In all that time no packet can be sent, nothing but initiations is
sent, and the link is not taken down. -/
theorem silent_peer_stays_up {device : WireguardDevice} (valid : device.valid = true)
    (stale : device.peer.Stale) (events : List QuietEvent) :
    wireguardifPeerIsUp (quietRun device events).1 = .ok ∧
      (∀ (outside : OutputOutside) (q : Bytes) (ip4addr : UInt32),
        (wireguardifOutput outside q ip4addr (quietRun device events).1.peer).2.1 ≠ .ok) ∧
      ∀ action ∈ (quietRun device events).2, action.IsInitiation device := by
  obtain ⟨still, initiations⟩ := quietRun_stale stale events
  refine ⟨?_, fun outside q ip4addr => (output_of_stale still outside q ip4addr).2.1, initiations⟩
  simp [wireguardifPeerIsUp, quietRun_valid, valid, still.valid, still.prev]

/-- A session that began after two minutes, and the session before it. -/
def rekeyedDevice : WireguardDevice where
  publicKey := List.replicate 32 5
  privateKey := List.replicate 32 6
  labelCookieKey := List.replicate 32 7
  labelMac1Key := List.replicate 32 8
  peer :=
    { WireguardPeer.zero with
      valid := true
      active := true
      keepaliveInterval := 25
      allowedSourceIps := [⟨true, 0x0A000001, 0xFFFFFFFF⟩]
      curr :=
        { WireguardKeypair.zero with
          valid := true
          initiator := true
          keypairMillis := 120000
          sendingKey := List.replicate 32 1
          sendingValid := true
          sendingCounter := 40
          receivingKey := List.replicate 32 2
          receivingValid := true
          lastTx := 140000
          lastRx := 135000
          localIndex := 17
          remoteIndex := 18 }
      prev :=
        { WireguardKeypair.zero with
          valid := true
          initiator := true
          keypairMillis := 1000
          sendingKey := List.replicate 32 3
          sendingValid := true
          sendingCounter := 500
          receivingKey := List.replicate 32 4
          receivingValid := true
          lastTx := 119000
          lastRx := 118000
          localIndex := 7
          remoteIndex := 8 } }
  valid := true

/-- Everything that the timer asks for succeeds. -/
def TimerOutside.at (now : UInt32) : TimerOutside where
  resetNow := now
  destroyNow := now
  keepaliveNow := now
  keepalive := ⟨now, true, .ok, now, now⟩
  initiationNow := now
  rejectNow := now
  start := ⟨⟨List.replicate 32 9, [21, 22], List.replicate 12 1, now⟩, true, .ok, now⟩

/-- Ten minutes of ticks, with a packet for the peer in every one of them. -/
def silentMinutes : List QuietEvent :=
  (List.range 1500).flatMap fun tick =>
    let now := 300400 + 400 * UInt32.ofNat tick
    [.timer (.at now), .output ⟨now, true, .ok, now, now⟩ (List.replicate 100 0) 0x0A000001]

/-- The timer destroys the current key pair after three minutes. -/
def silentDevice : WireguardDevice :=
  (quietStep rekeyedDevice (.timer (.at 300000))).1

theorem silentDevice_valid : silentDevice.valid = true :=
  quietStep_valid rekeyedDevice (.timer (.at 300000))

theorem silentDevice_stale : silentDevice.peer.Stale := by
  rw [silentDevice, peer_quietStep_timer]
  exact stale_of_expired rfl rfl (by decide) (by decide)

theorem silent_peer_stays_up_rekeyed :
    wireguardifPeerIsUp (quietRun silentDevice silentMinutes).1 = .ok ∧
      (∀ (outside : OutputOutside) (q : Bytes) (ip4addr : UInt32),
        (wireguardifOutput outside q ip4addr
          (quietRun silentDevice silentMinutes).1.peer).2.1 ≠ .ok) ∧
      ∀ action ∈ (quietRun silentDevice silentMinutes).2, action.IsInitiation silentDevice :=
  silent_peer_stays_up silentDevice_valid silentDevice_stale silentMinutes

end EchoMic
