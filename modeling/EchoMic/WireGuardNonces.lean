import EchoMic.KeyedCounters
import EchoMic.WireGuardPackets

/-!
# The nonces of a session

A packet is encrypted under the key of its session with the counter of that
key for a nonce.  Sessions begin, move from slot to slot and end while packets
are sent.  This file proves that no counter is used twice under one key in any
run of the interface.
-/

namespace EchoMic

open KeyedCounters

/-! ## Runs of the interface -/

inductive InterfaceEvent where
  | datagram (outside : RxOutside) (data : Bytes) (addr : UInt32) (port : UInt16)
  | output (outside : OutputOutside) (q : Bytes) (ip4addr : UInt32)
  | timer (outside : TimerOutside)
  | connect
  | disconnect
  | updateEndpoint (ip : UInt32) (port : UInt16)
  | removePeer

def interfaceStep (device : WireguardDevice) :
    InterfaceEvent → WireguardPeer × List WgAction
  | .datagram outside data addr port => wireguardifNetworkRx outside data addr port device
  | .output outside q ip4addr =>
      let result := wireguardifOutput outside q ip4addr device.peer
      (result.1, result.2.2)
  | .timer outside => wireguardifTmr outside device
  | .connect => ((wireguardifConnect device).1, [])
  | .disconnect => ((wireguardifDisconnect device).1, [])
  | .updateEndpoint ip port => ((wireguardifUpdateEndpoint ip port device).1, [])
  | .removePeer => ((wireguardifRemovePeer device).1, [])

def interfaceRun (device : WireguardDevice) : List InterfaceEvent → WireguardPeer × List WgAction
  | [] => (device.peer, [])
  | event :: events =>
      let first := interfaceStep device event
      let rest := interfaceRun (device.withPeer first.1) events
      (rest.1, first.2 ++ rest.2)

/-- The key and the counter that a packet is encrypted with. -/
def WgAction.nonce : WgAction → Option (Bytes × Nat)
  | .transport _ _ _ key counter _ => some (key, counter.toNat)
  | _ => none

/-- The key under which packets are sent in a session that begins. -/
def WgAction.sessionKey : WgAction → Option Bytes
  | .started keypair => some keypair.sendingKey
  | _ => none

/-! ## Keys that are alive -/

/-- The key of a key pair, with the counter that comes next. -/
def WireguardKeypair.live (keypair : WireguardKeypair) : List (Bytes × Nat) :=
  if keypair.valid then [(keypair.sendingKey, keypair.sendingCounter.toNat)] else []

def WireguardPeer.live (peer : WireguardPeer) : List (Bytes × Nat) :=
  peer.curr.live ++ (peer.prev.live ++ peer.next.live)

@[simp]
theorem live_zero : WireguardKeypair.zero.live = [] :=
  rfl

/-- The other slots do not change with the key pair of a slot. -/
theorem exists_live_setKeypair (peer : WireguardPeer) (slot : Slot) :
    ∃ rest, peer.live.Perm ((peer.keypair slot).live ++ rest) ∧
      ∀ keypair : WireguardKeypair,
        (peer.setKeypair keypair slot).live.Perm (keypair.live ++ rest) := by
  cases slot with
  | curr => exact ⟨peer.prev.live ++ peer.next.live, List.Perm.refl _, fun _ => List.Perm.refl _⟩
  | prev =>
      exact ⟨peer.curr.live ++ peer.next.live, List.perm_append_comm_assoc ..,
        fun keypair => List.perm_append_comm_assoc ..⟩
  | next =>
      refine ⟨peer.curr.live ++ peer.prev.live, ?_, fun keypair => ?_⟩ <;>
        rw [WireguardPeer.live, ← List.append_assoc] <;> exact List.perm_append_comm

theorem live_setKeypair_of_live {peer : WireguardPeer} {slot : Slot} {keypair : WireguardKeypair}
    (same : keypair.live = (peer.keypair slot).live) :
    (peer.setKeypair keypair slot).live = peer.live := by
  cases slot <;> simp only [WireguardPeer.live, WireguardPeer.setKeypair, same] <;> rfl

theorem live_destroyKeypair (peer : WireguardPeer) (slot : Slot) :
    (peer.destroyKeypair slot).live.Subperm peer.live := by
  obtain ⟨rest, whole, others⟩ := exists_live_setKeypair peer slot
  refine ((others WireguardKeypair.zero).subperm.trans ?_).trans whole.symm.subperm
  exact (List.sublist_append_right _ rest).subperm

theorem live_keypairUpdate (peer : WireguardPeer) (slot : Slot) :
    (keypairUpdate peer slot).live.Subperm peer.live := by
  unfold keypairUpdate
  split
  · simp only [WireguardPeer.live, live_zero, List.append_nil]
    refine List.perm_append_comm.subperm.trans (List.Sublist.subperm ?_)
    exact (List.Sublist.refl _).append (List.sublist_append_right ..)
  · exact List.Subperm.refl _

/-- A new key pair takes a slot, and others are moved or given up. -/
theorem live_addNewKeypair (peer : WireguardPeer) (newKeypair : WireguardKeypair) :
    (addNewKeypair peer newKeypair).live.Subperm (newKeypair.live ++ peer.live) := by
  unfold addNewKeypair
  split
  · split
    · simp only [WireguardPeer.live, live_zero, List.append_nil]
      refine List.Sublist.subperm ((List.Sublist.refl _).append ?_)
      exact (List.sublist_append_right ..).trans (List.sublist_append_right ..)
    · simp only [WireguardPeer.live]
      refine List.Sublist.subperm ((List.Sublist.refl _).append ?_)
      exact (List.Sublist.refl _).append (List.sublist_append_right ..)
  · simp only [WireguardPeer.live, live_zero, List.nil_append]
    refine List.perm_append_comm.subperm.trans (List.Sublist.subperm ?_)
    exact (List.Sublist.refl _).append (List.sublist_append_left ..)

/-! ## Functions of the interface -/

/-- A function of the interface begins the sessions that it tells of and uses
the counters that it sends with. -/
def NoncesAccounted (peer : WireguardPeer) (result : WireguardPeer × List WgAction) : Prop :=
  Keeps peer.live (result.2.filterMap WgAction.sessionKey) (result.2.filterMap WgAction.nonce)
    result.1.live

theorem noncesAccounted_nil {peer next : WireguardPeer} (kept : next.live.Subperm peer.live) :
    NoncesAccounted peer (next, []) :=
  keeps_of_subperm kept

theorem NoncesAccounted.followedBy {peer middle next : WireguardPeer} {first second : List WgAction}
    (begins : NoncesAccounted peer (middle, first))
    (goesOn : NoncesAccounted middle (next, second)) :
    NoncesAccounted peer (next, first ++ second) := by
  unfold NoncesAccounted at begins goesOn ⊢
  rw [List.filterMap_append, List.filterMap_append]
  exact begins.trans goesOn

/-- Actions that neither begin a session nor use a counter. -/
theorem noncesAccounted_of_silent {peer next : WireguardPeer} {actions : List WgAction}
    (kept : next.live.Subperm peer.live)
    (silent : ∀ action ∈ actions, action.sessionKey = none ∧ action.nonce = none) :
    NoncesAccounted peer (next, actions) := by
  have noKeys : actions.filterMap WgAction.sessionKey = [] :=
    List.filterMap_eq_nil_iff.mpr fun action member => (silent action member).1
  have noNonces : actions.filterMap WgAction.nonce = [] :=
    List.filterMap_eq_nil_iff.mpr fun action member => (silent action member).2
  unfold NoncesAccounted
  rw [noKeys, noNonces]
  exact keeps_of_subperm kept

def WireguardKeypair.advanced (keypair : WireguardKeypair) : WireguardKeypair :=
  { keypair with sendingCounter := keypair.sendingCounter + 1 }

theorem live_of_valid {keypair : WireguardKeypair} (valid : keypair.valid = true) :
    keypair.live = [(keypair.sendingKey, keypair.sendingCounter.toNat)] :=
  if_pos valid

/-- A counter that may still be used does not wrap. -/
theorem live_advanced {keypair : WireguardKeypair} {now : UInt32} (valid : keypair.valid = true)
    (inUse : keypair.inUse now = true) :
    keypair.advanced.live = [(keypair.sendingKey, keypair.sendingCounter.toNat + 1)] := by
  have below : keypair.sendingCounter < rejectAfterMessages := by
    simp only [WireguardKeypair.inUse, Bool.and_eq_true, decide_eq_true_eq] at inUse
    exact inUse.2
  have limit : keypair.sendingCounter.toNat < 2 ^ 64 - 1 - 2 ^ 13 :=
    UInt64.lt_iff_toNat_lt.mp below
  have succ : (keypair.sendingCounter + 1).toNat = keypair.sendingCounter.toNat + 1 := by
    rw [UInt64.toNat_add]
    exact Nat.mod_eq_of_lt (by simp; omega)
  rw [← succ]
  exact live_of_valid valid

theorem live_afterSending (outside : OutputOutside) (unpaddedLen : Nat) (slot : Slot)
    (peer : WireguardPeer) :
    (afterSending outside unpaddedLen slot peer).live =
      (peer.setKeypair (peer.keypair slot).advanced slot).live := by
  unfold afterSending
  dsimp only
  by_cases sent : outside.sent = .ok
  · simp only [if_pos sent]
    split <;> cases slot <;> rfl
  · simp only [if_neg sent]
    split <;> cases slot <;> rfl

/-- A packet uses the counter of its key pair. -/
theorem noncesAccounted_outputToPeer (outside : OutputOutside) (q : Option Bytes)
    (peer : WireguardPeer) :
    NoncesAccounted peer ((wireguardifOutputToPeer outside q peer).1,
      (wireguardifOutputToPeer outside q peer).2.2) := by
  obtain ⟨slot, named⟩ : ∃ slot, sendingSlot peer = slot := ⟨_, rfl⟩
  simp only [wireguardifOutputToPeer, named]
  split
  · rename_i ready
    split
    · rename_i inUse
      split
      · rw [Bool.and_eq_true] at ready
        obtain ⟨rest, before, after⟩ := exists_live_setKeypair peer slot
        have next := after (peer.keypair slot).advanced
        rw [live_of_valid ready.1] at before
        rw [live_advanced ready.1 inUse, ← live_afterSending outside (q.getD []).length] at next
        exact keeps_use before next
      · exact noncesAccounted_nil (List.Subperm.refl _)
    · exact noncesAccounted_nil (live_destroyKeypair peer slot)
  · exact noncesAccounted_nil (List.Subperm.refl _)

theorem noncesAccounted_output (outside : OutputOutside) (q : Bytes) (ip4addr : UInt32)
    (peer : WireguardPeer) :
    NoncesAccounted peer ((wireguardifOutput outside q ip4addr peer).1,
      (wireguardifOutput outside q ip4addr peer).2.2) := by
  unfold wireguardifOutput
  split
  · exact noncesAccounted_outputToPeer outside (some q) peer
  · exact noncesAccounted_nil (List.Subperm.refl _)

theorem noncesAccounted_sendKeepalive (outside : OutputOutside) (peer : WireguardPeer) :
    NoncesAccounted peer (wireguardifSendKeepalive outside peer) :=
  noncesAccounted_outputToPeer outside none peer

/-! ### Handshakes -/

theorem live_withHandshake (peer : WireguardPeer) (handshake : WireguardHandshake) :
    (peer.withHandshake handshake).live = peer.live :=
  rfl

theorem live_accepting (peer : WireguardPeer) (now : UInt32) (msg : MessageHandshakeInitiation)
    (t : Bytes) (handshake : WireguardHandshake) :
    (peer.accepting now msg t handshake).live = peer.live :=
  rfl

theorem live_of_orFail {α Message : Type} {failed peer : WireguardPeer} {result : Option α}
    {msg : Option Message} {next : α → WireguardPeer × Option Message}
    {live : List (Bytes × Nat)} (ended : orFail failed result next = (peer, msg))
    (fails : failed.live = live)
    (continues : ∀ value, next value = (peer, msg) → peer.live = live) : peer.live = live := by
  apply leaves_of_orFail ended
  · exact fails
  · exact continues

theorem live_createHandshakeInitiation {draws : HandshakeDraws} {device : WireguardDevice}
    {peer : WireguardPeer} {msg : Option MessageHandshakeInitiation}
    (created : wireguardCreateHandshakeInitiation draws device = (peer, msg)) :
    peer.live = device.peer.live := by
  unfold wireguardCreateHandshakeInitiation at created
  refine live_of_orFail created (live_withHandshake _ _) fun ephemeral created => ?_
  refine live_of_orFail created (live_withHandshake _ _) fun secret created => ?_
  refine live_of_orFail created (live_withHandshake _ _) fun sender created => ?_
  obtain ⟨rfl, -⟩ := Prod.mk.inj created
  exact live_withHandshake _ _

theorem live_createHandshakeResponse {draws : HandshakeDraws} {device : WireguardDevice}
    {peer : WireguardPeer} {msg : Option MessageHandshakeResponse}
    (created : wireguardCreateHandshakeResponse draws device = (peer, msg)) :
    peer.live = device.peer.live := by
  unfold wireguardCreateHandshakeResponse at created
  dsimp only at created
  split at created
  · refine live_of_orFail created (live_withHandshake _ _) fun ephemeral created => ?_
    refine live_of_orFail created (live_withHandshake _ _) fun ephemeralSecret created => ?_
    refine live_of_orFail created (live_withHandshake _ _) fun staticSecret created => ?_
    refine live_of_orFail created (live_withHandshake _ _) fun sender created => ?_
    obtain ⟨rfl, -⟩ := Prod.mk.inj created
    exact live_withHandshake _ _
  · obtain ⟨rfl, -⟩ := Prod.mk.inj created
    rfl

theorem live_processInitiationMessage {now : UInt32} {msg : MessageHandshakeInitiation}
    {device : WireguardDevice} {peer : WireguardPeer}
    (processed : wireguardProcessInitiationMessage now msg device = some peer) :
    peer.live = device.peer.live := by
  unfold wireguardProcessInitiationMessage at processed
  obtain ⟨dhCalculation, -, processed⟩ := Option.bind_eq_some_iff.mp processed
  obtain ⟨s, -, processed⟩ := Option.bind_eq_some_iff.mp processed
  split at processed
  · obtain ⟨t, -, processed⟩ := Option.bind_eq_some_iff.mp processed
    dsimp only at processed
    split at processed
    · obtain rfl := Option.some.inj processed
      exact live_accepting _ _ _ _ _
    · cases processed
  · cases processed

theorem live_processHandshakeResponse {src : MessageHandshakeResponse} {device : WireguardDevice}
    {peer : WireguardPeer} (processed : wireguardProcessHandshakeResponse src device = some peer) :
    peer.live = device.peer.live := by
  unfold wireguardProcessHandshakeResponse at processed
  extract_lets at processed
  split at processed
  · obtain ⟨ephemeralSecret, -, processed⟩ := Option.bind_eq_some_iff.mp processed
    obtain ⟨staticSecret, -, processed⟩ := Option.bind_eq_some_iff.mp processed
    obtain ⟨empty, -, processed⟩ := Option.bind_eq_some_iff.mp processed
    obtain rfl := Option.some.inj processed
    exact live_withHandshake _ _
  · cases processed

/-- A session begins with its key. -/
theorem noncesAccounted_startSession (now : UInt32) (initiator : Bool) (peer : WireguardPeer) :
    NoncesAccounted peer (wireguardStartSession now initiator peer,
      [.started (sessionKeypair now peer.handshake initiator)]) :=
  keeps_start (sessionKeypair now peer.handshake initiator).sendingKey 0
    (live_addNewKeypair _ (sessionKeypair now peer.handshake initiator))

theorem noncesAccounted_startHandshake (outside : StartOutside) (device : WireguardDevice) :
    NoncesAccounted device.peer ((wireguardStartHandshake outside device).1,
      (wireguardStartHandshake outside device).2.2) := by
  obtain ⟨created, outcome, creates⟩ : ∃ created outcome,
      wireguardCreateHandshakeInitiation outside.draws device = (created, outcome) := ⟨_, _, rfl⟩
  have same := live_createHandshakeInitiation creates
  unfold wireguardStartHandshake
  rw [creates]
  cases outcome with
  | none => exact noncesAccounted_nil (same ▸ List.Subperm.refl _)
  | some msg =>
      dsimp only
      split
      · refine noncesAccounted_of_silent (same ▸ List.Subperm.refl _) fun action member => ?_
        rw [List.mem_singleton.mp member]
        exact ⟨rfl, rfl⟩
      · exact noncesAccounted_nil (same ▸ List.Subperm.refl _)

theorem noncesAccounted_sendHandshakeResponse (outside : ResponseOutside)
    (device : WireguardDevice) :
    NoncesAccounted device.peer (wireguardifSendHandshakeResponse outside device) := by
  obtain ⟨created, outcome, creates⟩ : ∃ created outcome,
      wireguardCreateHandshakeResponse outside.draws device = (created, outcome) := ⟨_, _, rfl⟩
  have same := live_createHandshakeResponse creates
  have begins : NoncesAccounted device.peer (created, []) :=
    noncesAccounted_nil (same ▸ List.Subperm.refl _)
  unfold wireguardifSendHandshakeResponse
  rw [creates]
  cases outcome with
  | none => exact begins
  | some msg =>
      have sends : NoncesAccounted (wireguardStartSession outside.sessionNow false created)
          (wireguardStartSession outside.sessionNow false created,
            if outside.allocated then [.send created.ip created.port msg.bytes] else []) := by
        refine noncesAccounted_of_silent (List.Subperm.refl _) fun action member => ?_
        split at member
        · rw [List.mem_singleton.mp member]
          exact ⟨rfl, rfl⟩
        · cases member
      exact (begins.followedBy (noncesAccounted_startSession _ false created)).followedBy sends

theorem noncesAccounted_processResponseMessage (outside : ConclusionOutside)
    (response : MessageHandshakeResponse) (addr : UInt32) (port : UInt16)
    (device : WireguardDevice) :
    NoncesAccounted device.peer
      (wireguardifProcessResponseMessage outside response addr port device) := by
  unfold wireguardifProcessResponseMessage
  split
  · exact noncesAccounted_nil (List.Subperm.refl _)
  · rename_i peer processed
    have same := live_processHandshakeResponse processed
    have begins : NoncesAccounted device.peer (updatePeerAddr peer addr port, []) :=
      noncesAccounted_nil (same ▸ List.Subperm.refl _)
    refine (begins.followedBy (noncesAccounted_startSession _ true _)).followedBy
      ((noncesAccounted_sendKeepalive _ _).followedBy
        (noncesAccounted_of_silent (List.Subperm.refl _) fun action member => ?_))
    rw [List.mem_singleton.mp member]
    exact ⟨rfl, rfl⟩

/-! ### Packets that arrive -/

theorem live_withSendHandshake (peer : WireguardPeer) :
    WireguardPeer.live { peer with sendHandshake := true } = peer.live :=
  rfl

theorem live_afterReceiving (outside : DataOutside) (length : Nat) (addr : UInt32) (port : UInt16)
    (slot : Slot) (peer : WireguardPeer) :
    (afterReceiving outside length addr port slot peer).live.Subperm peer.live := by
  have moved (received : WireguardPeer) (same : received.live = peer.live) :
      (keypairUpdate received slot).live.Subperm peer.live :=
    same ▸ live_keypairUpdate received slot
  unfold afterReceiving
  dsimp only
  split
  · rw [live_withSendHandshake]
    apply moved
    cases slot <;> rfl
  · apply moved
    cases slot <;> rfl

theorem live_checkArrival (counter : UInt64) (slot : Slot) (peer : WireguardPeer) :
    (checkArrival counter slot peer).2.live = peer.live :=
  live_setKeypair_of_live rfl

theorem live_processDataMessage (outside : DataOutside) (dataHdr : MessageTransportData)
    (addr : UInt32) (port : UInt16) (peer : WireguardPeer) :
    (wireguardifProcessDataMessage outside dataHdr addr port peer).1.live.Subperm peer.live := by
  unfold wireguardifProcessDataMessage
  split
  · exact List.Subperm.refl _
  · rename_i slot found
    dsimp only
    split
    · split
      · split
        · exact List.Subperm.refl _
        · have received := live_afterReceiving outside dataHdr.encPacket.length addr port slot peer
          split
          · rw [live_checkArrival]
            exact received
          · exact received
      · exact List.Subperm.refl _
    · exact live_destroyKeypair peer slot

/-- A packet that arrives neither begins a session nor uses a counter. -/
theorem noncesAccounted_processDataMessage (outside : DataOutside) (dataHdr : MessageTransportData)
    (addr : UInt32) (port : UInt16) (peer : WireguardPeer) :
    NoncesAccounted peer (wireguardifProcessDataMessage outside dataHdr addr port peer) := by
  refine noncesAccounted_of_silent (live_processDataMessage outside dataHdr addr port peer) ?_
  intro action member
  obtain ⟨slot, packet, -, -, rfl | rfl | rfl⟩ := processDataMessage_action member <;>
    exact ⟨rfl, rfl⟩

theorem noncesAccounted_networkRx (outside : RxOutside) (data : Bytes) (addr : UInt32)
    (port : UInt16) (device : WireguardDevice) :
    NoncesAccounted device.peer (wireguardifNetworkRx outside data addr port device) := by
  have same : NoncesAccounted device.peer (device.peer, []) :=
    noncesAccounted_nil (List.Subperm.refl _)
  unfold wireguardifNetworkRx
  split
  · split
    · split
      · exact same
      · rename_i peer processed
        have kept := live_processInitiationMessage processed
        have begins : NoncesAccounted device.peer (updatePeerAddr peer addr port, []) :=
          noncesAccounted_nil (kept ▸ List.Subperm.refl _)
        exact begins.followedBy (noncesAccounted_sendHandshakeResponse outside.response
          (device.withPeer (updatePeerAddr peer addr port)))
    · exact same
  · dsimp only
    split
    · exact noncesAccounted_processResponseMessage _ _ _ _ _
    · exact same
  · dsimp only
    split
    · split
      · exact same
      · rename_i peer processed
        obtain ⟨-, cookie, -, rfl⟩ := processCookieMessage_some_iff.mp processed
        exact same
    · exact same
  · dsimp only
    split
    · exact noncesAccounted_processDataMessage _ _ _ _ _
    · exact same
  · exact same

/-! ### The timer and the control functions -/

theorem live_resetPeer (peer : WireguardPeer) : (resetPeer peer).live = [] :=
  rfl

theorem noncesAccounted_tmr (outside : TimerOutside) (device : WireguardDevice) :
    NoncesAccounted device.peer (wireguardifTmr outside device) := by
  unfold wireguardifTmr
  dsimp only
  split
  · obtain ⟨reset, isReset, resetKept⟩ : ∃ peer : WireguardPeer,
        (if shouldResetPeer outside.resetNow device.peer then resetPeer device.peer
          else device.peer) = peer ∧ peer.live.Subperm device.peer.live := by
      refine ⟨_, rfl, ?_⟩
      split
      · rw [live_resetPeer]
        exact List.nil_subperm
      · exact List.Subperm.refl _
    rw [isReset]
    obtain ⟨kept, isKept, keptKept⟩ : ∃ peer : WireguardPeer,
        (if shouldDestroyCurrentKeypair outside.destroyNow reset then reset.destroyKeypair .curr
          else reset) = peer ∧ peer.live.Subperm reset.live := by
      refine ⟨_, rfl, ?_⟩
      split
      · exact live_destroyKeypair reset .curr
      · exact List.Subperm.refl _
    rw [isKept]
    have before : NoncesAccounted device.peer (kept, []) :=
      noncesAccounted_nil (keptKept.trans resetKept)
    obtain ⟨⟨sent, packets⟩, isSent, sends⟩ : ∃ result : WireguardPeer × List WgAction,
        (if shouldSendKeepalive outside.keepaliveNow kept then
          wireguardifSendKeepalive outside.keepalive kept else (kept, [])) = result ∧
          NoncesAccounted kept result := by
      refine ⟨_, rfl, ?_⟩
      split
      · exact noncesAccounted_sendKeepalive outside.keepalive kept
      · exact noncesAccounted_nil (List.Subperm.refl _)
    rw [isSent]
    obtain ⟨⟨started, initiations⟩, isStarted, starts⟩ :
        ∃ result : WireguardPeer × List WgAction,
          (if shouldSendInitiation outside.initiationNow outside.rejectNow sent then
            ((wireguardStartHandshake outside.start (device.withPeer sent)).1,
              (wireguardStartHandshake outside.start (device.withPeer sent)).2.2)
          else (sent, [])) = result ∧ NoncesAccounted sent result := by
      refine ⟨_, rfl, ?_⟩
      split
      · exact noncesAccounted_startHandshake outside.start (device.withPeer sent)
      · exact noncesAccounted_nil (List.Subperm.refl _)
    rw [isStarted]
    refine ((before.followedBy sends).followedBy starts).followedBy
      (noncesAccounted_of_silent (List.Subperm.refl _) fun action member => ?_)
    split at member
    · cases member
    · rw [List.mem_singleton.mp member]
      exact ⟨rfl, rfl⟩
  · refine noncesAccounted_of_silent (List.Subperm.refl _) fun action member => ?_
    rw [List.mem_singleton.mp member]
    exact ⟨rfl, rfl⟩

theorem noncesAccounted_step (device : WireguardDevice) (event : InterfaceEvent) :
    NoncesAccounted device.peer (interfaceStep device event) := by
  cases event with
  | datagram outside data addr port => exact noncesAccounted_networkRx outside data addr port device
  | output outside q ip4addr => exact noncesAccounted_output outside q ip4addr device.peer
  | timer outside => exact noncesAccounted_tmr outside device
  | connect =>
      apply noncesAccounted_nil
      unfold wireguardifConnect
      dsimp only
      (repeat' split) <;> exact List.Subperm.refl _
  | disconnect =>
      apply noncesAccounted_nil
      unfold wireguardifDisconnect
      dsimp only
      split
      · exact List.nil_subperm
      · exact List.Subperm.refl _
  | updateEndpoint ip port =>
      apply noncesAccounted_nil
      unfold wireguardifUpdateEndpoint
      split <;> exact List.Subperm.refl _
  | removePeer =>
      apply noncesAccounted_nil
      unfold wireguardifRemovePeer
      split
      · exact List.nil_subperm
      · exact List.Subperm.refl _

theorem noncesAccounted_run (device : WireguardDevice) (events : List InterfaceEvent) :
    NoncesAccounted device.peer (interfaceRun device events) := by
  induction events generalizing device with
  | nil => exact noncesAccounted_nil (List.Subperm.refl _)
  | cons event events ih =>
      exact (noncesAccounted_step device event).followedBy (ih (device.withPeer _))

/-- A peer that has just been set up has no sessions. -/
theorem live_peerInit {publicKey : Bytes} {presharedKey : Option Bytes} {device : WireguardDevice}
    {peer : WireguardPeer} (init : wireguardPeerInit publicKey presharedKey device = some peer) :
    peer.live = [] := by
  unfold wireguardPeerInit at init
  split at init
  · dsimp only at init
    split at init
    · obtain rfl := Option.some.inj init
      rfl
    · cases init
  · cases init

/-- In every run of the interface with a peer that has just been set up, no
counter is used twice under one key, as long as no two sessions begin with the
same key. -/
theorem nonces_distinct_of_run {publicKey : Bytes} {presharedKey : Option Bytes}
    {device : WireguardDevice} {peer : WireguardPeer}
    (init : wireguardPeerInit publicKey presharedKey device = some peer)
    (events : List InterfaceEvent)
    (distinct : ((interfaceRun (device.withPeer peer) events).2.filterMap
      WgAction.sessionKey).Nodup) :
    ((interfaceRun (device.withPeer peer) events).2.filterMap WgAction.nonce).Nodup := by
  have kept := noncesAccounted_run (device.withPeer peer) events
  have unused : (device.withPeer peer).peer.live = [] := live_peerInit init
  rw [NoncesAccounted, unused] at kept
  exact (kept [] [] accounts_nil distinct).nodup

end EchoMic
