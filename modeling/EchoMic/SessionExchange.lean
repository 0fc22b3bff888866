import EchoMic.GuardedRuns
import EchoMic.WireGuardDatagrams

/-!
# Packets between the ends of a session

Two ends send packets under one session.  The network brings the datagrams of
either end to the other one in any order, any number of times or not at all.
This file proves that every packet that a stack is handed was sent by the
other end, and that none is handed over twice.
-/

namespace EchoMic

open GuardedRuns

/-! ## Two ends and the network -/

inductive Side where
  | first
  | second
  deriving DecidableEq

def Side.other : Side → Side
  | .first => .second
  | .second => .first

@[simp]
theorem Side.other_other (side : Side) : side.other.other = side := by
  cases side <;> rfl

theorem Side.other_ne (side : Side) : side.other ≠ side := by
  cases side <;> decide

/-- One end, with the packets that it has sent, their datagrams, and the
packets that its stack was handed. -/
structure SessionEnd where
  device : WireguardDevice
  sent : List (UInt64 × Bytes)
  datagrams : List Bytes
  delivered : List (UInt64 × Bytes)

abbrev Exchange :=
  Side → SessionEnd

inductive ExchangeEvent where
  | send (side : Side) (outside : OutputOutside) (q : Bytes)
  | arrive (side : Side) (outside : RxOutside) (datagram : Bytes) (addr : UInt32) (port : UInt16)

/-- The counter and the text of a packet that is sent. -/
def WgAction.sentPacket : WgAction → Option (UInt64 × Bytes)
  | .transport _ _ _ _ counter text => some (counter, text)
  | _ => none

/-- The counter and the text of a packet that the stack is handed. -/
def WgAction.deliveredPacket : WgAction → Option (UInt64 × Bytes)
  | .deliver _ counter packet => some (counter, packet)
  | _ => none

namespace SessionEnd

def curr (sessionEnd : SessionEnd) : WireguardKeypair :=
  sessionEnd.device.peer.curr

def send (outside : OutputOutside) (q : Bytes) (sessionEnd : SessionEnd) : SessionEnd :=
  let result := wireguardifOutputToPeer outside (some q) sessionEnd.device.peer
  { sessionEnd with
    device := sessionEnd.device.withPeer result.1
    sent := sessionEnd.sent ++ result.2.2.filterMap WgAction.sentPacket
    datagrams := sessionEnd.datagrams ++
      result.2.2.filterMap fun action => action.datagram.map fun sent => sent.2.2 }

def receive (outside : RxOutside) (datagram : Bytes) (addr : UInt32) (port : UInt16)
    (sessionEnd : SessionEnd) : SessionEnd :=
  let result := wireguardifNetworkRx outside datagram addr port sessionEnd.device
  { sessionEnd with
    device := sessionEnd.device.withPeer result.1
    delivered := sessionEnd.delivered ++ result.2.filterMap WgAction.deliveredPacket }

end SessionEnd

/-- Only what the other end has sent arrives. -/
def exchangeStep (exchange : Exchange) : ExchangeEvent → Option Exchange
  | .send side outside q =>
      some (Function.update exchange side ((exchange side).send outside q))
  | .arrive side outside datagram addr port =>
      if datagram ∈ (exchange side.other).datagrams then
        some (Function.update exchange side
          ((exchange side).receive outside datagram addr port))
      else none

/-- The session has not expired, and less than 2^32 packets are sent. -/
def SessionLasts (exchange : Exchange) : ExchangeEvent → Prop
  | .send side outside _ =>
      (exchange side).curr.inUse outside.expiryNow = true ∧
        (exchange side).curr.sendingCounter.toNat < 2 ^ 32
  | .arrive side outside _ _ _ =>
      (exchange side).curr.inUse outside.data.expiryNow = true ∧ outside.data.now ≠ 0

/-! ## The invariant -/

/-- The datagram of a packet. -/
def WireguardKeypair.encode (keypair : WireguardKeypair) (packet : UInt64 × Bytes) : Bytes :=
  MessageTransportData.bytes
    { receiver := keypair.remoteIndex
      counter := packet.1
      encPacket := chacha20poly1305Encrypt packet.2 [] packet.1 keypair.sendingKey }

/-- The replay window stands for counters that include those of the packets
delivered. -/
structure WindowHolds (replay : ReplayState) (delivered : List (UInt64 × Bytes))
    (taken : List Nat) : Prop where
  remembers : replay.Remembers taken
  bounded : ∀ number ∈ taken, number < 2 ^ 32
  nodup : taken.Nodup
  covers : (delivered.map fun packet => packet.1.toNat).Subperm taken

/-- What one end may rely on. -/
structure EndHolds (own other : SessionEnd) : Prop where
  valid : own.device.peer.valid = true
  paired : Paired own.curr other.curr
  sends : sendingSlot own.device.peer = .curr
  datagrams : own.datagrams = own.sent.map own.curr.encode
  bounded : ∀ packet ∈ own.sent, packet.1.toNat < 2 ^ 32
  fromOther : ∀ packet ∈ own.delivered, packet ∈ other.sent
  window : ∃ taken, WindowHolds own.curr.replay own.delivered taken

def SessionHolds (exchange : Exchange) : Prop :=
  ∀ side, EndHolds (exchange side) (exchange side.other)

theorem sessionHolds_update {exchange : Exchange} {side : Side} {own : SessionEnd}
    (holds : EndHolds own (exchange side.other)) (others : EndHolds (exchange side.other) own) :
    SessionHolds (Function.update exchange side own) := by
  intro queried
  by_cases same : queried = side
  · subst same
    rw [Function.update_self, Function.update_of_ne queried.other_ne]
    exact holds
  · obtain rfl : queried = side.other := by
      cases queried <;> cases side <;> first | rfl | exact absurd rfl same
    rw [Function.update_of_ne same, Side.other_other, Function.update_self]
    exact others

/-! ## Sending -/

theorem outputToPeer_of_inUse {peer : WireguardPeer} (slot : sendingSlot peer = .curr)
    (valid : peer.curr.valid = true) {outside : OutputOutside}
    (inUse : peer.curr.inUse outside.expiryNow = true) (q : Option Bytes) :
    wireguardifOutputToPeer outside q peer =
      if outside.allocated then
        (afterSending outside (q.getD []).length .curr peer, outside.sent,
          [.transport peer.ip peer.port peer.curr.remoteIndex peer.curr.sendingKey
            peer.curr.sendingCounter (paddedText (q.getD []))])
      else (peer, .mem, []) := by
  have ready : (peer.curr.valid && (peer.curr.initiator || peer.curr.lastRx != 0)) = true := by
    unfold sendingSlot at slot
    split at slot
    · cases slot
    · rename_i confirmed
      rw [valid] at confirmed ⊢
      cases initiates : peer.curr.initiator with
      | true => rfl
      | false => simpa [initiates] using confirmed
  simp only [wireguardifOutputToPeer, slot, WireguardPeer.keypair, if_pos ready, if_pos inUse]

/-- Only the state of the current key pair decides which one is sent with. -/
theorem sendingSlot_congr {peer next : WireguardPeer} (valid : next.curr.valid = peer.curr.valid)
    (initiator : next.curr.initiator = peer.curr.initiator)
    (lastRx : next.curr.lastRx = peer.curr.lastRx) : sendingSlot next = sendingSlot peer := by
  rw [sendingSlot, sendingSlot, valid, initiator, lastRx]

/-- What the sending of a packet does to an end. -/
theorem EndHolds.send_eq {own other : SessionEnd} (holds : EndHolds own other)
    {outside : OutputOutside} (inUse : own.curr.inUse outside.expiryNow = true) (q : Bytes) :
    own.send outside q =
      if outside.allocated then
        let packet := (own.curr.sendingCounter, paddedText q)
        { own with
          device := own.device.withPeer (afterSending outside q.length .curr own.device.peer)
          sent := own.sent ++ [packet]
          datagrams := own.datagrams ++ [own.curr.encode packet] }
      else own := by
  rw [SessionEnd.send, outputToPeer_of_inUse holds.sends holds.paired.valid.1 inUse]
  split
  · rfl
  · simp [WireguardDevice.withPeer]

/-- A packet keeps the session of both ends. -/
theorem EndHolds.send {own other : SessionEnd} (holds : EndHolds own other)
    (others : EndHolds other own) {outside : OutputOutside}
    (inUse : own.curr.inUse outside.expiryNow = true)
    (few : own.curr.sendingCounter.toNat < 2 ^ 32) (q : Bytes) :
    EndHolds (own.send outside q) other ∧ EndHolds other (own.send outside q) := by
  rw [holds.send_eq inUse q]
  by_cases allocated : outside.allocated = true
  · rw [if_pos allocated]
    dsimp only
    have valid := valid_afterSending outside q.length .curr own.device.peer
    have curr : (afterSending outside q.length .curr own.device.peer).curr =
        { own.curr with
          sendingCounter := own.curr.sendingCounter + 1
          lastTx := if outside.sent = .ok then outside.now else own.curr.lastTx } :=
      keypair_afterSending outside q.length .curr own.device.peer
    generalize afterSending outside q.length .curr own.device.peer = peer at valid curr ⊢
    have paired : Paired peer.curr other.curr := by
      obtain ⟨bothValid, forwards, backwards, localIndex, remoteIndex, receives⟩ := holds.paired
      rw [curr]
      exact ⟨bothValid, forwards, backwards, localIndex, remoteIndex, receives⟩
    constructor
    · refine ⟨valid.trans holds.valid, paired, ?_, ?_, ?_, holds.fromOther, ?_⟩
      · refine (sendingSlot_congr ?_ ?_ ?_).trans holds.sends
        · exact (congrArg WireguardKeypair.valid curr :)
        · exact (congrArg WireguardKeypair.initiator curr :)
        · exact (congrArg WireguardKeypair.lastRx curr :)
      · change _ = List.map peer.curr.encode _
        rw [curr, List.map_append, holds.datagrams]
        rfl
      · intro packet member
        rcases List.mem_append.mp member with before | now
        · exact holds.bounded packet before
        · rw [List.mem_singleton.mp now]
          exact few
      · change ∃ taken, WindowHolds peer.curr.replay _ taken
        rw [curr]
        exact holds.window
    · refine ⟨others.valid, paired.symm, others.sends, others.datagrams, others.bounded, ?_,
        others.window⟩
      exact fun packet member => List.mem_append_left _ (others.fromOther packet member)
  · rw [if_neg allocated]
    exact ⟨holds, others⟩

/-! ## Arriving -/

theorem windowHolds_nil : WindowHolds ReplayState.fresh [] [] where
  remembers := remembers_fresh
  bounded := fun _ impossible => nomatch impossible
  nodup := List.nodup_nil
  covers := List.Subperm.refl _

/-- A packet that is checked, and handed over if it passes and is accepted. -/
theorem WindowHolds.check {replay : ReplayState} {delivered : List (UInt64 × Bytes)}
    {taken : List Nat} (holds : WindowHolds replay delivered taken) (packet : UInt64 × Bytes)
    (bounded : packet.1.toNat < 2 ^ 32) (accepted : Bool) :
    WindowHolds (wireguardCheckReplay packet.1 replay).2
      (delivered ++
        if (wireguardCheckReplay packet.1 replay).1 && accepted then [packet] else [])
      (SlidingWindows.take replayWindowSize.toNat taken packet.1.toNat) := by
  have span : WithinSpan taken packet.1.toNat := by
    intro other member
    have := holds.bounded other member
    omega
  obtain ⟨answer, remembers⟩ := wireguardCheckReplay_spec holds.remembers span
  refine ⟨remembers, ?_, SlidingWindows.take_nodup holds.nodup _, ?_⟩
  · intro number member
    rcases mem_take member with rfl | before
    · exact bounded
    · exact holds.bounded number before
  · unfold SlidingWindows.take
    by_cases admitted : SlidingWindows.Admits replayWindowSize.toNat taken packet.1.toNat
    · rw [if_pos admitted, answer.mpr admitted, Bool.true_and]
      cases accepted with
      | true =>
          rw [if_pos rfl, List.map_append]
          exact List.perm_append_comm.subperm.trans
            ((List.subperm_cons _).mpr holds.covers)
      | false =>
          rw [if_neg Bool.false_ne_true, List.append_nil]
          exact holds.covers.cons_right _
    · have refused : (wireguardCheckReplay packet.1 replay).1 = false :=
        Bool.eq_false_iff.mpr fun passes => admitted (answer.mp passes)
      rw [if_neg admitted, refused, Bool.false_and, if_neg Bool.false_ne_true, List.append_nil]
      exact holds.covers

theorem curr_afterReceiving_curr (outside : DataOutside) (length : Nat) (addr : UInt32)
    (port : UInt16) (peer : WireguardPeer) :
    (afterReceiving outside length addr port .curr peer).curr =
      { peer.curr with lastRx := outside.now } := by
  unfold afterReceiving
  dsimp only
  split <;> rfl

/-- What has to hold of an end for the session to be kept when a packet has
arrived. -/
theorem EndHolds.received {own other next : SessionEnd} (holds : EndHolds own other)
    (others : EndHolds other own) (sent : next.sent = own.sent)
    (datagrams : next.datagrams = own.datagrams) (valid : next.device.peer.valid = true)
    {lastRx : UInt32} (later : lastRx ≠ 0) {replay : ReplayState}
    (curr : next.curr =
      { own.curr with
        lastRx := lastRx
        replay := replay })
    (fromOther : ∀ packet ∈ next.delivered, packet ∈ other.sent)
    (window : ∃ taken, WindowHolds replay next.delivered taken) :
    EndHolds next other ∧ EndHolds other next := by
  have paired : Paired next.curr other.curr := by
    obtain ⟨bothValid, forwards, backwards, localIndex, remoteIndex, receives⟩ := holds.paired
    rw [curr]
    exact ⟨bothValid, forwards, backwards, localIndex, remoteIndex, receives⟩
  constructor
  · refine ⟨valid, paired, ?_, ?_, ?_, fromOther, ?_⟩
    · apply sendingSlot_of_received
      exact (congrArg WireguardKeypair.lastRx curr).trans_ne later
    · rw [datagrams, sent, holds.datagrams, curr]
      rfl
    · rw [sent]
      exact holds.bounded
    · rw [curr]
      exact window
  · refine ⟨others.valid, paired.symm, others.sends, others.datagrams, others.bounded, ?_,
      others.window⟩
    rw [sent]
    exact others.fromOther

/-- What a packet of the other end does to this one. -/
theorem EndHolds.receive_encode {own other : SessionEnd} (holds : EndHolds own other)
    {outside : RxOutside} (inUse : own.curr.inUse outside.data.expiryNow = true)
    (packet : UInt64 × Bytes) (addr : UInt32) (port : UInt16) :
    own.receive outside (other.curr.encode packet) addr port =
      let peer := afterReceiving outside.data (packet.2.length + 16) addr port .curr
        own.device.peer
      let checked := checkArrival packet.1 .curr peer
      if outside.data.allocated then
        if packet.2.length > 0 then
          { own with
            device := own.device.withPeer checked.2
            delivered := own.delivered ++
              if checked.1 && acceptsPacket peer packet.2 then [packet] else [] }
        else { own with device := own.device.withPeer peer }
      else own := by
  have found : getPeerKeypairForIdx own.device.peer other.curr.remoteIndex = some .curr := by
    have named := holds.paired.symm.remoteIndex
    have alive := holds.paired.valid.1
    unfold SessionEnd.curr at named alive ⊢
    simp [getPeerKeypairForIdx, named, alive]
  rw [SessionEnd.receive, WireguardKeypair.encode]
  cases allocated : outside.data.allocated with
  | false =>
      rw [networkRx_unallocated holds.paired.symm holds.valid found inUse allocated]
      simp [WireguardDevice.withPeer]
  | true =>
      rw [networkRx_transport holds.paired.symm holds.valid found inUse allocated]
      dsimp only
      rw [if_pos rfl]
      split
      · split <;> rfl
      · simp [WgAction.deliveredPacket]

/-- A packet that arrives keeps the session of both ends. -/
theorem EndHolds.receive {own other : SessionEnd} (holds : EndHolds own other)
    (others : EndHolds other own) {outside : RxOutside}
    (inUse : own.curr.inUse outside.data.expiryNow = true) (later : outside.data.now ≠ 0)
    {datagram : Bytes} (member : datagram ∈ other.datagrams) (addr : UInt32) (port : UInt16) :
    EndHolds (own.receive outside datagram addr port) other ∧
      EndHolds other (own.receive outside datagram addr port) := by
  rw [others.datagrams] at member
  obtain ⟨packet, sent, rfl⟩ := List.mem_map.mp member
  rw [holds.receive_encode inUse packet addr port]
  dsimp only
  have curr := curr_afterReceiving_curr outside.data (packet.2.length + 16) addr port
    own.device.peer
  have valid := (valid_afterReceiving outside.data (packet.2.length + 16) addr port .curr
    own.device.peer).trans holds.valid
  generalize afterReceiving outside.data (packet.2.length + 16) addr port .curr
    own.device.peer = peer at curr valid ⊢
  by_cases allocated : outside.data.allocated = true
  · rw [if_pos allocated]
    by_cases nonempty : packet.2.length > 0
    · rw [if_pos nonempty]
      have replay : checkArrival packet.1 .curr peer =
          ((wireguardCheckReplay packet.1 own.curr.replay).1,
            peer.setKeypair
              { own.curr with
                lastRx := outside.data.now
                replay := (wireguardCheckReplay packet.1 own.curr.replay).2 } .curr) := by
        simp only [checkArrival, WireguardPeer.keypair, curr, SessionEnd.curr]
      rw [replay]
      obtain ⟨taken, window⟩ := holds.window
      have checked := window.check packet (others.bounded _ sent)
        (acceptsPacket peer packet.2)
      refine holds.received others rfl rfl valid later rfl ?_ ⟨_, checked⟩
      intro delivered member
      rcases List.mem_append.mp member with before | now
      · exact holds.fromOther delivered before
      · split at now
        · rw [List.mem_singleton.mp now]
          exact sent
        · cases now
    · rw [if_neg nonempty]
      exact holds.received others rfl rfl valid later curr holds.fromOther holds.window
  · rw [if_neg allocated]
    exact ⟨holds, others⟩

/-! ## Runs -/

theorem sessionHolds_step {exchange next : Exchange} {event : ExchangeEvent}
    (holds : SessionHolds exchange) (lasts : SessionLasts exchange event)
    (stepped : exchangeStep exchange event = some next) : SessionHolds next := by
  cases event with
  | send side outside q =>
      cases stepped
      have others := holds side.other
      rw [Side.other_other] at others
      obtain ⟨own, other⟩ := (holds side).send others lasts.1 lasts.2 q
      exact sessionHolds_update own other
  | arrive side outside datagram addr port =>
      simp only [exchangeStep] at stepped
      split at stepped
      · rename_i member
        cases stepped
        have others := holds side.other
        rw [Side.other_other] at others
        obtain ⟨own, other⟩ := (holds side).receive others lasts.1 lasts.2 member addr port
        exact sessionHolds_update own other
      · cases stepped

/-- Both ends of a session before any packet. -/
structure SessionStarts (exchange : Exchange) : Prop where
  begun : SessionBegun (exchange .first).device.peer (exchange .second).device.peer
  empty : ∀ side, (exchange side).sent = [] ∧ (exchange side).datagrams = [] ∧
    (exchange side).delivered = []

theorem sessionHolds_of_starts {exchange : Exchange} (starts : SessionStarts exchange) :
    SessionHolds exchange := by
  have begun : ∀ side, Paired (exchange side).curr (exchange side.other).curr ∧
      sendingSlot (exchange side).device.peer = .curr ∧
      (exchange side).device.peer.valid = true ∧
      (exchange side).curr.replay = ReplayState.fresh := by
    obtain ⟨⟨paired, sends⟩, valid, fresh⟩ := starts.begun
    intro side
    cases side with
    | first => exact ⟨paired, sends.1, valid.1, fresh.1⟩
    | second => exact ⟨paired.symm, sends.2, valid.2, fresh.2⟩
  intro side
  obtain ⟨paired, sends, valid, fresh⟩ := begun side
  obtain ⟨sent, datagrams, delivered⟩ := starts.empty side
  refine ⟨valid, paired, sends, ?_, ?_, ?_, ?_⟩
  · rw [datagrams, sent]
    rfl
  · rw [sent]
    exact fun _ impossible => nomatch impossible
  · rw [delivered]
    exact fun _ impossible => nomatch impossible
  · rw [delivered, fresh]
    exact ⟨[], windowHolds_nil⟩

/-- In every exchange under a session that lasts, each packet that the stack
of an end is handed was sent by the other end with that counter, no counter is
handed over twice, and both ends keep the session. -/
theorem delivered_once_of_run {start last : Exchange} {events : List ExchangeEvent}
    (starts : SessionStarts start) (lasts : Guarded exchangeStep SessionLasts start events)
    (ran : run exchangeStep start events = some last) :
    Established (last .first).device.peer (last .second).device.peer ∧
      ∀ side, (∀ packet ∈ (last side).delivered, packet ∈ (last side.other).sent) ∧
        ((last side).delivered.map Prod.fst).Nodup := by
  have holds : SessionHolds last :=
    invariant_of_guarded (fun _ _ _ => sessionHolds_step) (sessionHolds_of_starts starts) lasts ran
  refine ⟨⟨(holds .first).paired, (holds .first).sends, (holds .second).sends⟩, fun side => ?_⟩
  refine ⟨(holds side).fromOther, ?_⟩
  obtain ⟨taken, window⟩ := (holds side).window
  obtain ⟨moved, same, inside⟩ := window.covers
  have distinct := same.nodup_iff.mp (inside.nodup window.nodup)
  rw [← Function.comp_def UInt64.toNat Prod.fst, ← List.map_map] at distinct
  exact distinct.of_map _

end EchoMic
