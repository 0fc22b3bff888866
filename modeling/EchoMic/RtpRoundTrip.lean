import EchoMic.RtpDecoding
import EchoMic.RtpWireFraming
import Mathlib.Algebra.Ring.Nat
import Mathlib.Data.List.Forall2

/-!
# What a receiver decodes

A session whose failed sends leave nothing on the wire is decoded into the
blocks that were sent, numbered from 0 and stamped with the samples sent
before them.
-/

namespace EchoMic

open GuardedRuns InterleavedFrames RtpDecoding

/-- The blocks for which `sendRTPPacket` took its success branch. -/
def sentBlocks : Session → List SendCall → List AudioBlock
  | _, [] => []
  | session, call :: calls =>
      let sent := sendSucceeds session.sender call.block.samples call.outcome
      let rest :=
        match sessionStep session call with
        | some next => sentBlocks next calls
        | none => []
      if sent then call.block :: rest else rest

/-- A send that fails wrote no byte. -/
def FailsWithoutBytes (session : Session) (call : SendCall) : Prop :=
  sendSucceeds session.sender call.block.samples call.outcome = false →
    sendAdds session.sender call.block.samples call.outcome = []

instance (session : Session) (call : SendCall) :
    Decidable (FailsWithoutBytes session call) :=
  inferInstanceAs (Decidable (_ → _))

def sampleCount (blocks : List AudioBlock) : Nat :=
  (blocks.map fun block => block.samples.length).sum

/-- What is said of every block, given its number and the samples before it. -/
def alongStream {α : Type*} (describe : Nat → Nat → AudioBlock → α)
    (blocks : List AudioBlock) : List α :=
  blocks.mapIdx fun number block => describe number (sampleCount (blocks.take number)) block

/-- The packet that a receiver should read for a block. -/
def expectedPacket (rtpSSRC : UInt32) (number samplesBefore : Nat) (block : AudioBlock) :
    RtpPacket where
  channel := 0
  interleavedLength := 12 + 2 * block.samples.length
  version := 2
  marker := false
  payloadType := 96
  sequenceNumber := number % 2 ^ 16
  timestamp := samplesBefore % 2 ^ 32
  ssrc := rtpSSRC.toNat
  samples := block.samples.map UInt16.toInt16

def expectedPackets (rtpSSRC : UInt32) (blocks : List AudioBlock) : List RtpPacket :=
  alongStream (expectedPacket rtpSSRC) blocks

/-! ## One packet -/

/-- The frame of a block, by its number and the samples before it. -/
def blockFrame (rtpSSRC : UInt32) (number samplesBefore : Nat) (block : AudioBlock) : Frame where
  channel := 0
  payload :=
    rtpHeader (UInt16.ofNat number) (UInt32.ofNat samplesBefore) rtpSSRC ++
      audioBytes block.samples
  payload_lt := packet_payload_lt _ _ _ block

theorem swapSample_toNat (sample : UInt16) :
    (swapSample sample).toNat = sample.toNat % 256 * 256 + sample.toNat / 256 := by
  have bound := sample.toNat_lt
  have high : sample.toNat / 256 < 2 ^ 8 := by omega
  have low : sample.toNat * 256 % 65536 = (sample.toNat % 256) <<< 8 := by
    rw [Nat.shiftLeft_eq]
    omega
  have joined := Nat.shiftLeft_add_eq_or_of_lt high (sample.toNat % 256)
  rw [Nat.shiftLeft_eq] at joined low
  simp only [swapSample, UInt16.toNat_or, UInt16.toNat_shiftLeft, UInt16.toNat_shiftRight]
  simp only [Nat.shiftLeft_eq, Nat.shiftRight_eq_div_pow, UInt16.reduceToNat, Nat.reduceMod,
    Nat.reducePow] at joined low ⊢
  rw [low, ← joined]

/-- A sample is swapped and then stored with its low byte first. -/
theorem sampleMemory_swapSample (sample : UInt16) :
    sampleMemory (swapSample sample) = networkOrder sample := by
  have bound := sample.toNat_lt
  have swapped := swapSample_toNat sample
  have low : (swapSample sample &&& 0xFF).toUInt8 = UInt8.ofNat (sample.toNat / 256) := by
    apply UInt8.toNat.inj
    simp [Nat.and_two_pow_sub_one_eq_mod _ 8, swapped]
  have quotient : (sample.toNat % 256 * 256 + sample.toNat / 256) / 256 = sample.toNat % 256 := by
    omega
  have high : ((swapSample sample >>> 8) &&& 0xFF).toUInt8 = UInt8.ofNat sample.toNat := by
    apply UInt8.toNat.inj
    simp [Nat.shiftRight_eq_div_pow, Nat.and_two_pow_sub_one_eq_mod _ 8, swapped, quotient]
  rw [sampleMemory, networkOrder, low, high]

theorem audioBytes_eq (audioData : List UInt16) :
    audioBytes audioData = audioData.flatMap networkOrder := by
  rw [audioBytes, List.flatMap_map]
  simp only [sampleMemory_swapSample]

theorem bigEndian_sequence (rtpSequence : UInt16) :
    bigEndian [((rtpSequence >>> 8) &&& 0xFF).toUInt8, (rtpSequence &&& 0xFF).toUInt8] =
      rtpSequence.toNat := by
  have bound := rtpSequence.toNat_lt
  simp [bigEndian, Nat.shiftRight_eq_div_pow, Nat.and_two_pow_sub_one_eq_mod _ 8]
  omega

theorem bigEndian_word (word : UInt32) :
    bigEndian [((word >>> 24) &&& 0xFF).toUInt8, ((word >>> 16) &&& 0xFF).toUInt8,
        ((word >>> 8) &&& 0xFF).toUInt8, (word &&& 0xFF).toUInt8] =
      word.toNat := by
  have bound := word.toNat_lt
  simp [bigEndian, Nat.shiftRight_eq_div_pow, Nat.and_two_pow_sub_one_eq_mod _ 8]
  omega

theorem decodeRtp_blockFrame (rtpSSRC : UInt32) (number samplesBefore : Nat)
    (block : AudioBlock) :
    decodeRtp (blockFrame rtpSSRC number samplesBefore block) =
      some (expectedPacket rtpSSRC number samplesBefore block) := by
  have samples := decodeL16_networkOrder block.samples
  rw [← audioBytes_eq] at samples
  have length : (blockFrame rtpSSRC number samplesBefore block).payload.length =
      12 + 2 * block.samples.length := by
    simp [blockFrame]
  simp only [decodeRtp, length]
  simp only [blockFrame, rtpHeader, List.cons_append, List.nil_append, bigEndian_sequence,
    bigEndian_word]
  simp [expectedPacket, samples]

/-! ## The numbering of a stream -/

theorem sampleCount_concat (blocks : List AudioBlock) (block : AudioBlock) :
    sampleCount (blocks ++ [block]) = sampleCount blocks + block.samples.length := by
  simp [sampleCount]

theorem alongStream_concat {α : Type*} (describe : Nat → Nat → AudioBlock → α)
    (blocks : List AudioBlock) (block : AudioBlock) :
    alongStream describe (blocks ++ [block]) =
      alongStream describe blocks ++ [describe blocks.length (sampleCount blocks) block] := by
  have earlier : ∀ number, number < blocks.length →
      (blocks ++ [block]).take number = blocks.take number := by
    intro number inside
    exact List.take_append_of_le_length inside.le
  apply List.ext_getElem
  · simp [alongStream]
  · intro number first second
    simp only [alongStream, List.getElem_mapIdx, List.getElem_append, List.length_mapIdx]
    split
    · rename_i inside
      rw [earlier number inside]
    · have last : number = blocks.length := by
        simp [alongStream] at first
        omega
      subst last
      simp

theorem forall₂_alongStream {α β : Type*} {relation : α → β → Prop}
    {first : Nat → Nat → AudioBlock → α} {second : Nat → Nat → AudioBlock → β}
    (related : ∀ number samplesBefore block,
      relation (first number samplesBefore block) (second number samplesBefore block))
    (blocks : List AudioBlock) :
    List.Forall₂ relation (alongStream first blocks) (alongStream second blocks) := by
  induction blocks using List.reverseRecOn with
  | nil => exact .nil
  | append_singleton blocks block ih =>
      rw [alongStream_concat, alongStream_concat]
      exact List.rel_append ih (.cons (related _ _ _) .nil)

/-! ## The whole session -/

/-- The sender has put the frames of `blocks` on the wire and nothing else. -/
structure Transmitted (rtpSSRC : UInt32) (blocks : List AudioBlock) (sender : Sender) :
    Prop where
  accepted : sender.accepted = (alongStream (blockFrame rtpSSRC) blocks).flatMap Frame.encode
  rtpSequence : sender.rtpSequence = UInt16.ofNat blocks.length
  rtpTimestamp : sender.rtpTimestamp = UInt32.ofNat (sampleCount blocks)
  rtpSSRC : sender.rtpSSRC = rtpSSRC

theorem transmitted_play (rtpSSRC consecutiveWriteFailures : UInt32) :
    Transmitted rtpSSRC [] (Session.play rtpSSRC consecutiveWriteFailures).sender :=
  ⟨rfl, rfl, rfl, rfl⟩

theorem Transmitted.packetFrame_eq {rtpSSRC : UInt32} {blocks : List AudioBlock}
    {sender : Sender} (transmitted : Transmitted rtpSSRC blocks sender) (block : AudioBlock) :
    packetFrame sender block = blockFrame rtpSSRC blocks.length (sampleCount blocks) block := by
  simp only [packetFrame, blockFrame, transmitted.rtpSequence, transmitted.rtpTimestamp,
    transmitted.rtpSSRC]

theorem transmitted_sent {rtpSSRC : UInt32} {blocks : List AudioBlock} {sender : Sender}
    {call : SendCall} (transmitted : Transmitted rtpSSRC blocks sender)
    (sent : sendSucceeds sender call.block.samples call.outcome = true) :
    Transmitted rtpSSRC (blocks ++ [call.block])
      (sendRTPPacket sender call.block.samples call.outcome) := by
  obtain ⟨ssrc, sequence, timestamp⟩ :=
    sendRTPPacket_numbering sender call.block.samples call.outcome
  refine ⟨?_, ?_, ?_, ssrc.trans transmitted.rtpSSRC⟩
  · rw [sendRTPPacket_accepted, (sendSucceeds_iff _ _ _).mp sent, transmitted.accepted,
      transmitted.packetFrame_eq, alongStream_concat, List.flatMap_append]
    simp
  · rw [sequence, if_pos sent, transmitted.rtpSequence]
    simp
  · rw [timestamp, if_pos sent, transmitted.rtpTimestamp, sampleCount_concat]
    simp

theorem transmitted_failed {rtpSSRC : UInt32} {blocks : List AudioBlock} {sender : Sender}
    {call : SendCall} (transmitted : Transmitted rtpSSRC blocks sender)
    (failed : sendSucceeds sender call.block.samples call.outcome = false)
    (nothing : sendAdds sender call.block.samples call.outcome = []) :
    Transmitted rtpSSRC blocks (sendRTPPacket sender call.block.samples call.outcome) := by
  obtain ⟨ssrc, sequence, timestamp⟩ :=
    sendRTPPacket_numbering sender call.block.samples call.outcome
  have notSent : ¬ sendSucceeds sender call.block.samples call.outcome = true := by
    simp [failed]
  refine ⟨?_, ?_, ?_, ssrc.trans transmitted.rtpSSRC⟩
  · rw [sendRTPPacket_accepted, nothing, List.append_nil, transmitted.accepted]
  · rw [sequence, if_neg notSent, transmitted.rtpSequence]
  · rw [timestamp, if_neg notSent, transmitted.rtpTimestamp]

theorem transmitted_of_run {rtpSSRC : UInt32} {blocks : List AudioBlock}
    {session last : Session} {calls : List SendCall}
    (transmitted : Transmitted rtpSSRC blocks session.sender)
    (guarded : Guarded sessionStep FailsWithoutBytes session calls)
    (ran : run sessionStep session calls = some last) :
    Transmitted rtpSSRC (blocks ++ sentBlocks session calls) last.sender := by
  induction calls generalizing session blocks with
  | nil =>
      cases ran
      simpa [sentBlocks] using transmitted
  | cons call calls ih =>
      obtain ⟨next, stepped, onward⟩ := run_cons_some ran
      obtain ⟨withoutBytes, guardedRest⟩ := guarded
      have sender : next.sender =
          sendRTPPacket session.sender call.block.samples call.outcome := by
        unfold sessionStep at stepped
        split at stepped <;> cases stepped
        rfl
      simp only [sentBlocks, stepped]
      cases sent : sendSucceeds session.sender call.block.samples call.outcome with
      | true =>
          have afterCall := transmitted_sent transmitted sent
          rw [← sender] at afterCall
          simpa using ih afterCall (guardedRest next stepped) onward
      | false =>
          have afterCall := transmitted_failed transmitted sent (withoutBytes sent)
          rw [← sender] at afterCall
          simpa using ih afterCall (guardedRest next stepped) onward

/-- A receiver reads exactly the blocks that were sent, and the bytes on the
wire are the same for every way in which the socket splits its writes. -/
theorem decodeStream_of_run (rtpSSRC consecutiveWriteFailures : UInt32)
    (calls : List SendCall) (last : Session)
    (ran : run sessionStep (Session.play rtpSSRC consecutiveWriteFailures) calls = some last)
    (withoutBytes : Guarded sessionStep FailsWithoutBytes
      (Session.play rtpSSRC consecutiveWriteFailures) calls) :
    decodeStream last.sender.accepted =
        some (expectedPackets rtpSSRC
          (sentBlocks (Session.play rtpSSRC consecutiveWriteFailures) calls)) ∧
      ∀ otherFailures otherCalls other,
        run sessionStep (Session.play rtpSSRC otherFailures) otherCalls = some other →
        Guarded sessionStep FailsWithoutBytes (Session.play rtpSSRC otherFailures) otherCalls →
        sentBlocks (Session.play rtpSSRC otherFailures) otherCalls =
          sentBlocks (Session.play rtpSSRC consecutiveWriteFailures) calls →
        other.sender.accepted = last.sender.accepted := by
  have transmitted := transmitted_of_run (transmitted_play rtpSSRC _) withoutBytes ran
  rw [List.nil_append] at transmitted
  constructor
  · rw [transmitted.accepted]
    apply decodeStream_encode
    apply forall₂_alongStream
    exact decodeRtp_blockFrame rtpSSRC
  · intro otherFailures otherCalls other otherRan otherWithoutBytes same
    have otherTransmitted :=
      transmitted_of_run (transmitted_play rtpSSRC otherFailures) otherWithoutBytes otherRan
    rw [List.nil_append, same] at otherTransmitted
    rw [otherTransmitted.accepted, transmitted.accepted]

/-- Two packets in several writes, with a refused one between them. -/
def sentRefusedSent : List SendCall :=
  [⟨⟨[1, 0xFFFE], by decide⟩, ⟨true, [.wrote 1, .wrote 3], [.wrote 12], [.wrote 3, .wrote 1]⟩⟩,
    ⟨⟨[3], by decide⟩, ⟨true, [.wrote 0], [], []⟩⟩,
    ⟨⟨[5, 0x8000, 7], by decide⟩, ⟨true, [.wrote 4], [.wrote 12], [.wrote 6]⟩⟩]

theorem decodeStream_sentRefusedSent :
    ∃ last, run sessionStep (Session.play 0x43215678 0) sentRefusedSent = some last ∧
      decodeStream last.sender.accepted =
        some (expectedPackets 0x43215678
          [⟨[1, 0xFFFE], by decide⟩, ⟨[5, 0x8000, 7], by decide⟩]) := by
  refine ⟨_, rfl, ?_⟩
  refine (decodeStream_of_run 0x43215678 0 sentRefusedSent _ rfl ⟨nofun, fun _ first => ?_⟩).1
  cases first
  refine ⟨fun _ => by decide, fun _ second => ?_⟩
  cases second
  exact ⟨nofun, fun _ _ => trivial⟩

end EchoMic
