import SimpleTlsBroker.Smuggling
import SimpleTlsBroker.RunReception
import SimpleTlsBroker.Scripts

namespace SimpleTlsBroker

/-!
# Packet streams along a run

A stream of packets arrives byte by byte, with any other actions between the
bytes, and may end early because the connection is closed.  Every state of the
run is in step with the stream if the stream is harmless, and for a stream that
arrives as a whole only then.
-/

namespace World

open MqttMessage (receive)

variable {Index Os : Type} [Indexer Index] [Platform Os]
variable {broker : BrokerId}
variable {condition : World Index Os → Action Os → Prop}
variable {start before middle after world : World Index Os}
variable {client : ClientId}
variable {bytes fed : List Byte}
variable {packets : List Packet}

/--
The client has handed on the packets of a stream that were complete since a
state, and the next byte is not taken for the start of a packet inside a
rejected one.
-/
def InStep
    (world start : World Index Os)
    (client : ClientId)
    (packets : List Packet) : Prop :=
  ∃ fed handed,
    world.trace.fedTo client = start.trace.fedTo client ++ fed ∧
      world.trace.processedBy client =
          start.trace.processedBy client ++ handed ∧
        Packet.Unsmuggled packets fed.length
          (world.clients client).message handed

omit [Indexer Index] [Platform Os] in
/-- Being in step depends on the bytes received only. -/
theorem Receives.inStep_iff
    (receives : Receives client fed start world) :
    world.InStep start client packets ↔
      Packet.Unsmuggled packets fed.length
        (Decoder.feed receive (start.clients client).message fed).1
        (Decoder.feed receive (start.clients client).message fed).2 := by
  constructor
  · rintro ⟨fedHere, handed, sameBytes, sameMessages, unsmuggled⟩
    rw [receives.fedTo] at sameBytes
    rw [receives.processedBy] at sameMessages
    obtain rfl := List.append_cancel_left sameBytes
    rw [List.append_cancel_left sameMessages, ← receives.message]
    exact unsmuggled
  · intro unsmuggled
    rw [← receives.message] at unsmuggled
    exact ⟨fed, _, receives.fedTo, receives.processedBy, unsmuggled⟩

/-- A run feeds byte by byte, so it passes every beginning of its bytes. -/
theorem Run.exists_between
    (run : Run broker condition start after)
    (isRemote : (start.clients client).client = true)
    (born : client < start.next)
    (arrived : after.trace.fedTo client = start.trace.fedTo client ++ bytes)
    (isPrefix : fed <+: bytes) :
    ∃ middle,
      Run broker condition start middle ∧
        Run broker condition middle after ∧
          Receives client fed start middle := by
  induction run generalizing bytes with
  | refl =>
      have nothing : bytes = [] := by simpa using arrived
      obtain rfl : fed = [] := by simpa [nothing] using isPrefix
      exact ⟨start, .refl, .refl, .of_kept (.refl client start)⟩
  | @tail middle after earlier last inductionHypothesis =>
      obtain ⟨earlierBytes, receives⟩ := Run.receives earlier isRemote born
      obtain ⟨action, step, holds⟩ := last
      obtain ⟨byte, atMostOne, receivesLast⟩ :=
        step.receives (receives.remote.trans isRemote)
          (Nat.lt_of_lt_of_le born receives.next)
      have whole := receives.trans receivesLast
      obtain rfl : earlierBytes ++ byte = bytes :=
        List.append_cancel_left (whole.fedTo.symm.trans arrived)
      by_cases short : fed.length ≤ earlierBytes.length
      · obtain ⟨between, first, second, receivesBetween⟩ :=
          inductionHypothesis receives.fedTo
            (List.prefix_of_prefix_length_le isPrefix
              (List.prefix_append _ _) short)
        exact ⟨between, first, second.tail ⟨action, step, holds⟩,
          receivesBetween⟩
      · have fedLength := isPrefix.length_le
        rw [List.length_append] at fedLength
        have same : fed = earlierBytes ++ byte :=
          isPrefix.eq_of_length (by rw [List.length_append]; omega)
        exact ⟨after, earlier.tail ⟨action, step, holds⟩, .refl,
          same ▸ whole⟩

/--
A run in which the bytes of a client are the beginning of a harmless stream is
in step with it in every state, and a stream that arrived as a whole is
harmless if the run was in step with it in every state.
-/
theorem no_smuggling
    (run : Run broker condition start after)
    (isRemote : (start.clients client).client = true)
    (born : client < start.next)
    (isReset : (start.clients client).message.IsReset)
    (wellFormed : ∀ packet ∈ packets, packet.WellFormed)
    (arrived : after.trace.fedTo client = start.trace.fedTo client ++ bytes)
    (isPrefix : bytes <+: packets.flatMap Packet.bytes) :
    (Packet.Harmless packets →
        ∀ middle, Run broker condition start middle →
          Run broker condition middle after →
            middle.InStep start client packets) ∧
      (bytes = packets.flatMap Packet.bytes →
        (∀ middle, Run broker condition start middle →
          Run broker condition middle after →
            middle.InStep start client packets) →
          Packet.Harmless packets) := by
  constructor
  · intro harmless middle earlier later
    obtain ⟨fed, receives⟩ := Run.receives earlier isRemote born
    obtain ⟨rest, receivesRest⟩ :=
      Run.receives later (receives.remote.trans isRemote)
        (Nat.lt_of_lt_of_le born receives.next)
    have split : fed ++ rest = bytes :=
      List.append_cancel_left
        ((receives.trans receivesRest).fedTo.symm.trans arrived)
    have fedPrefix : fed <+: packets.flatMap Packet.bytes :=
      (split ▸ List.prefix_append fed rest).trans isPrefix
    exact receives.inStep_iff.mpr
      (harmless.unsmuggled wellFormed isReset fedPrefix)
  · rintro rfl inStep
    refine Packet.harmless_of_unsmuggled wellFormed isReset ?_
    intro fed fedPrefix
    obtain ⟨middle, earlier, later, receives⟩ :=
      Run.exists_between run isRemote born arrived fedPrefix
    exact receives.inStep_iff.mp (inStep middle earlier later)

/-- A server that has accepted a peer with some bytes to send. -/
def acceptedPeer (bytes : List Byte) : World StringIndexer Script :=
  performAll 0 always [.accept]
    { clock := 0
      connections := [5]
      receipts := Script.receive bytes
      sendResults := [] : Script }.setup

/-- A packet of the reserved type, which is rejected. -/
def reservedPacket : Packet where
  first := 0x00
  lengthBytes := [0x00]
  body := []

/-- The run that reads a PINGRESP message and then this packet. -/
def reservedRun : World StringIndexer Script :=
  performAll 0 always (List.replicate 4 (.poll 0))
    (acceptedPeer [0xD0, 0x00, 0x00, 0x00])

/-- A run with a rejected packet that is in step with its stream. -/
theorem no_smuggling_reserved :
    ¬ reservedPacket.InLimit ∧
      reservedRun.trace.processedBy 0 = [Packet.pingResp.message] ∧
        reservedRun.InStep (acceptedPeer [0xD0, 0x00, 0x00, 0x00]) 0
          [.pingResp, reservedPacket] := by
  have wellFormed :
      ∀ packet ∈ [Packet.pingResp, reservedPacket], packet.WellFormed := by
    intro packet member
    simp only [List.mem_cons, List.not_mem_nil, or_false] at member
    obtain rfl | rfl := member
    · exact Packet.wellFormed_pingResp
    · exact ⟨show (0x00 : Byte).toNat < 128 by decide, by decide, by decide⟩
  have harmless : Packet.Harmless [.pingResp, reservedPacket] := by
    refine ⟨fun packet member => ?_, fun packet member _ => ?_⟩
    · simp only [List.mem_cons, List.not_mem_nil, or_false] at member
      obtain rfl | rfl := member <;> decide
    · obtain rfl := List.mem_singleton.mp member
      decide
  have run :
      Run 0 always (acceptedPeer [0xD0, 0x00, 0x00, 0x00]) reservedRun :=
    run_performAll 0 _ _ _
  have arrived :
      reservedRun.trace.fedTo 0 =
        (acceptedPeer [0xD0, 0x00, 0x00, 0x00]).trace.fedTo 0 ++
          [0xD0, 0x00, 0x00, 0x00] := by
    decide
  have inStep :=
    no_smuggling run (by decide) (by decide)
      ⟨by decide, by decide, by decide⟩ wellFormed arrived (List.prefix_refl _)
  exact ⟨fun inLimit => absurd inLimit.typed (by decide), by decide,
    inStep.1 harmless reservedRun run .refl⟩

/-- A PUBLISH message over the limit, with a PINGREQ message inside. -/
def overLimitPacket : Packet where
  first := 0x30
  lengthBytes := [0x88, 0x27]
  body := [0x00, 0xC0, 0x00] ++ List.replicate 4997 0x00

/-- The run that reads the beginning of it. -/
def overLimitRun : World StringIndexer Script :=
  performAll 0 always (List.replicate 6 (.poll 0))
    (acceptedPeer [0x30, 0x88, 0x27, 0x00, 0xC0, 0x00])

/-- The client hands on the PINGREQ message inside the rejected packet. -/
theorem not_inStep_overLimit :
    overLimitPacket.WellFormed ∧
      ¬ overLimitPacket.InLimit ∧
        Run 0 always
            (acceptedPeer [0x30, 0x88, 0x27, 0x00, 0xC0, 0x00])
            overLimitRun ∧
          overLimitRun.trace.fedTo 0 <+: overLimitPacket.bytes ∧
            overLimitRun.trace.processedBy 0 =
                [{ buffer := [0xC0, 0x00]
                   vheader := 2
                   size := 0
                   state := .complete }] ∧
              ¬ overLimitRun.InStep
                (acceptedPeer [0x30, 0x88, 0x27, 0x00, 0xC0, 0x00]) 0
                [overLimitPacket] := by
  have bodyLength : overLimitPacket.body.length = 5000 := by
    have split :
        overLimitPacket.body =
          [0x00, 0xC0, 0x00] ++ List.replicate 4997 0x00 := rfl
    rw [split, List.length_append, List.length_replicate]
    rfl
  have length : overLimitPacket.bytes.length = 5003 := by
    rw [Packet.length_bytes, bodyLength]
    rfl
  have fed :
      overLimitRun.trace.fedTo 0 =
        [0x30, 0x88, 0x27, 0x00, 0xC0, 0x00] := by decide
  have processed :
      overLimitRun.trace.processedBy 0 =
        [{ buffer := [0xC0, 0x00]
           vheader := 2
           size := 0
           state := .complete }] := by decide
  refine ⟨⟨⟨by decide, show (0x27 : Byte).toNat < 128 by decide⟩, by decide,
    by rw [bodyLength]; decide⟩, ?_, run_performAll 0 _ _ _, ?_,
    processed, ?_⟩
  · intro inLimit
    have fits := inLimit.fits
    rw [length, MqttMessage.maxBufferLength] at fits
    omega
  · rw [fed]
    exact ⟨List.replicate 4997 0x00, rfl⟩
  · rintro ⟨bytes, handed, sameBytes, sameMessages, unsmuggled⟩
    have noBytes :
        (acceptedPeer [0x30, 0x88, 0x27, 0x00, 0xC0, 0x00]).trace.fedTo 0 =
          [] := by decide
    have noMessages :
        (acceptedPeer
          [0x30, 0x88, 0x27, 0x00, 0xC0, 0x00]).trace.processedBy 0 = [] := by
      decide
    rw [noBytes, List.nil_append, fed] at sameBytes
    rw [noMessages, List.nil_append, processed] at sameMessages
    have handedOn := unsmuggled.handedOn
    rw [← sameBytes, ← sameMessages, Packet.acceptedWithin_of_lt] at handedOn
    · simp at handedOn
    · rw [length]
      decide

end World

end SimpleTlsBroker
