import Mathlib.Data.Nat.Bitwise
import SimpleTlsBroker.Message
import SimpleTlsBroker.Library.Decoder
import SimpleTlsBroker.Library.VarInt

namespace SimpleTlsBroker

/-!
# Framing

Each byte of a connection goes through `receive`, the part of the read loop
that concerns the message: `incoming`, and `reset` after a message whose type
is not zero.  Packets within the limit come out of it exactly as they went in,
and what the message builder encodes is such a packet.
-/

namespace MqttMessage

/-- One byte of the read loop: the next state, and a message to process. -/
def receive
    (message : MqttMessage)
    (inByte : Byte) : MqttMessage × Option MqttMessage :=
  let message := message.incoming inByte
  if message.type ≠ MqttType.unknown.code then
    (message.reset, some message)
  else
    (message, none)

/-! ## Bit masks as arithmetic -/

theorem toNat_and_7F (byte : Byte) :
    (byte &&& 0x7F).toNat = byte.toNat % 128 := by
  rw [UInt8.toNat_and]
  exact Nat.and_two_pow_sub_one_eq_mod byte.toNat 7

theorem and_80_eq_zero_iff (byte : Byte) :
    byte &&& 0x80 = 0 ↔ byte.toNat < 128 := by
  have bound := byte.toNat_lt
  have masked :
      (byte &&& 0x80).toNat = (byte.toNat.testBit 7).toNat * 2 ^ 7 := by
    rw [UInt8.toNat_and]
    exact Nat.and_two_pow byte.toNat 7
  have bit : byte.toNat.testBit 7 = decide (128 ≤ byte.toNat) := by
    rw [Nat.testBit_eq_decide_div_mod_eq]
    congr 1
    simp only [eq_iff_iff]
    omega
  rw [← UInt8.toNat_inj, masked, bit]
  by_cases large : 128 ≤ byte.toNat
  · simp [large]
  · simp [large]
    omega

/-! ## Single steps of `incoming` -/

/-- The first byte of a packet. -/
theorem incoming_fixedHeader
    {message : MqttMessage}
    (isReset : message.IsReset)
    (first : Byte) :
    message.incoming first =
      { buffer := [first]
        vheader := message.vheader
        size := maxBufferLength
        state := .length } := by
  obtain ⟨buffer, state, size⟩ := isReset
  rcases message with ⟨_, vheader, _, _⟩
  simp only at buffer state size
  subst buffer state size
  rfl

/-- What the length case stores in `size`. -/
def nextSize (size : Nat) (inByte : Byte) : Nat :=
  if size = maxBufferLength then
    inByte.toNat % 128
  else
    (size + inByte.toNat % 128 * 128) % 65536

/-- A length byte after which the packet still fits. -/
theorem incoming_length
    {message : MqttMessage}
    (inByte : Byte)
    (state : message.state = .length)
    (room : message.buffer.length < maxBufferLength)
    (bounded : nextSize message.size inByte ≤ maxBufferLength) :
    message.incoming inByte =
      if 128 ≤ inByte.toNat then
        { message with
          buffer := message.buffer ++ [inByte]
          size := nextSize message.size inByte }
      else
        { buffer := message.buffer ++ [inByte]
          vheader := (message.buffer.length + 1) % 256
          size := nextSize message.size inByte
          state :=
            if nextSize message.size inByte = 0 then
              .complete
            else
              .variableHeader } := by
  rcases message with ⟨buffer, vheader, size, messageState⟩
  simp only at state room bounded
  subst messageState
  have sizeEq :
      (if size = maxBufferLength then
          (inByte &&& 0x7F).toNat
        else
          (size + (inByte &&& 0x7F).toNat <<< 7) % 65536) =
        nextSize size inByte := by
    simp only [nextSize, toNat_and_7F, Nat.shiftLeft_eq]
  have fits : ¬ nextSize size inByte > maxBufferLength := by omega
  have short : ¬ buffer.length + 1 > maxBufferLength := by omega
  unfold incoming
  simp only [incomingState, incomingLength, sizeEq, if_neg fits,
    and_80_eq_zero_iff]
  by_cases last : inByte.toNat < 128
  · have notMore : ¬ 128 ≤ inByte.toNat := by omega
    simp only [if_pos last, if_neg notMore, List.length_append,
      List.length_singleton, if_neg short]
  · have more : 128 ≤ inByte.toNat := by omega
    simp only [if_neg last, if_pos more, List.length_append,
      List.length_singleton, if_neg short]

/-- A byte of the body. -/
theorem incoming_variableHeader
    {message : MqttMessage}
    (state : message.state = .variableHeader)
    (positive : 0 < message.size)
    (bounded : message.size ≤ maxBufferLength)
    (room : message.buffer.length < maxBufferLength)
    (inByte : Byte) :
    message.incoming inByte =
      { message with
        buffer := message.buffer ++ [inByte]
        size := message.size - 1
        state :=
          if message.size = 1 then .complete else .variableHeader } := by
  rcases message with ⟨buffer, vheader, size, messageState⟩
  simp only at state positive bounded room
  subst messageState
  have bound : size ≤ 4096 := bounded
  have sizeEq : (size + 65535) % 65536 = size - 1 := by omega
  have short : ¬ buffer.length + 1 > maxBufferLength := by omega
  have lastIff : size - 1 = 0 ↔ size = 1 := by omega
  unfold incoming
  simp only [incomingState, sizeEq, lastIff, List.length_append,
    List.length_singleton, if_neg short]

/-- A byte added to a message under construction. -/
theorem incoming_create
    {message : MqttMessage}
    (state : message.state = .create)
    (room : message.buffer.length < maxBufferLength)
    (inByte : Byte) :
    message.incoming inByte =
      { message with
        buffer := message.buffer ++ [inByte]
        size := (message.size + 1) % 65536 } := by
  rcases message with ⟨buffer, vheader, size, messageState⟩
  simp only at state room
  subst messageState
  have short : ¬ buffer.length + 1 > maxBufferLength := by omega
  unfold incoming
  simp only [incomingState, List.length_append, List.length_singleton,
    if_neg short]

/-! ## Runs of bytes without an early end -/

/-- A nonempty run of bytes that completes no message before its last byte. -/
inductive Reaches : MqttMessage → List Byte → MqttMessage → Prop where
  | last
      (message : MqttMessage)
      (inByte : Byte) :
      Reaches message [inByte] (message.incoming inByte)
  | step
      {message final : MqttMessage}
      {inByte : Byte}
      {rest : List Byte}
      (open_ : (message.incoming inByte).state ≠ .complete)
      (later : Reaches (message.incoming inByte) rest final) :
      Reaches message (inByte :: rest) final

namespace Reaches

/-- Two runs compose when the first one ends before a message is complete. -/
theorem append
    {message middle final : MqttMessage}
    {first second : List Byte}
    (earlier : Reaches message first middle)
    (incomplete : middle.state ≠ .complete)
    (later : Reaches middle second final) :
    Reaches message (first ++ second) final := by
  induction earlier with
  | last message inByte =>
      exact .step incomplete later
  | step open_ _ inductionHypothesis =>
      exact .step open_ (inductionHypothesis incomplete later)

/-- A run ends in the state that `incoming` leads to. -/
theorem foldl_eq
    {message final : MqttMessage}
    {bytes : List Byte}
    (reaches : Reaches message bytes final) :
    bytes.foldl incoming message = final := by
  induction reaches with
  | last message inByte => rfl
  | step _ _ inductionHypothesis => exact inductionHypothesis

/-- No proper part of a run completes a message. -/
theorem incomplete_before
    {message final : MqttMessage}
    {bytes earlier later : List Byte}
    (reaches : Reaches message bytes final)
    (split : bytes = earlier ++ later)
    (nonempty : earlier ≠ [])
    (proper : later ≠ []) :
    (earlier.foldl incoming message).state ≠ .complete := by
  induction reaches generalizing earlier with
  | last message inByte =>
      cases earlier with
      | nil => exact (nonempty rfl).elim
      | cons head tail =>
          have lengths := congrArg List.length split
          simp only [List.length_cons, List.length_nil,
            List.cons_append, List.length_append] at lengths
          have laterLength := List.length_pos_iff.mpr proper
          omega
  | step open_ _ inductionHypothesis =>
      cases earlier with
      | nil => exact (nonempty rfl).elim
      | cons head tail =>
          simp only [List.cons_append, List.cons.injEq] at split
          obtain ⟨rfl, restSplit⟩ := split
          by_cases tailEmpty : tail = []
          · subst tail
            exact open_
          · exact inductionHypothesis restSplit tailEmpty

/-- A message before its last byte has no type. -/
theorem type_of_incomplete
    {message : MqttMessage}
    (incomplete : message.state ≠ .complete) :
    message.type = MqttType.unknown.code := by
  simp [type, incomplete]

/-- The read loop hands on a typed message at the end of a run. -/
theorem feed_typed
    {message final : MqttMessage}
    {bytes : List Byte}
    (reaches : Reaches message bytes final)
    (typed : final.type ≠ MqttType.unknown.code) :
    Decoder.feed receive message bytes = (final.reset, [final]) := by
  induction reaches with
  | last message inByte =>
      simp [Decoder.feed_cons, receive, typed]
  | step open_ _ inductionHypothesis =>
      rw [Decoder.feed_cons]
      simp [receive, type_of_incomplete open_, inductionHypothesis typed]

/-- The read loop hands on nothing when a run ends without a typed message. -/
theorem feed_untyped
    {message final : MqttMessage}
    {bytes : List Byte}
    (reaches : Reaches message bytes final)
    (untyped : final.type = MqttType.unknown.code) :
    Decoder.feed receive message bytes = (final, []) := by
  induction reaches with
  | last message inByte =>
      simp [Decoder.feed_cons, receive, untyped]
  | step open_ _ inductionHypothesis =>
      rw [Decoder.feed_cons]
      simp [receive, type_of_incomplete open_, inductionHypothesis untyped]

/-- The read loop hands on nothing before the end of a run. -/
theorem feed_before
    {message final : MqttMessage}
    {bytes earlier later : List Byte}
    (reaches : Reaches message bytes final)
    (split : bytes = earlier ++ later)
    (proper : later ≠ []) :
    Decoder.feed receive message earlier =
      (earlier.foldl incoming message, []) := by
  induction reaches generalizing earlier with
  | last message inByte =>
      cases earlier with
      | nil => rfl
      | cons head tail =>
          have lengths := congrArg List.length split
          simp only [List.length_cons, List.length_nil,
            List.cons_append, List.length_append] at lengths
          have laterLength := List.length_pos_iff.mpr proper
          omega
  | step open_ _ inductionHypothesis =>
      cases earlier with
      | nil => rfl
      | cons head tail =>
          simp only [List.cons_append, List.cons.injEq] at split
          obtain ⟨rfl, restSplit⟩ := split
          rw [Decoder.feed_cons]
          simp [receive, type_of_incomplete open_,
            inductionHypothesis restSplit]

end Reaches

/--
The beginning of a body of which a number of bytes is missing, as far as the
buffer has room for it.
-/
theorem reaches_body
    {received : List Byte}
    (nonempty : received ≠ [])
    (message : MqttMessage)
    (missing : Nat)
    (state : message.state = .variableHeader)
    (size : message.size = received.length + missing)
    (bounded : message.size ≤ maxBufferLength)
    (fits : message.buffer.length + received.length ≤ maxBufferLength) :
    Reaches message received
      { message with
        buffer := message.buffer ++ received
        size := missing
        state := if missing = 0 then .complete else .variableHeader } := by
  induction received generalizing message with
  | nil => exact (nonempty rfl).elim
  | cons byte rest inductionHypothesis =>
      simp only [List.length_cons] at size fits
      have taken :=
        incoming_variableHeader state (by omega) bounded (by omega) byte
      by_cases restEmpty : rest = []
      · subst rest
        have sizeEq : message.size = missing + 1 := by
          simpa [Nat.add_comm] using size
        have reaches := Reaches.last message byte
        rw [taken] at reaches
        simpa [sizeEq] using reaches
      · have restLength := List.length_pos_iff.mpr restEmpty
        have sizeNotOne : message.size ≠ 1 := by omega
        simp only [if_neg sizeNotOne] at taken
        have later :=
          inductionHypothesis restEmpty (message.incoming byte)
            (by rw [taken])
            (by rw [taken]; simp only; omega)
            (by rw [taken]; simp only; omega)
            (by
              rw [taken]
              simp only [List.length_append, List.length_singleton]
              omega)
        refine .step (by rw [taken]; simp) ?_
        rw [taken] at later ⊢
        simpa using later

/-- The state after the last length byte. -/
def afterLength
    (buffer : List Byte)
    (length : Nat) : MqttMessage where
  buffer := buffer
  vheader := buffer.length % 256
  size := length
  state := if length = 0 then .complete else .variableHeader

/-- A length byte that is the last one. -/
theorem reaches_lastGroup
    {message : MqttMessage}
    (byte : Byte)
    (state : message.state = .length)
    (room : message.buffer.length < maxBufferLength)
    (bounded : nextSize message.size byte ≤ maxBufferLength)
    (last : byte.toNat < 128) :
    Reaches message [byte]
      (afterLength (message.buffer ++ [byte])
        (nextSize message.size byte)) := by
  have taken := incoming_length byte state room bounded
  have reaches := Reaches.last message byte
  rw [taken, if_neg (Nat.not_le.mpr last)] at reaches
  simpa [afterLength] using reaches

/-- A length byte that announces another one. -/
theorem reaches_moreGroups
    {message final : MqttMessage}
    {rest : List Byte}
    (byte : Byte)
    (state : message.state = .length)
    (room : message.buffer.length < maxBufferLength)
    (bounded : nextSize message.size byte ≤ maxBufferLength)
    (announces : 128 ≤ byte.toNat)
    (later :
      Reaches
        { message with
          buffer := message.buffer ++ [byte]
          size := nextSize message.size byte }
        rest final) :
    Reaches message (byte :: rest) final := by
  have taken := incoming_length byte state room bounded
  rw [if_pos announces] at taken
  refine .step (by rw [taken]; simp [state]) ?_
  rw [taken]
  exact later

/--
Length bytes behind the first one.  Once the sum is below the sentinel the
groups that the shift misplaces are all zero.
-/
theorem reaches_laterGroups
    {groups : List Byte}
    (wellFormed : VarInt.WellFormed groups)
    (message : MqttMessage)
    (state : message.state = .length)
    (bounded :
      message.size + 128 * VarInt.value groups < maxBufferLength)
    (room :
      message.buffer.length + groups.length ≤ maxBufferLength) :
    Reaches message groups
      (afterLength (message.buffer ++ groups)
        (message.size + 128 * VarInt.value groups)) := by
  induction groups generalizing message with
  | nil => exact wellFormed.elim
  | cons byte rest inductionHypothesis =>
      simp only [VarInt.value, List.length_cons] at bounded room
      have notSentinel : message.size ≠ maxBufferLength := by omega
      have sizeEq :
          nextSize message.size byte =
            message.size + byte.toNat % 128 * 128 := by
        simp only [nextSize, if_neg notSentinel]
        simp only [maxBufferLength] at bounded
        omega
      have roomNow : message.buffer.length < maxBufferLength := by omega
      have boundedNow : nextSize message.size byte ≤ maxBufferLength := by
        rw [sizeEq]
        omega
      cases rest with
      | nil =>
          have total :
              message.size + 128 * VarInt.value [byte] =
                nextSize message.size byte := by
            rw [sizeEq]
            simp only [VarInt.value]
            omega
          rw [total]
          exact reaches_lastGroup byte state roomNow boundedNow wellFormed
      | cons next later =>
          obtain ⟨announces, laterWellFormed⟩ := wellFormed
          have zero : VarInt.value (next :: later) = 0 := by
            simp only [maxBufferLength] at bounded
            omega
          have total :
              message.size + 128 * VarInt.value (byte :: next :: later) =
                nextSize message.size byte +
                  128 * VarInt.value (next :: later) := by
            rw [VarInt.value, sizeEq, zero]
            omega
          have reaches :=
            inductionHypothesis laterWellFormed
              { message with
                buffer := message.buffer ++ [byte]
                size := nextSize message.size byte }
              state
              (by
                simp only [sizeEq, zero]
                omega)
              (by
                simp only [List.length_append, List.length_cons,
                  List.length_nil] at room ⊢
                omega)
          rw [total]
          refine reaches_moreGroups byte state roomNow boundedNow announces ?_
          simpa using reaches

/-- All length bytes of a packet, behind its first byte. -/
theorem reaches_groups
    {groups : List Byte}
    (wellFormed : VarInt.WellFormed groups)
    (message : MqttMessage)
    (state : message.state = .length)
    (size : message.size = maxBufferLength)
    (bounded : VarInt.value groups < maxBufferLength)
    (room :
      message.buffer.length + groups.length ≤ maxBufferLength) :
    Reaches message groups
      (afterLength (message.buffer ++ groups) (VarInt.value groups)) := by
  cases groups with
  | nil => exact wellFormed.elim
  | cons byte rest =>
      simp only [List.length_cons] at room
      have sizeEq : nextSize message.size byte = byte.toNat % 128 := by
        simp [nextSize, size]
      have small : byte.toNat % 128 < 128 := Nat.mod_lt _ (by omega)
      have roomNow : message.buffer.length < maxBufferLength := by omega
      have boundedNow : nextSize message.size byte ≤ maxBufferLength := by
        rw [sizeEq]
        simp only [maxBufferLength]
        omega
      cases rest with
      | nil =>
          have reaches :=
            reaches_lastGroup byte state roomNow boundedNow wellFormed
          rw [sizeEq] at reaches
          exact reaches
      | cons next later =>
          obtain ⟨announces, laterWellFormed⟩ := wellFormed
          have reaches :=
            reaches_laterGroups laterWellFormed
              { message with
                buffer := message.buffer ++ [byte]
                size := nextSize message.size byte }
              state
              (by
                simp only [sizeEq]
                exact bounded)
              (by
                simp only [List.length_append, List.length_singleton]
                omega)
          refine reaches_moreGroups byte state roomNow boundedNow announces ?_
          simpa [VarInt.value, sizeEq] using reaches

end MqttMessage

/-! ## Whole packets -/

/-- A packet on the wire. -/
structure Packet where
  first : Byte
  lengthBytes : List Byte
  body : List Byte
  deriving Repr, DecidableEq

namespace Packet

/-- The bytes of a packet. -/
def bytes (packet : Packet) : List Byte :=
  packet.first :: (packet.lengthBytes ++ packet.body)

/-- The length bytes, at most four, encode the length of the body. -/
structure WellFormed (packet : Packet) : Prop where
  groups : VarInt.WellFormed packet.lengthBytes
  short : packet.lengthBytes.length ≤ 4
  encodes : VarInt.value packet.lengthBytes = packet.body.length

/-- A packet the receive buffer can hold, with a type that is not reserved. -/
structure InLimit (packet : Packet) : Prop where
  typed : packet.first &&& 0xF0 ≠ 0
  fits : packet.bytes.length ≤ MqttMessage.maxBufferLength

/-- The message that `incoming` makes of a packet. -/
def message (packet : Packet) : MqttMessage where
  buffer := packet.bytes
  vheader := 1 + packet.lengthBytes.length
  size := 0
  state := .complete

theorem length_bytes (packet : Packet) :
    packet.bytes.length =
      1 + packet.lengthBytes.length + packet.body.length := by
  simp only [bytes, List.length_cons, List.length_append]
  omega

/-- The beginning of a packet that has not been read to its end. -/
def begun (packet : Packet) (received : List Byte) : List Byte :=
  packet.first :: (packet.lengthBytes ++ received)

/-- The message that `incoming` makes of the beginning of a packet. -/
def partialMessage
    (packet : Packet)
    (received missing : List Byte) : MqttMessage where
  buffer := packet.begun received
  vheader := 1 + packet.lengthBytes.length
  size := missing.length
  state := if missing.length = 0 then .complete else .variableHeader

/-- The first byte and the length bytes of a packet. -/
theorem reaches_header
    {packet : Packet}
    (wellFormed : packet.WellFormed)
    (bounded : packet.body.length < MqttMessage.maxBufferLength)
    {message : MqttMessage}
    (isReset : message.IsReset) :
    MqttMessage.Reaches message (packet.first :: packet.lengthBytes)
      (MqttMessage.afterLength (packet.first :: packet.lengthBytes)
        packet.body.length) := by
  have opened := MqttMessage.incoming_fixedHeader isReset packet.first
  have groupsShort := wellFormed.short
  have groups :=
    MqttMessage.reaches_groups wellFormed.groups
      (message.incoming packet.first)
      (by rw [opened])
      (by rw [opened])
      (by
        rw [wellFormed.encodes]
        exact bounded)
      (by
        rw [opened, MqttMessage.maxBufferLength]
        simp only [List.length_singleton]
        omega)
  refine .step (by rw [opened]; simp) ?_
  rw [wellFormed.encodes] at groups
  rw [opened] at groups ⊢
  simpa using groups

/-- Beginnings of packets are received as far as the buffer has room. -/
theorem reaches_begun
    {packet : Packet}
    {received missing : List Byte}
    (wellFormed : packet.WellFormed)
    (split : packet.body = received ++ missing)
    (bounded : packet.body.length < MqttMessage.maxBufferLength)
    (fits :
      (packet.begun received).length ≤ MqttMessage.maxBufferLength)
    {message : MqttMessage}
    (isReset : message.IsReset) :
    MqttMessage.Reaches message (packet.begun received)
      (packet.partialMessage received missing) := by
  have header := reaches_header wellFormed bounded isReset
  simp only [begun, List.length_cons, List.length_append,
    MqttMessage.maxBufferLength] at fits bounded
  have groupsShort := wellFormed.short
  have splitLength :
      packet.body.length = received.length + missing.length := by
    rw [split, List.length_append]
  have headerLength :
      (packet.lengthBytes.length + 1) % 256 =
        1 + packet.lengthBytes.length := by
    omega
  by_cases receivedEmpty : received = []
  · subst received
    have lengthEq : packet.body.length = missing.length := by
      simpa using splitLength
    simpa [MqttMessage.afterLength, begun, partialMessage, lengthEq,
      headerLength] using header
  · have receivedLength := List.length_pos_iff.mpr receivedEmpty
    have bodyNonzero : packet.body.length ≠ 0 := by omega
    have body :=
      MqttMessage.reaches_body receivedEmpty
        (MqttMessage.afterLength (packet.first :: packet.lengthBytes)
          packet.body.length)
        missing.length
        (by simp only [MqttMessage.afterLength, if_neg bodyNonzero])
        splitLength
        (by
          simp only [MqttMessage.afterLength, MqttMessage.maxBufferLength]
          omega)
        (by
          simp only [MqttMessage.afterLength, List.length_cons,
            MqttMessage.maxBufferLength]
          omega)
    have whole :=
      header.append
        (by simp [MqttMessage.afterLength, bodyNonzero]) body
    simpa [MqttMessage.afterLength, begun, partialMessage, headerLength]
      using whole

/-- A packet that fits is received as one message, at its last byte. -/
theorem reaches_bytes
    {packet : Packet}
    (wellFormed : packet.WellFormed)
    (fits : packet.bytes.length ≤ MqttMessage.maxBufferLength)
    {message : MqttMessage}
    (isReset : message.IsReset) :
    MqttMessage.Reaches message packet.bytes packet.message := by
  have bounded : packet.body.length < MqttMessage.maxBufferLength := by
    rw [length_bytes] at fits
    omega
  exact reaches_begun wellFormed (List.append_nil packet.body).symm bounded
    fits isReset

/-- The message made of a packet has the type of the packet. -/
@[simp] theorem type_message (packet : Packet) :
    packet.message.type = packet.first &&& 0xF0 := rfl

/-- A packet within the limit is handed on, and nothing is left of it. -/
theorem feed_bytes
    {packet : Packet}
    (wellFormed : packet.WellFormed)
    (inLimit : packet.InLimit)
    {message : MqttMessage}
    (isReset : message.IsReset) :
    Decoder.feed MqttMessage.receive message packet.bytes =
      (packet.message.reset, [packet.message]) :=
  (reaches_bytes wellFormed inLimit.fits isReset).feed_typed inLimit.typed

/-- So is a stream of them, packet by packet. -/
theorem feed_packets
    {packets : List Packet}
    (wellFormed : ∀ packet ∈ packets, packet.WellFormed)
    (inLimit : ∀ packet ∈ packets, packet.InLimit)
    {message : MqttMessage}
    (isReset : message.IsReset) :
    (Decoder.feed MqttMessage.receive message
        (packets.flatMap bytes)).1.IsReset ∧
      (Decoder.feed MqttMessage.receive message
        (packets.flatMap bytes)).2 = packets.map Packet.message := by
  refine Decoder.feed_frames packets ?_ isReset
  intro packet member state atRest
  rw [feed_bytes (wellFormed packet member) (inLimit packet member) atRest]
  exact ⟨MqttMessage.isReset_reset _, rfl⟩

/-- A PINGRESP message, as a packet. -/
def pingResp : Packet where
  first := 0xD0
  lengthBytes := [0x00]
  body := []

theorem wellFormed_pingResp : pingResp.WellFormed where
  groups := show (0x00 : Byte).toNat < 128 by decide
  short := by decide
  encodes := by decide

theorem inLimit_pingResp : pingResp.InLimit where
  typed := by decide
  fits := by decide

end Packet

end SimpleTlsBroker
