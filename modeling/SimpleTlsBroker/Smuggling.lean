import Mathlib.Data.List.Basic
import SimpleTlsBroker.Framing

namespace SimpleTlsBroker

/-!
# Rejected packets

A packet that is too long for the buffer, or has the reserved type, is not
handed on.  Where its bytes are dropped decides whether the decoder is still in
step with the stream: it is after a packet that is one byte too long, and out
of step after a longer one, or after a short one with the reserved type.
-/

namespace MqttMessage

/-! ## Growing and resetting -/

/-- The switch of `incoming` keeps the bytes and goes on, or it resets. -/
theorem incomingState_keeps_or_resets
    (message : MqttMessage)
    (byte : Byte) :
    ((message.incomingState byte).buffer = message.buffer ∧
        (message.incomingState byte).state ≠ .fixedHeader) ∨
      (message.incomingState byte).IsReset := by
  rcases message with ⟨buffer, vheader, size, state⟩
  cases state with
  | fixedHeader | create => exact .inl ⟨rfl, State.noConfusion⟩
  | complete | error => exact .inr ⟨rfl, rfl, rfl⟩
  | length =>
      left
      simp only [incomingState, incomingLength]
      generalize
        (if size = maxBufferLength then
          (byte &&& 0x7F).toNat
        else
          (size + (byte &&& 0x7F).toNat <<< 7) % 65536) = newSize
      split
      · exact ⟨rfl, State.noConfusion⟩
      · split
        · refine ⟨rfl, ?_⟩
          dsimp only
          split <;> exact State.noConfusion
        · exact ⟨rfl, State.noConfusion⟩
  | variableHeader | payLoad =>
      left
      refine ⟨rfl, ?_⟩
      simp only [incomingState]
      split <;> exact State.noConfusion

/-- After a byte the message is one byte longer and open, or it was reset. -/
theorem incoming_grows_or_resets
    (message : MqttMessage)
    (byte : Byte) :
    ((message.incoming byte).buffer = message.buffer ++ [byte] ∧
        (message.incoming byte).state ≠ .fixedHeader ∧
          message.buffer.length < maxBufferLength) ∨
      (message.incoming byte).IsReset := by
  have step :=
    incomingState_keeps_or_resets
      { message with buffer := message.buffer ++ [byte] } byte
  unfold incoming
  dsimp only
  generalize
    ({ message with buffer := message.buffer ++ [byte] } :
      MqttMessage).incomingState byte = next at step ⊢
  by_cases long : next.buffer.length > maxBufferLength
  · rw [if_pos long]
    exact .inr (isReset_reset next)
  · rw [if_neg long]
    rcases step with ⟨kept, isOpen⟩ | isReset
    · refine .inl ⟨kept, isOpen, ?_⟩
      rw [kept, List.length_append, List.length_singleton] at long
      omega
    · exact .inr isReset

/-- So it is for a byte of the read loop. -/
theorem receive_grows_or_resets
    (message : MqttMessage)
    (byte : Byte) :
    ((receive message byte).1.buffer = message.buffer ++ [byte] ∧
        (receive message byte).1.state ≠ .fixedHeader ∧
          message.buffer.length < maxBufferLength) ∨
      (receive message byte).1.IsReset := by
  unfold receive
  dsimp only
  split
  · exact .inr (isReset_reset _)
  · exact message.incoming_grows_or_resets byte

theorem length_incoming_le
    (message : MqttMessage)
    (byte : Byte) :
    (message.incoming byte).buffer.length ≤ message.buffer.length + 1 := by
  rcases message.incoming_grows_or_resets byte with ⟨grown, _⟩ | isReset
  · simp [grown]
  · simp [isReset.1]

/-- The buffer holds the bytes fed to it at most. -/
theorem length_foldl_incoming_le
    (bytes : List Byte)
    (message : MqttMessage) :
    (bytes.foldl incoming message).buffer.length ≤
      message.buffer.length + bytes.length := by
  induction bytes generalizing message with
  | nil => simp
  | cons byte rest inductionHypothesis =>
      have later := inductionHypothesis (message.incoming byte)
      have first := message.length_incoming_le byte
      simp only [List.foldl_cons, List.length_cons]
      omega

/-- A message that is handed on was fed since the last reset. -/
theorem length_le_of_mem_feed
    {bytes : List Byte}
    {message handed : MqttMessage}
    (member : handed ∈ (Decoder.feed receive message bytes).2) :
    handed.buffer.length ≤ message.buffer.length + bytes.length := by
  induction bytes generalizing message with
  | nil => simp at member
  | cons byte rest inductionHypothesis =>
      rw [Decoder.feed_cons] at member
      have taken := message.length_incoming_le byte
      rcases List.mem_append.mp member with first | later
      · have isIncoming : handed = message.incoming byte := by
          unfold receive at first
          dsimp only at first
          split at first <;> simp_all
        subst isIncoming
        simp only [List.length_cons]
        omega
      · have kept := inductionHypothesis later
        have shorter :
            (receive message byte).1.buffer.length ≤
              message.buffer.length + 1 := by
          unfold receive
          dsimp only
          split
          · simp
          · exact taken
        simp only [List.length_cons]
        omega

/--
Whatever the bytes are, the decoder has started afresh before it has taken in
one more than the buffer holds.
-/
theorem exists_reset
    {bytes : List Byte}
    (message : MqttMessage)
    (bounded : message.buffer.length ≤ maxBufferLength)
    (long : maxBufferLength < message.buffer.length + bytes.length) :
    ∃ earlier later,
      bytes = earlier ++ later ∧
        message.buffer.length + earlier.length ≤ maxBufferLength + 1 ∧
          earlier ≠ [] ∧
            (Decoder.feed receive message earlier).1.IsReset := by
  induction bytes generalizing message with
  | nil => exact absurd long (Nat.not_lt.mpr bounded)
  | cons byte rest inductionHypothesis =>
      rcases message.receive_grows_or_resets byte with
        ⟨grown, _, room⟩ | isReset
      · have length :
            (receive message byte).1.buffer.length =
              message.buffer.length + 1 := by
          simp [grown]
        obtain ⟨earlier, later, split, short, _, isReset⟩ :=
          inductionHypothesis (receive message byte).1
            (by rw [length]; exact room)
            (by
              rw [length]
              simp only [List.length_cons] at long
              omega)
        refine ⟨byte :: earlier, later, by rw [split]; rfl, ?_, by simp, ?_⟩
        · rw [length] at short
          simp only [List.length_cons]
          omega
        · rw [Decoder.feed_cons]
          exact isReset
      · refine ⟨[byte], rest, rfl, ?_, by simp, ?_⟩
        · exact Nat.add_le_add_right bounded 1
        · rw [Decoder.feed_singleton]
          exact isReset

/-- A run that loses no byte starts no packet behind its first byte. -/
theorem Reaches.notFixedHeader
    {message final : MqttMessage}
    {bytes earlier later : List Byte}
    (reaches : Reaches message bytes final)
    (lossless :
      final.buffer.length = message.buffer.length + bytes.length)
    (split : bytes = earlier ++ later)
    (nonempty : earlier ≠ []) :
    (earlier.foldl incoming message).state ≠ .fixedHeader := by
  intro starts
  obtain ⟨front, last, rfl⟩ :=
    (List.eq_nil_or_concat' earlier).resolve_left nonempty
  have rest := length_foldl_incoming_le later
    ((front ++ [last]).foldl incoming message)
  rw [← List.foldl_append, ← split, reaches.foldl_eq, lossless, split] at rest
  have step :=
    (front.foldl incoming message).incoming_grows_or_resets last
  rw [List.foldl_append] at starts rest
  simp only [List.foldl_cons, List.foldl_nil] at starts rest
  rcases step with ⟨_, isOpen, _⟩ | ⟨empty, _⟩
  · exact isOpen starts
  · rw [empty] at rest
    simp only [List.length_append, List.length_singleton, List.length_nil]
      at rest
    omega

end MqttMessage

namespace Packet

open MqttMessage (receive maxBufferLength)

variable {packet : Packet}
variable {packets rest : List Packet}
variable {message : MqttMessage}
variable {fed missing : List Byte}

/-! ## One packet -/

instance (packet : Packet) : Decidable packet.InLimit :=
  decidable_of_iff
    (packet.first &&& 0xF0 ≠ 0 ∧ packet.bytes.length ≤ maxBufferLength)
    ⟨fun ⟨typed, fits⟩ => ⟨typed, fits⟩,
      fun inLimit => ⟨inLimit.typed, inLimit.fits⟩⟩

/-- A packet has a first byte and a length byte. -/
theorem two_le_length_bytes
    (wellFormed : packet.WellFormed) :
    2 ≤ packet.bytes.length := by
  have nonempty : packet.lengthBytes ≠ [] := by
    intro empty
    have groups := wellFormed.groups
    simp [empty, VarInt.WellFormed] at groups
  have := List.length_pos_iff.mpr nonempty
  rw [length_bytes]
  omega

/-- A packet one byte too long, without its last byte. -/
theorem reaches_overlong
    (wellFormed : packet.WellFormed)
    (overlong : packet.bytes.length = maxBufferLength + 1)
    (isReset : message.IsReset) :
    ∃ received last,
      packet.bytes = packet.begun received ++ [last] ∧
        MqttMessage.Reaches message (packet.begun received)
          (packet.partialMessage received [last]) := by
  have short := wellFormed.short
  rw [length_bytes, maxBufferLength] at overlong
  have nonempty : packet.body ≠ [] := by
    intro empty
    rw [empty, List.length_nil] at overlong
    omega
  obtain ⟨received, last, split⟩ :=
    (List.eq_nil_or_concat' packet.body).resolve_left nonempty
  have length : packet.body.length = received.length + 1 := by
    simp [split]
  have two := two_le_length_bytes wellFormed
  have groupsNonempty : packet.lengthBytes ≠ [] := by
    intro empty
    have groups := wellFormed.groups
    simp [empty, VarInt.WellFormed] at groups
  have groupsLength := List.length_pos_iff.mpr groupsNonempty
  refine ⟨received, last, ?_, ?_⟩
  · simp [bytes, begun, split]
  · refine reaches_begun wellFormed split ?_ ?_ isReset
    · rw [maxBufferLength]
      omega
    · simp only [begun, List.length_cons, List.length_append,
        maxBufferLength]
      omega

/-- It is dropped at its last byte. -/
theorem feed_overlong
    (wellFormed : packet.WellFormed)
    (overlong : packet.bytes.length = maxBufferLength + 1)
    (isReset : message.IsReset) :
    (Decoder.feed receive message packet.bytes).1.IsReset ∧
      (Decoder.feed receive message packet.bytes).2 = [] := by
  obtain ⟨received, last, split, reaches⟩ :=
    reaches_overlong wellFormed overlong isReset
  have untyped :
      (packet.partialMessage received [last]).type =
        MqttType.unknown.code :=
    MqttMessage.Reaches.type_of_incomplete (by simp [partialMessage])
  have dropped :
      ((packet.partialMessage received [last]).incoming last).IsReset := by
    rcases (packet.partialMessage received [last]).incoming_grows_or_resets
      last with ⟨_, _, room⟩ | isReset
    · rw [split, List.length_append, List.length_singleton] at overlong
      simp only [partialMessage] at room
      omega
    · exact isReset
  have received_ :
      receive (packet.partialMessage received [last]) last =
        ((packet.partialMessage received [last]).incoming last, none) := by
    simp [receive, MqttMessage.type, dropped.2.1]
  rw [split, Decoder.feed_append, reaches.feed_untyped untyped]
  simp only [Decoder.feed_singleton, received_, Option.toList_none,
    List.append_nil, and_true]
  exact dropped

/-- The beginning of a packet that is at most one byte too long. -/
theorem feed_begun
    (wellFormed : packet.WellFormed)
    (short : packet.bytes.length ≤ maxBufferLength + 1)
    (isReset : message.IsReset)
    (split : packet.bytes = fed ++ missing)
    (proper : missing ≠ []) :
    (Decoder.feed receive message fed).2 = [] ∧
      (fed ≠ [] →
        (Decoder.feed receive message fed).1.state ≠ .fixedHeader) := by
  have lossless {bytes : List Byte} {final : MqttMessage}
      (same : final.buffer = bytes) :
      final.buffer.length = message.buffer.length + bytes.length := by
    rw [same, isReset.1, List.length_nil, Nat.zero_add]
  by_cases fits : packet.bytes.length ≤ maxBufferLength
  · have reaches := reaches_bytes wellFormed fits isReset
    rw [reaches.feed_before split proper]
    exact ⟨rfl, reaches.notFixedHeader (lossless rfl) split⟩
  · obtain ⟨received, last, begunSplit, reaches⟩ :=
      reaches_overlong wellFormed (by omega) isReset
    -- The bytes fed are a part of the bytes before the last one.
    obtain ⟨front, final, rfl⟩ :=
      (List.eq_nil_or_concat' missing).resolve_left proper
    have begunEq : packet.begun received = fed ++ front := by
      rw [begunSplit, ← List.append_assoc] at split
      exact (List.append_inj' split rfl).1
    have isOpen := reaches.notFixedHeader (lossless rfl) begunEq
    by_cases whole : front = []
    · rw [whole, List.append_nil] at begunEq
      have untyped :
          (packet.partialMessage received [last]).type =
            MqttType.unknown.code :=
        MqttMessage.Reaches.type_of_incomplete (by simp [partialMessage])
      have result := reaches.feed_untyped untyped
      rw [begunEq] at result reaches
      rw [reaches.foldl_eq] at isOpen
      rw [result]
      exact ⟨rfl, isOpen⟩
    · rw [reaches.feed_before begunEq whole]
      exact ⟨rfl, isOpen⟩

/-! ## Streams -/

/--
The packets of a stream that are complete after a number of bytes and are to be
handed on.
-/
def acceptedWithin : List Packet → Nat → List Packet
  | [], _ => []
  | packet :: rest, count =>
      if packet.bytes.length ≤ count then
        (if packet.InLimit then [packet] else []) ++
          acceptedWithin rest (count - packet.bytes.length)
      else
        []

/-- The byte at a position of a stream is inside a rejected packet. -/
def InsideRejected : List Packet → Nat → Prop
  | [], _ => False
  | packet :: rest, position =>
      if packet.bytes.length ≤ position then
        InsideRejected rest (position - packet.bytes.length)
      else
        0 < position ∧ ¬ packet.InLimit

/--
What the decoder has made of the first bytes of a stream: it handed on the
packets that are to be handed on, and if it takes the next byte for the first
one of a packet, that byte is not inside a rejected packet.
-/
structure Unsmuggled
    (packets : List Packet)
    (count : Nat)
    (message : MqttMessage)
    (handed : List MqttMessage) : Prop where
  handedOn : handed = (acceptedWithin packets count).map Packet.message
  starts : message.state = .fixedHeader → ¬ InsideRejected packets count

/--
No packet is more than one byte too long, and the reserved type occurs in
packets one byte too long or at the end of the stream only.
-/
structure Harmless (packets : List Packet) : Prop where
  short :
    ∀ packet ∈ packets, packet.bytes.length ≤ maxBufferLength + 1
  typed :
    ∀ packet ∈ packets.dropLast,
      packet.bytes.length ≤ maxBufferLength → packet.first &&& 0xF0 ≠ 0

theorem acceptedWithin_of_lt
    {count : Nat}
    (incomplete : count < packet.bytes.length) :
    acceptedWithin (packet :: rest) count = [] := by
  rw [acceptedWithin, if_neg (Nat.not_le.mpr incomplete)]

theorem acceptedWithin_add
    (packet : Packet)
    (rest : List Packet)
    (count : Nat) :
    acceptedWithin (packet :: rest) (packet.bytes.length + count) =
      (if packet.InLimit then [packet] else []) ++
        acceptedWithin rest count := by
  rw [acceptedWithin, if_pos (Nat.le_add_right _ _), Nat.add_sub_cancel_left]

/-- Nothing is complete after no bytes. -/
@[simp] theorem acceptedWithin_zero (packets : List Packet) :
    acceptedWithin packets 0 = [] := by
  cases packets with
  | nil => rfl
  | cons packet rest =>
      exact acceptedWithin_of_lt (by simp [bytes])

theorem insideRejected_of_lt
    {position : Nat}
    (incomplete : position < packet.bytes.length) :
    InsideRejected (packet :: rest) position ↔
      0 < position ∧ ¬ packet.InLimit := by
  rw [InsideRejected, if_neg (Nat.not_le.mpr incomplete)]

theorem insideRejected_add
    (packet : Packet)
    (rest : List Packet)
    (position : Nat) :
    InsideRejected (packet :: rest) (packet.bytes.length + position) ↔
      InsideRejected rest position := by
  rw [InsideRejected, if_pos (Nat.le_add_right _ _), Nat.add_sub_cancel_left]

/-- The first bytes of a stream end inside its first packet or behind it. -/
theorem fed_cases
    {stream : List Byte}
    (isPrefix : fed <+: packet.bytes ++ stream) :
    (∃ missing, missing ≠ [] ∧ packet.bytes = fed ++ missing) ∨
      ∃ later, fed = packet.bytes ++ later ∧ later <+: stream := by
  obtain ⟨tail, split⟩ := isPrefix
  rcases List.append_eq_append_iff.mp split with
    ⟨missing, first, _⟩ | ⟨later, first, second⟩
  · by_cases complete : missing = []
    · right
      exact ⟨[], by simpa [complete] using first.symm, List.nil_prefix⟩
    · exact .inl ⟨missing, complete, first⟩
  · exact .inr ⟨later, first, tail, second.symm⟩

/-- What a packet that passes harmlessly leaves behind. -/
theorem feed_harmless
    (wellFormed : packet.WellFormed)
    (short : packet.bytes.length ≤ maxBufferLength + 1)
    (isReset : message.IsReset) :
    (Decoder.feed receive message packet.bytes).2 =
        (if packet.InLimit then [packet] else []).map Packet.message ∧
      ((Decoder.feed receive message packet.bytes).1.IsReset ∨
        packet.bytes.length ≤ maxBufferLength ∧
          packet.first &&& 0xF0 = 0 ∧
            (Decoder.feed receive message packet.bytes).1 =
              packet.message) := by
  by_cases inLimit : packet.InLimit
  · rw [feed_bytes wellFormed inLimit isReset, if_pos inLimit]
    exact ⟨rfl, .inl (MqttMessage.isReset_reset _)⟩
  · rw [if_neg inLimit]
    by_cases fits : packet.bytes.length ≤ maxBufferLength
    · have untyped : packet.first &&& 0xF0 = 0 := by
        by_contra typed
        exact inLimit ⟨typed, fits⟩
      have result :=
        (reaches_bytes wellFormed fits isReset).feed_untyped untyped
      rw [result]
      exact ⟨rfl, .inr ⟨fits, untyped, rfl⟩⟩
    · have dropped := feed_overlong wellFormed (by omega) isReset
      exact ⟨dropped.2, .inl dropped.1⟩

/-- The rest of a harmless stream is harmless. -/
theorem Harmless.tail
    (harmless : Harmless (packet :: rest)) :
    Harmless rest where
  short other member := harmless.short other (List.mem_cons_of_mem _ member)
  typed other member := by
    cases rest with
    | nil => simp at member
    | cons next later =>
        exact harmless.typed other (List.mem_cons_of_mem _ member)

/-- A harmless stream stays in step with the decoder. -/
theorem Harmless.unsmuggled
    (harmless : Harmless packets)
    (wellFormed : ∀ packet ∈ packets, packet.WellFormed)
    (isReset : message.IsReset)
    (isPrefix : fed <+: packets.flatMap bytes) :
    Unsmuggled packets fed.length (Decoder.feed receive message fed).1
      (Decoder.feed receive message fed).2 := by
  induction packets generalizing message fed with
  | nil =>
      obtain rfl : fed = [] := by simpa using isPrefix
      exact ⟨rfl, fun _ => id⟩
  | cons packet rest inductionHypothesis =>
      have wellFormedPacket := wellFormed packet List.mem_cons_self
      have short := harmless.short packet List.mem_cons_self
      rw [List.flatMap_cons] at isPrefix
      rcases fed_cases isPrefix with
        ⟨missing, proper, split⟩ | ⟨later, rfl, laterPrefix⟩
      · -- Inside the packet nothing is handed on, and no packet starts.
        have inside : fed.length < packet.bytes.length := by
          have := List.length_pos_iff.mpr proper
          rw [split, List.length_append]
          omega
        obtain ⟨nothing, isOpen⟩ :=
          feed_begun wellFormedPacket short isReset split proper
        constructor
        · rw [nothing, acceptedWithin_of_lt inside]
          rfl
        · intro starts
          rw [insideRejected_of_lt inside]
          rintro ⟨positive, _⟩
          exact isOpen (List.length_pos_iff.mp positive) starts
      · obtain ⟨handed, isResetAfter | ⟨fits, untyped, complete⟩⟩ :=
          feed_harmless wellFormedPacket short isReset
        · have later :=
            inductionHypothesis harmless.tail
              (fun other member =>
                wellFormed other (List.mem_cons_of_mem _ member))
              isResetAfter laterPrefix
          rw [Decoder.feed_append, List.length_append]
          constructor
          · rw [acceptedWithin_add, List.map_append, handed,
              later.handedOn]
          · rw [insideRejected_add]
            exact later.starts
        · -- A short packet with the reserved type is the last one.
          have isLast : rest = [] := by
            by_contra more
            refine harmless.typed packet ?_ fits untyped
            rw [List.dropLast_cons_of_ne_nil more]
            exact List.mem_cons_self
          subst isLast
          obtain rfl : later = [] := by simpa using laterPrefix
          rw [List.append_nil]
          constructor
          · rw [handed]
            have within := acceptedWithin_add packet [] 0
            rw [Nat.add_zero] at within
            rw [within, acceptedWithin, List.append_nil]
          · rw [complete]
            exact fun starts => MqttMessage.State.noConfusion starts

/-- A stream in step with the decoder stays so behind its first packet. -/
theorem Unsmuggled.tail
    {count : Nat}
    {handed : List MqttMessage}
    (unsmuggled :
      Unsmuggled (packet :: rest) (packet.bytes.length + count) message
        ((if packet.InLimit then [packet] else []).map Packet.message ++
          handed)) :
    Unsmuggled rest count message handed where
  handedOn := by
    have handedOn := unsmuggled.handedOn
    rw [acceptedWithin_add, List.map_append] at handedOn
    exact List.append_cancel_left handedOn
  starts starts := by
    have outside := unsmuggled.starts starts
    rwa [insideRejected_add] at outside

/-- What stays in step from a packet on stays so from behind it. -/
theorem unsmuggled_behind
    (handed :
      (Decoder.feed receive message packet.bytes).2 =
        (if packet.InLimit then [packet] else []).map Packet.message)
    (unsmuggled :
      ∀ fed, fed <+: (packet :: rest).flatMap bytes →
        Unsmuggled (packet :: rest) fed.length
          (Decoder.feed receive message fed).1
          (Decoder.feed receive message fed).2)
    (isPrefix : fed <+: rest.flatMap bytes) :
    Unsmuggled rest fed.length
      (Decoder.feed receive
        (Decoder.feed receive message packet.bytes).1 fed).1
      (Decoder.feed receive
        (Decoder.feed receive message packet.bytes).1 fed).2 := by
  have whole := unsmuggled (packet.bytes ++ fed)
    ((List.prefix_append_right_inj _).mpr isPrefix)
  rw [Decoder.feed_append, handed, List.length_append] at whole
  exact whole.tail

/-- The byte after a complete packet of the reserved type is swallowed. -/
theorem receive_message_untyped
    (packet : Packet)
    (byte : Byte) :
    receive packet.message byte =
      ({ packet.message with
          buffer := packet.bytes ++ [byte] }.reset, none) := rfl

/-- A packet more than one byte too long brings the decoder out of step. -/
theorem short_of_unsmuggled
    (isReset : message.IsReset)
    (unsmuggled :
      ∀ fed, fed <+: (packet :: rest).flatMap bytes →
        Unsmuggled (packet :: rest) fed.length
          (Decoder.feed receive message fed).1
          (Decoder.feed receive message fed).2) :
    packet.bytes.length ≤ maxBufferLength + 1 := by
  by_contra long
  have empty : message.buffer.length = 0 := by
    rw [isReset.1, List.length_nil]
  obtain ⟨earlier, later, split, bounded, nonempty, isResetAfter⟩ :=
    MqttMessage.exists_reset message (by omega)
      (show maxBufferLength <
        message.buffer.length + packet.bytes.length by omega)
  have isPrefix : earlier <+: (packet :: rest).flatMap bytes := by
    rw [List.flatMap_cons, split, List.append_assoc]
    exact List.prefix_append _ _
  have inside : earlier.length < packet.bytes.length := by omega
  refine (unsmuggled earlier isPrefix).starts isResetAfter.2.1 ?_
  rw [insideRejected_of_lt inside]
  refine ⟨List.length_pos_iff.mpr nonempty, fun inLimit => ?_⟩
  have fits := inLimit.fits
  omega

/-- So does a short packet with the reserved type before another packet. -/
theorem typed_of_unsmuggled
    {next : Packet}
    (wellFormed : packet.WellFormed)
    (wellFormedNext : next.WellFormed)
    (fits : packet.bytes.length ≤ maxBufferLength)
    (isReset : message.IsReset)
    (unsmuggled :
      ∀ fed, fed <+: (packet :: next :: rest).flatMap bytes →
        Unsmuggled (packet :: next :: rest) fed.length
          (Decoder.feed receive message fed).1
          (Decoder.feed receive message fed).2) :
    packet.first &&& 0xF0 ≠ 0 := by
  intro untyped
  have complete :=
    (reaches_bytes wellFormed fits isReset).feed_untyped untyped
  have notInLimit : ¬ packet.InLimit := fun inLimit => inLimit.typed untyped
  obtain ⟨tail, nextBytes⟩ : ∃ tail, next.bytes = next.first :: tail :=
    ⟨_, rfl⟩
  have nextLength := two_le_length_bytes wellFormedNext
  have handed :
      (Decoder.feed receive message packet.bytes).2 =
        (if packet.InLimit then [packet] else []).map Packet.message := by
    rw [complete, if_neg notInLimit]
    rfl
  -- What is handed on behind the packet, in step with the next one.
  have behind (fed : List Byte)
      (isPrefix : fed <+: (next :: rest).flatMap bytes) :
      Unsmuggled (next :: rest) fed.length
        (Decoder.feed receive packet.message fed).1
        (Decoder.feed receive packet.message fed).2 := by
    have later := unsmuggled_behind handed unsmuggled isPrefix
    rw [complete] at later
    exact later
  by_cases inLimit : next.InLimit
  · have handedOn :=
      (behind next.bytes (List.prefix_append _ _)).handedOn
    have within := acceptedWithin_add next rest 0
    rw [Nat.add_zero] at within
    rw [within, if_pos inLimit, acceptedWithin_zero, nextBytes,
      Decoder.feed_cons, receive_message_untyped] at handedOn
    have member :
        next.message ∈
          (Decoder.feed receive
            ({ packet.message with
              buffer := packet.bytes ++ [next.first] }.reset) tail).2 := by
      simp only [Option.toList_none, List.nil_append] at handedOn
      rw [handedOn]
      simp
    have bound := MqttMessage.length_le_of_mem_feed member
    have whole : next.message.buffer = next.first :: tail := nextBytes
    rw [whole] at bound
    simp only [MqttMessage.reset_buffer, List.length_cons, List.length_nil]
      at bound
    omega
  · have started := (behind [next.first]
      (by
        rw [List.flatMap_cons, nextBytes]
        exact List.prefix_append [next.first] _)).starts
    rw [Decoder.feed_singleton, receive_message_untyped] at started
    refine started rfl ?_
    rw [List.length_singleton, insideRejected_of_lt (by omega)]
    exact ⟨Nat.one_pos, inLimit⟩

/-- A stream that stays in step with the decoder is harmless. -/
theorem harmless_of_unsmuggled
    (wellFormed : ∀ packet ∈ packets, packet.WellFormed)
    (isReset : message.IsReset)
    (unsmuggled :
      ∀ fed, fed <+: packets.flatMap bytes →
        Unsmuggled packets fed.length
          (Decoder.feed receive message fed).1
          (Decoder.feed receive message fed).2) :
    Harmless packets := by
  induction packets generalizing message with
  | nil => exact ⟨by simp, by simp⟩
  | cons packet rest inductionHypothesis =>
      have wellFormedPacket := wellFormed packet List.mem_cons_self
      have short := short_of_unsmuggled isReset unsmuggled
      cases rest with
      | nil =>
          refine ⟨fun other member => ?_, by simp⟩
          obtain rfl := List.mem_singleton.mp member
          exact short
      | cons next later =>
          have wellFormedNext := wellFormed next (by simp)
          have typed (fits : packet.bytes.length ≤ maxBufferLength) :
              packet.first &&& 0xF0 ≠ 0 :=
            typed_of_unsmuggled wellFormedPacket wellFormedNext fits isReset
              unsmuggled
          obtain ⟨handed, isResetAfter | ⟨fits, untyped, _⟩⟩ :=
            feed_harmless wellFormedPacket short isReset
          · have rest :=
              inductionHypothesis
                (fun other member =>
                  wellFormed other (List.mem_cons_of_mem _ member))
                isResetAfter
                (fun fed isPrefix =>
                  unsmuggled_behind handed unsmuggled isPrefix)
            constructor
            case short =>
              intro other member
              rcases List.mem_cons.mp member with rfl | inRest
              · exact short
              · exact rest.short other inRest
            case typed =>
              intro other member
              rw [List.dropLast_cons_of_ne_nil (by simp)] at member
              rcases List.mem_cons.mp member with rfl | inRest
              · exact typed
              · exact rest.typed other inRest
          · exact absurd untyped (typed fits)

end Packet

end SimpleTlsBroker
