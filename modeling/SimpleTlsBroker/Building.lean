import SimpleTlsBroker.Framing

namespace SimpleTlsBroker

/-!
# Building messages

A message is built by `create`, any number of calls of `add`, and
`encodeLength`.  The encoder and the decoder share only `incoming`, in two
different states; within the buffer limit the decoder gives back what was
built.
-/

namespace MqttMessage

/-- A call of one of the overloads of `add`. -/
inductive AddCall where
  | byte (inByte : Byte)
  | bytes (text : List Byte)
  | string (text : List Byte)
  deriving Repr, DecidableEq

namespace AddCall

/-- Make the call. -/
def apply
    (message : MqttMessage) : AddCall → MqttMessage
  | .byte inByte => message.add inByte
  | .bytes text => message.addBytes text
  | .string text => message.addString text

/-- The bytes a call adds. -/
def added : AddCall → List Byte
  | .byte inByte => [inByte]
  | .bytes text => text
  | .string text =>
      UInt8.ofNat (text.length >>> 8) ::
        UInt8.ofNat (text.length &&& 0xFF) :: text

/-- A call feeds the bytes it adds to `incoming`. -/
theorem apply_eq_foldl
    (message : MqttMessage)
    (call : AddCall) :
    call.apply message = call.added.foldl incoming message := by
  cases call <;> rfl

/-- So does a sequence of calls. -/
theorem foldl_apply
    (calls : List AddCall)
    (message : MqttMessage) :
    calls.foldl apply message =
      (calls.flatMap added).foldl incoming message := by
  induction calls generalizing message with
  | nil => rfl
  | cons call rest inductionHypothesis =>
      simp [apply_eq_foldl, inductionHypothesis]

end AddCall

/-- Bytes added while there is room for them are appended. -/
theorem foldl_incoming_create
    (bytes : List Byte)
    (message : MqttMessage)
    (state : message.state = .create)
    (room : message.buffer.length + bytes.length ≤ maxBufferLength) :
    (bytes.foldl incoming message).buffer = message.buffer ++ bytes ∧
      (bytes.foldl incoming message).state = .create := by
  induction bytes generalizing message with
  | nil => simp [state]
  | cons byte rest inductionHypothesis =>
      simp only [List.length_cons] at room
      have taken := incoming_create state (by omega) byte
      have later :=
        inductionHypothesis (message.incoming byte)
          (by rw [taken]; exact state)
          (by
            rw [taken]
            simp only [List.length_append, List.length_singleton]
            omega)
      rw [taken] at later
      simpa [taken] using later

/-- Small numbers are their own `char`. -/
theorem toChar_natCast
    {number : Nat}
    (small : number < 256) :
    toChar number = UInt8.ofNat number := by
  unfold toChar
  congr 1
  omega

/-- Closing a message writes the shortest encoding of its length. -/
theorem encoded_built
    (first : Byte)
    (added : List Byte)
    {message : MqttMessage}
    (state : message.state = .create)
    (buffer : message.buffer = first :: 0 :: 0 :: added)
    (bounded : added.length < 16384) :
    message.encoded =
      { message with
        buffer := first :: (VarInt.encode added.length ++ added)
        vheader := 1 + (VarInt.encode added.length).length
        state := .complete } := by
  rcases message with ⟨_, vheader, size, _⟩
  simp only at state buffer
  subst state buffer
  have lengthEq :
      (((first :: 0 :: 0 :: added).length : Nat) : Int) - 3 =
        (added.length : Int) := by
    simp only [List.length_cons]
    omega
  simp only [encoded, lengthEq]
  by_cases small : added.length < 128
  · have smallInt : (added.length : Int) ≤ 0x7F := by omega
    have char := toChar_natCast (show added.length < 256 by omega)
    simp [smallInt, VarInt.encode_of_lt small, char]
  · have largeInt : ¬ (added.length : Int) ≤ 0x7F := by omega
    have highSmall : added.length / 128 < 128 := by omega
    have low :
        toChar (0x80 + (added.length : Int) % 0x80) =
          UInt8.ofNat (128 + added.length % 128) := by
      have cast :
          (0x80 + (added.length : Int) % 0x80) =
            ((128 + added.length % 128 : Nat) : Int) := by
        omega
      rw [cast, toChar_natCast (by omega)]
    have high :
        toChar ((added.length : Int) / 0x80) =
          UInt8.ofNat (added.length / 128) := by
      have cast :
          (added.length : Int) / 0x80 =
            ((added.length / 128 : Nat) : Int) := by
        omega
      rw [cast, toChar_natCast (by omega)]
    simp [largeInt, VarInt.encode_of_ge (show 128 ≤ added.length by omega),
      VarInt.encode_of_lt highSmall, low, high]

/-- A complete message is encoded already. -/
@[simp] theorem encoded_of_complete
    {message : MqttMessage}
    (complete : message.state = .complete) :
    message.encoded = message := by
  simp [encoded, complete]

/-- The packet that a message under construction becomes. -/
def builtPacket
    (first : Byte)
    (added : List Byte) : Packet where
  first := first
  lengthBytes := VarInt.encode added.length
  body := added

theorem wellFormed_builtPacket
    (first : Byte)
    (added : List Byte)
    (bounded : added.length < 16384) :
    (builtPacket first added).WellFormed where
  groups := VarInt.wellFormed_encode _
  short := Nat.le_trans (VarInt.length_encode_le_two bounded) (by omega)
  encodes := VarInt.value_encode _

/-- A built packet within the limit leaves room for two length bytes. -/
theorem length_added_le
    {first : Byte}
    {added : List Byte}
    (fits : (builtPacket first added).bytes.length ≤ maxBufferLength) :
    added.length ≤ 4093 := by
  rw [Packet.length_bytes] at fits
  simp only [builtPacket, maxBufferLength] at fits
  by_cases small : added.length < 128
  · omega
  · rw [VarInt.encode_of_ge (by omega), List.length_cons] at fits
    have more :=
      List.length_pos_iff.mpr (VarInt.encode_ne_nil (added.length / 128))
    omega

/-- What a sequence of calls collects. -/
theorem buffer_calls
    (type flags : Byte)
    (calls : List AddCall)
    (bounded : (calls.flatMap AddCall.added).length ≤ 4093) :
    (calls.foldl AddCall.apply (ofType type flags)).buffer =
        (type ||| flags) :: 0 :: 0 :: calls.flatMap AddCall.added ∧
      (calls.foldl AddCall.apply (ofType type flags)).state = .create := by
  rw [AddCall.foldl_apply]
  exact
    foldl_incoming_create (calls.flatMap AddCall.added)
      (ofType type flags) rfl
      (by simp only [ofType, create, List.length_cons, List.length_nil,
            maxBufferLength]; omega)

/-- What a sequence of calls builds, as a packet. -/
theorem encoded_calls
    (type flags : Byte)
    (calls : List AddCall)
    (bounded : (calls.flatMap AddCall.added).length ≤ 4093) :
    (calls.foldl AddCall.apply (ofType type flags)).encoded =
      { calls.foldl AddCall.apply (ofType type flags) with
        buffer :=
          (builtPacket (type ||| flags) (calls.flatMap AddCall.added)).bytes
        vheader :=
          (builtPacket (type ||| flags)
            (calls.flatMap AddCall.added)).message.vheader
        state := .complete } := by
  obtain ⟨buffer, state⟩ := buffer_calls type flags calls bounded
  exact encoded_built (type ||| flags) (calls.flatMap AddCall.added)
    state buffer (by omega)

/-- What fits into a message under construction makes a packet in the limit. -/
theorem fits_builtPacket
    (first : Byte)
    {added : List Byte}
    (bounded : added.length ≤ 4093) :
    (builtPacket first added).bytes.length ≤ maxBufferLength := by
  have lengthTwo : (VarInt.encode added.length).length ≤ 2 :=
    VarInt.length_encode_le_two (by omega)
  rw [Packet.length_bytes]
  simp only [builtPacket, maxBufferLength]
  omega

/-- What fits into a message under construction is received again. -/
theorem reaches_builtPacket
    (first : Byte)
    {added : List Byte}
    (bounded : added.length ≤ 4093)
    {received : MqttMessage}
    (isReset : received.IsReset) :
    Reaches received (builtPacket first added).bytes
      (builtPacket first added).message := by
  have wellFormed := wellFormed_builtPacket first added (by omega)
  exact Packet.reaches_bytes wellFormed (fits_builtPacket first bounded)
    isReset

/-- What a sequence of calls collects can be encoded. -/
theorem encodeLength_calls
    (type flags : Byte)
    (calls : List AddCall)
    (bounded : (calls.flatMap AddCall.added).length ≤ 4093) :
    (calls.foldl AddCall.apply (ofType type flags)).encodeLength =
      some (calls.foldl AddCall.apply (ofType type flags)).encoded := by
  obtain ⟨buffer, _⟩ := buffer_calls type flags calls bounded
  have long :
      3 ≤ (calls.foldl AddCall.apply (ofType type flags)).buffer.length := by
    rw [buffer]
    simp only [List.length_cons]
    omega
  rw [encodeLength_eq, if_pos (.inr long)]

/--
What the builder encodes, the receiver decodes: the same bytes, type, flags
and header offset, complete at the last byte and not before.
-/
theorem encode_decode_round_trip
    (type flags : Byte)
    (calls : List AddCall)
    (bounded : (calls.flatMap AddCall.added).length ≤ 4093) :
    let added := calls.flatMap AddCall.added
    ∃ built,
      (calls.foldl AddCall.apply (ofType type flags)).encodeLength =
          some built ∧
        built.buffer =
            (type ||| flags) :: (VarInt.encode added.length ++ added) ∧
        built.buffer.drop built.vheader = added ∧
        built.state = .complete ∧
        built.type = (type ||| flags) &&& 0xF0 ∧
        built.flags = (type ||| flags) &&& 0x0F ∧
        built.encodeLength = some built ∧
        ∀ received : MqttMessage, received.IsReset →
          (∀ earlier later, built.buffer = earlier ++ later → later ≠ [] →
            (earlier.foldl incoming received).state ≠ .complete) ∧
          (built.buffer.foldl incoming received).state = .complete ∧
          (built.buffer.foldl incoming received).buffer = built.buffer ∧
          (built.buffer.foldl incoming received).type = built.type ∧
          (built.buffer.foldl incoming received).flags = built.flags ∧
          (built.buffer.foldl incoming received).vheader =
            built.vheader := by
  intro added
  refine ⟨_, encodeLength_calls type flags calls bounded, ?_⟩
  generalize isBuilt :
    (calls.foldl AddCall.apply (ofType type flags)).encoded = built
  have built_eq :
      built =
        { calls.foldl AddCall.apply (ofType type flags) with
          buffer := (builtPacket (type ||| flags) added).bytes
          vheader := (builtPacket (type ||| flags) added).message.vheader
          state := .complete } :=
    isBuilt.symm.trans (encoded_calls type flags calls bounded)
  have complete : built.state = .complete := by rw [built_eq]
  refine ⟨by rw [built_eq]; rfl, ?_, complete, by rw [built_eq]; rfl,
    by rw [built_eq]; rfl, ?_, ?_⟩
  · rw [built_eq]
    simp [builtPacket, Packet.bytes, Packet.message, Nat.add_comm 1]
  · rw [encodeLength_eq, if_pos (.inl complete), encoded_of_complete complete]
  · intro received isReset
    have reaches :=
      reaches_builtPacket (type ||| flags) bounded isReset
    have final := reaches.foldl_eq
    have bufferEq :
        built.buffer = (builtPacket (type ||| flags) added).bytes := by
      rw [built_eq]
    refine ⟨?_, ?_⟩
    · intro earlier later split proper
      by_cases empty : earlier = []
      · subst earlier
        simp [isReset.2.1]
      · exact reaches.incomplete_before
          (bufferEq.symm.trans split) empty proper
    · rw [bufferEq, final, built_eq]
      exact ⟨rfl, rfl, rfl, rfl, rfl⟩

/-- A text of 128 bytes is the first whose message has two length bytes. -/
def longCalls : List AddCall := [.byte 0x61, .bytes (List.replicate 127 0x62)]

/-- The round trip of such a message. -/
theorem encode_decode_round_trip_long :
    ∃ built,
      (longCalls.foldl AddCall.apply
          (ofType MqttType.publish.code 0)).encodeLength = some built ∧
        built.buffer.take 4 = [0x30, 0x80, 0x01, 0x61] ∧
          built.encodeLength = some built ∧
            (built.buffer.foldl incoming fresh).state = .complete ∧
              (built.buffer.foldl incoming fresh).buffer = built.buffer := by
  have added :
      longCalls.flatMap AddCall.added = 0x61 :: List.replicate 127 0x62 := rfl
  have length : (longCalls.flatMap AddCall.added).length = 128 := by
    rw [added, List.length_cons, List.length_replicate]
  have lengthBytes : VarInt.encode 128 = [0x80, 0x01] := by
    rw [VarInt.encode_of_ge (by decide), VarInt.encode_of_lt (by decide)]
    rfl
  obtain ⟨built, encodes, buffer, _, _, _, _, again, decodes⟩ :=
    encode_decode_round_trip MqttType.publish.code 0 longCalls (by omega)
  obtain ⟨_, complete, same, _⟩ := decodes fresh ⟨rfl, rfl, rfl⟩
  refine ⟨built, encodes, ?_, again, complete, same⟩
  rw [buffer, length, lengthBytes, added]
  rfl

end MqttMessage

end SimpleTlsBroker
