import Mathlib.Tactic.Common

namespace SimpleTlsBroker

/-!
# MQTT messages

`MqttMessage` is at once the receive buffer of a connection and the builder of
outgoing messages.  Both uses feed bytes to `incoming`; the `state` decides
what the counter `size` means: a sentinel before the first length byte, the
sum of the length bytes read so far, the bytes still missing, or the bytes
added.  The 8-bit and 16-bit fields are natural numbers reduced where the
source stores them.
-/

/-- A `char` of the target, where plain `char` is unsigned. -/
abbrev Byte := UInt8

/-- The enumerators of `MqttMessage::Type`. -/
inductive MqttType where
  | unknown
  | connect
  | connAck
  | publish
  | pubAck
  | subscribe
  | subAck
  | unSubscribe
  | unSuback
  | pingReq
  | pingResp
  | disconnect
  deriving Repr, DecidableEq

namespace MqttType

/-- The value of an enumerator: the upper nibble of the first message byte. -/
def code : MqttType → Byte
  | .unknown => 0x00
  | .connect => 0x10
  | .connAck => 0x20
  | .publish => 0x30
  | .pubAck => 0x40
  | .subscribe => 0x80
  | .subAck => 0x90
  | .unSubscribe => 0xA0
  | .unSuback => 0xB0
  | .pingReq => 0xC0
  | .pingResp => 0xD0
  | .disconnect => 0xE0

/-- The enumerator with a given value.  Values such as `0x50` have none. -/
def ofCode? (value : Byte) : Option MqttType :=
  [.unknown, .connect, .connAck, .publish, .pubAck, .subscribe, .subAck,
    .unSubscribe, .unSuback, .pingReq, .pingResp, .disconnect].find?
      fun type => type.code = value

/-- Every enumerator is found again by its value. -/
@[simp] theorem ofCode?_code (type : MqttType) :
    ofCode? type.code = some type := by
  cases type <;> rfl

/-- A value found belongs to the enumerator found. -/
theorem code_of_ofCode?
    {value : Byte}
    {type : MqttType}
    (found : ofCode? value = some type) :
    type.code = value := by
  have holds := List.find?_some found
  simpa using holds

end MqttType

namespace MqttMessage

/-- The receive states, and `create` for messages under construction. -/
inductive State where
  | fixedHeader
  | length
  | variableHeader
  | payLoad
  | complete
  | error
  | create
  deriving Repr, DecidableEq

/-- `MqttMessage::MaxBufferLength`. -/
def maxBufferLength : Nat := 4096

end MqttMessage

/-- A message being received or built. -/
structure MqttMessage where
  buffer : List Byte
  vheader : Nat
  size : Nat
  state : MqttMessage.State
  deriving Repr, DecidableEq

namespace MqttMessage

/-- Forget the bytes collected so far.  The header offset is left alone. -/
def reset (message : MqttMessage) : MqttMessage :=
  { message with
    buffer := []
    state := .fixedHeader
    size := 0 }

/-- A receive buffer as the constructor leaves it. -/
def fresh : MqttMessage where
  buffer := []
  vheader := 0
  size := 0
  state := .fixedHeader

/-- The `Length` case of `incoming`, after the byte was appended. -/
def incomingLength
    (message : MqttMessage)
    (inByte : Byte) : MqttMessage :=
  let size :=
    -- The value `maxBufferLength` marks the first length byte.
    if message.size = maxBufferLength then
      (inByte &&& 0x7F).toNat
    else
      (message.size + (inByte &&& 0x7F).toNat <<< 7) % 65536
  if size > maxBufferLength then
    { message with size := size, state := .error }
  else if inByte &&& 0x80 = 0 then
    { message with
      size := size
      vheader := message.buffer.length % 256
      state := if size = 0 then .complete else .variableHeader }
  else
    { message with size := size }

/-- The state switch of `incoming`, after the byte was appended. -/
def incomingState
    (message : MqttMessage)
    (inByte : Byte) : MqttMessage :=
  match message.state with
  | .fixedHeader =>
      { message with size := maxBufferLength, state := .length }
  | .length =>
      message.incomingLength inByte
  | .variableHeader | .payLoad =>
      let size := (message.size + 65535) % 65536
      { message with
        size := size
        state := if size = 0 then .complete else message.state }
  | .create =>
      { message with size := (message.size + 1) % 65536 }
  -- A byte after the end of a message, or after a rejected length.
  | .complete | .error =>
      message.reset

/-- Take one byte into the message. -/
def incoming
    (message : MqttMessage)
    (inByte : Byte) : MqttMessage :=
  let next :=
    { message with buffer := message.buffer ++ [inByte] }.incomingState inByte
  if next.buffer.length > maxBufferLength then
    next.reset
  else
    next

/-- Start building a message, with two bytes reserved for its length. -/
def create (type : Byte) : MqttMessage where
  buffer := [type, 0, 0]
  vheader := 3
  size := 0
  state := .create

/-- The constructor from a type and the four flag bits. -/
def ofType
    (type : Byte)
    (bits : Byte) : MqttMessage :=
  { create type with buffer := [type ||| bits, 0, 0] }

/-- Append one byte to a message under construction. -/
def add
    (message : MqttMessage)
    (byte : Byte) : MqttMessage :=
  message.incoming byte

/-- Append bytes, each through `incoming`. -/
def addBytes
    (message : MqttMessage)
    (bytes : List Byte) : MqttMessage :=
  bytes.foldl incoming message

/-- Append a string behind its length, most significant byte first. -/
def addString
    (message : MqttMessage)
    (bytes : List Byte) : MqttMessage :=
  ((message.incoming (UInt8.ofNat (bytes.length >>> 8))).incoming
    (UInt8.ofNat (bytes.length &&& 0xFF))).addBytes bytes

/-- Conversion of an `int` to `char`. -/
def toChar (value : Int) : Byte :=
  UInt8.ofNat (value % 256).toNat

/-- `buffer.erase(position, 1)`, which throws behind the end of the buffer. -/
def eraseAt
    (buffer : List Byte)
    (position : Nat) : Option (List Byte) :=
  if position ≤ buffer.length then
    some (buffer.eraseIdx position)
  else
    none

/-- `buffer[position] = byte`, which is undefined outside the buffer. -/
def writeAt
    (buffer : List Byte)
    (position : Nat)
    (byte : Byte) : Option (List Byte) :=
  if position < buffer.length then
    some (buffer.set position byte)
  else
    none

/--
Write the remaining length into the reserved bytes and close the message.
The second reserved byte is erased when one length byte is enough.  A message
that is complete already is left as it is.
-/
def encodeLength (message : MqttMessage) : Option MqttMessage :=
  if message.state ≠ .complete then
    let length : Int := (message.buffer.length : Int) - 3
    if length ≤ 0x7F then do
      let buffer ← eraseAt message.buffer 1
      let buffer ← writeAt buffer 1 (toChar length)
      some
        { message with
          buffer := buffer
          vheader := 2
          state := .complete }
    else do
      let buffer ← writeAt message.buffer 1 (toChar (0x80 + length % 0x80))
      let buffer ← writeAt buffer 2 (toChar (length / 0x80))
      some
        { message with
          buffer := buffer
          vheader := 3
          state := .complete }
  else
    some message

/-- The message that `encodeLength` leaves, where it stays inside the buffer. -/
def encoded (message : MqttMessage) : MqttMessage :=
  if message.state ≠ .complete then
    let length : Int := (message.buffer.length : Int) - 3
    if length ≤ 0x7F then
      { message with
        buffer := (message.buffer.eraseIdx 1).set 1 (toChar length)
        vheader := 2
        state := .complete }
    else
      { message with
        buffer :=
          (message.buffer.set 1 (toChar (0x80 + length % 0x80))).set 2
            (toChar (length / 0x80))
        vheader := 3
        state := .complete }
  else
    message

/-- Three bytes are enough for `encodeLength`, and no fewer. -/
theorem encodeLength_eq (message : MqttMessage) :
    message.encodeLength =
      if message.state = .complete ∨ 3 ≤ message.buffer.length then
        some message.encoded
      else
        none := by
  unfold encodeLength encoded
  by_cases complete : message.state = .complete
  · simp [complete]
  · by_cases long : 3 ≤ message.buffer.length
    · have erased : 1 < (message.buffer.eraseIdx 1).length := by
        rw [List.length_eraseIdx]
        split <;> omega
      have first : 1 < message.buffer.length := by omega
      have erasable : 1 ≤ message.buffer.length := by omega
      have second : 2 < message.buffer.length := long
      simp only [complete, long, ne_eq, not_false_eq_true, if_true, or_true,
        eraseAt, writeAt, erasable, erased, first, second, List.length_set,
        Option.bind_eq_bind, Option.bind_some]
      split <;> rfl
    · have short : (message.buffer.length : Int) - 3 ≤ 0x7F := by omega
      have erased : ¬ 1 < (message.buffer.eraseIdx 1).length := by
        rw [List.length_eraseIdx]
        split <;> omega
      simp only [complete, long, ne_eq, not_false_eq_true, if_true, or_self,
        if_false, short, eraseAt, writeAt]
      split
      · rw [Option.bind_eq_bind, Option.bind_some, if_neg erased]
        rfl
      · rfl

/-- What `encodeLength` returns is the encoded message. -/
theorem eq_encoded
    {message result : MqttMessage}
    (encodes : message.encodeLength = some result) :
    result = message.encoded := by
  rw [encodeLength_eq] at encodes
  split at encodes
  · exact (Option.some.inj encodes).symm
  · cases encodes

/-- The type of a complete message, `Unknown` before that. -/
def type (message : MqttMessage) : Byte :=
  if message.state = .complete then
    message.buffer.headD 0 &&& 0xF0
  else
    MqttType.unknown.code

/-- The four flag bits of the first byte. -/
def flags (message : MqttMessage) : Byte :=
  message.buffer.headD 0 &&& 0x0F

/-- The enumerator the dispatcher switches on, if the type nibble has one. -/
def kind? (message : MqttMessage) : Option MqttType :=
  MqttType.ofCode? (message.type &&& 0xF0)

/-- The states in which nothing of the next message has been received. -/
def IsReset (message : MqttMessage) : Prop :=
  message.buffer = [] ∧
    message.state = .fixedHeader ∧
      message.size = 0

@[simp] theorem reset_buffer (message : MqttMessage) :
    message.reset.buffer = [] := rfl

@[simp] theorem reset_state (message : MqttMessage) :
    message.reset.state = .fixedHeader := rfl

@[simp] theorem reset_size (message : MqttMessage) :
    message.reset.size = 0 := rfl

/-- Resetting reaches a reset message. -/
theorem isReset_reset (message : MqttMessage) :
    message.reset.IsReset :=
  ⟨rfl, rfl, rfl⟩

end MqttMessage

end SimpleTlsBroker
