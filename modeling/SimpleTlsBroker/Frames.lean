import SimpleTlsBroker.Building
import SimpleTlsBroker.World
import SimpleTlsBroker.Library.Memory

namespace SimpleTlsBroker

/-!
# Fields of a frame in memory

A frame is a concatenation of fields.  `Memory.Holds` takes it apart, and the
readers of `processMessage` give back each field that stands at their cursor.
-/

open Memory

/-- A string behind its length, as `MqttMessage::add` writes it. -/
def stringField (text : List Byte) : List Byte :=
  (MqttMessage.AddCall.string text).added

@[simp] theorem length_stringField (text : List Byte) :
    (stringField text).length = text.length + 2 := by
  simp [stringField, MqttMessage.AddCall.added]

namespace Parse

variable {memory : Nat → Byte}
variable {offset : Nat}

/-- Two bytes, most significant first, as a number. -/
theorem word_of_bytes
    {number : Nat}
    (small : number < 65536) :
    (UInt8.ofNat (number >>> 8)).toNat <<< 8 |||
        (UInt8.ofNat (number &&& 0xFF)).toNat =
      number := by
  have high : number >>> 8 = number / 256 := Nat.shiftRight_eq_div_pow number 8
  have low : number &&& 0xFF = number % 256 :=
    Nat.and_two_pow_sub_one_eq_mod number 8
  rw [UInt8.toNat_ofNat', UInt8.toNat_ofNat', high, low,
    Nat.mod_eq_of_lt (by omega), Nat.mod_eq_of_lt (by omega),
    ← Nat.shiftLeft_add_eq_or_of_lt (by omega), Nat.shiftLeft_eq]
  omega

/-- `getString` finds the length of a string field. -/
theorem run_getString
    {text : List Byte}
    (holds : Holds memory offset (stringField text))
    (short : text.length < 65536) :
    (getString offset).run memory = (offset + 2, text.length) := by
  obtain ⟨high, low, _⟩ := holds
  simp only [getString, readWord, run_bind, run_pure, run_readByte, high,
    low, word_of_bytes short]

/-- The characters of a string field stand behind its length. -/
theorem holds_text
    {text : List Byte}
    (holds : Holds memory offset (stringField text)) :
    Holds memory (offset + 2) text :=
  holds.2.2

/-- A text is read from where it stands. -/
theorem run_readSlice_text
    {text : List Byte}
    (holds : Holds memory offset text) :
    (readSlice offset text.length).run memory = text :=
  holds.map_range

/-- A `Topic` is constructed from the beginning of a text. -/
theorem run_readSlice_cut
    {text : List Byte}
    (holds : Holds memory offset text) :
    (readSlice offset (text.length % 256)).run memory = Topic.cut text := by
  have taken := run_readSlice_text (holds.take (text.length % 256))
  rwa [List.length_take_of_le (Nat.mod_le _ _)] at taken

end Parse

/-- The memory of a message begins with its buffer. -/
theorem World.holds_memory
    {Index Os : Type}
    [Platform Os]
    (world : World Index Os)
    (mesg : MqttMessage) :
    Holds (world.memory mesg) 0 mesg.buffer := by
  apply holds_of_getElem
  intro index inBuffer
  simp [memory, List.getElem?_eq_getElem inBuffer]

/-- The body of a packet stands behind its header. -/
theorem Packet.holds_body
    {Index Os : Type}
    [Platform Os]
    (world : World Index Os)
    (packet : Packet) :
    Holds (world.memory packet.message) packet.message.vheader
      packet.body := by
  have whole := world.holds_memory packet.message
  simp only [message, bytes] at whole ⊢
  rw [holds_cons, holds_append] at whole
  rw [Nat.zero_add] at whole
  exact whole.2.2

/-- The buffer of a packet ends with its body. -/
theorem Packet.end_message (packet : Packet) :
    packet.message.buffer.length =
      packet.message.vheader + packet.body.length :=
  packet.length_bytes

end SimpleTlsBroker
