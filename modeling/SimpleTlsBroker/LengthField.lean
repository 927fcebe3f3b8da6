import Mathlib.Data.List.Induction
import SimpleTlsBroker.Smuggling

namespace SimpleTlsBroker

/-!
# The length field

`incoming` keeps no position: it knows the first length byte by the sentinel
in `size` and shifts every later one by seven bits.  A message is complete when
as many bytes have come as the length bytes sum up to in this way, which is the
announced length for one and two of them, and beyond that only for lengths
whose third and fourth group are zero.
-/

namespace MqttMessage

variable {message : MqttMessage}

/-- The length field of a message that is being received. -/
def lengthField (message : MqttMessage) : List Byte :=
  VarInt.leading (message.buffer.drop 1)

/-- What `incoming` makes of length bytes. -/
def summed (groups : List Byte) : Nat :=
  groups.foldl nextSize maxBufferLength

/-- The bytes of a message with complete length field. -/
structure HasLength
    (message : MqttMessage)
    (first : Byte)
    (groups body : List Byte) : Prop where
  buffer : message.buffer = first :: (groups ++ body)
  wellFormed : VarInt.WellFormed groups
  vheader : message.vheader = (1 + groups.length) % 256
  bounded : summed groups ≤ maxBufferLength
  missing : message.size + body.length = summed groups

/-- What the receive buffer holds in each state. -/
def Receiving (message : MqttMessage) : Prop :=
  match message.state with
  | .fixedHeader => message.IsReset
  | .length =>
      ∃ first groups, message.buffer = first :: groups ∧
        (∀ byte ∈ groups, 128 ≤ byte.toNat) ∧
          message.size = summed groups
  | .variableHeader =>
      0 < message.size ∧
        ∃ first groups body, message.HasLength first groups body
  | .complete =>
      message.size = 0 ∧
        ∃ first groups body, message.HasLength first groups body
  | .error => True
  | .payLoad | .create => False

/-- A reset message is a receive buffer. -/
theorem receiving_of_isReset
    (isReset : message.IsReset) :
    message.Receiving := by
  unfold Receiving
  rw [isReset.2.1]
  exact isReset

/-- One more length byte. -/
theorem summed_concat
    (groups : List Byte)
    (byte : Byte) :
    summed (groups ++ [byte]) = nextSize (summed groups) byte := by
  simp [summed]

/-! ## What one byte does -/

/-- A length byte after which the packet does not fit. -/
theorem incoming_length_rejected
    {inByte : Byte}
    (state : message.state = .length)
    (room : message.buffer.length < maxBufferLength)
    (large : maxBufferLength < nextSize message.size inByte) :
    (message.incoming inByte).state = .error := by
  rcases message with ⟨buffer, vheader, size, messageState⟩
  simp only at state room large
  subst messageState
  have sizeEq :
      (if size = maxBufferLength then
          (inByte &&& 0x7F).toNat
        else
          (size + (inByte &&& 0x7F).toNat <<< 7) % 65536) =
        nextSize size inByte := by
    simp only [nextSize, toNat_and_7F, Nat.shiftLeft_eq]
  have short : ¬ buffer.length + 1 > maxBufferLength := by omega
  unfold incoming
  simp only [incomingState, incomingLength, sizeEq, if_pos large,
    List.length_append, List.length_singleton, if_neg short]

/-- The first byte opens the length field. -/
theorem receiving_first
    (isReset : message.IsReset)
    (inByte : Byte) :
    (message.incoming inByte).Receiving := by
  rw [incoming_fixedHeader isReset]
  exact ⟨inByte, [], rfl, by simp, rfl⟩

/-- A length byte. -/
theorem receiving_length
    {first : Byte}
    {groups : List Byte}
    (state : message.state = .length)
    (buffer : message.buffer = first :: groups)
    (announces : ∀ byte ∈ groups, 128 ≤ byte.toNat)
    (size : message.size = summed groups)
    (room : message.buffer.length < maxBufferLength)
    (inByte : Byte) :
    (message.incoming inByte).Receiving := by
  have next : nextSize message.size inByte = summed (groups ++ [inByte]) := by
    rw [size, summed_concat]
  by_cases bounded : nextSize message.size inByte ≤ maxBufferLength
  · have taken := incoming_length inByte state room bounded
    by_cases more : 128 ≤ inByte.toNat
    · rw [if_pos more] at taken
      have announces' : ∀ byte ∈ groups ++ [inByte], 128 ≤ byte.toNat := by
        intro byte member
        rcases List.mem_append.mp member with earlier | isLast
        · exact announces byte earlier
        · rw [List.mem_singleton.mp isLast]
          exact more
      rw [taken]
      unfold Receiving
      simp only [state]
      exact ⟨first, groups ++ [inByte], by rw [buffer]; rfl, announces', next⟩
    · rw [if_neg more] at taken
      have fields :
          (message.incoming inByte).HasLength first (groups ++ [inByte])
            [] := by
        rw [taken]
        refine ⟨by simp [buffer], ?_, ?_, ?_, next⟩
        · exact VarInt.wellFormed_concat announces (Nat.not_le.mp more)
        · simp only [buffer, List.length_cons, List.length_append,
            List.length_nil]
          omega
        · exact next ▸ bounded
      unfold Receiving
      by_cases isEmpty : nextSize message.size inByte = 0
      · rw [if_pos isEmpty] at taken
        have complete : (message.incoming inByte).state = .complete := by
          rw [taken]
        rw [complete]
        exact ⟨by rw [taken]; exact isEmpty, _, _, _, fields⟩
      · rw [if_neg isEmpty] at taken
        have isOpen :
            (message.incoming inByte).state = .variableHeader := by
          rw [taken]
        rw [isOpen]
        refine ⟨?_, _, _, _, fields⟩
        rw [taken]
        exact Nat.pos_of_ne_zero isEmpty
  · have rejected :=
      incoming_length_rejected state room (Nat.not_le.mp bounded)
    unfold Receiving
    rw [rejected]
    trivial

/-- A byte of the body. -/
theorem receiving_body
    {first : Byte}
    {groups body : List Byte}
    (state : message.state = .variableHeader)
    (positive : 0 < message.size)
    (fields : message.HasLength first groups body)
    (room : message.buffer.length < maxBufferLength)
    (inByte : Byte) :
    (message.incoming inByte).Receiving := by
  have missing := fields.missing
  have bounded := fields.bounded
  have taken :=
    incoming_variableHeader state positive (by omega) room inByte
  have fields' :
      (message.incoming inByte).HasLength first groups
        (body ++ [inByte]) := by
    rw [taken]
    refine ⟨by simp [fields.buffer], fields.wellFormed, fields.vheader,
      bounded, ?_⟩
    simp only [List.length_append, List.length_singleton]
    omega
  unfold Receiving
  by_cases last : message.size = 1
  · rw [if_pos last] at taken
    have complete : (message.incoming inByte).state = .complete := by
      rw [taken]
    rw [complete]
    refine ⟨?_, _, _, _, fields'⟩
    rw [taken, last]
  · rw [if_neg last] at taken
    have isOpen : (message.incoming inByte).state = .variableHeader := by
      rw [taken]
    rw [isOpen]
    refine ⟨?_, _, _, _, fields'⟩
    rw [taken]
    exact Nat.sub_pos_of_lt (by omega)

/-- Every byte leaves a receive buffer. -/
theorem receiving_incoming
    (receiving : message.Receiving)
    (inByte : Byte) :
    (message.incoming inByte).Receiving := by
  rcases message.incoming_grows_or_resets inByte with
    ⟨_, isOpen, room⟩ | isReset
  · unfold Receiving at receiving
    cases state : message.state with
    | fixedHeader =>
        rw [state] at receiving
        exact receiving_first receiving inByte
    | length =>
        rw [state] at receiving
        obtain ⟨first, groups, buffer, announces, size⟩ := receiving
        exact receiving_length state buffer announces size room inByte
    | variableHeader =>
        rw [state] at receiving
        obtain ⟨positive, first, groups, body, fields⟩ := receiving
        exact receiving_body state positive fields room inByte
    | complete | error =>
        refine absurd ?_ isOpen
        rcases message with ⟨buffer, vheader, size, _⟩
        subst state
        rfl
    | payLoad | create =>
        rw [state] at receiving
        exact receiving.elim
  · exact receiving_of_isReset isReset

/-- So do all bytes of a stream. -/
theorem receiving_foldl
    (bytes : List Byte)
    (receiving : message.Receiving) :
    (bytes.foldl incoming message).Receiving := by
  induction bytes generalizing message with
  | nil => exact receiving
  | cons byte rest inductionHypothesis =>
      exact inductionHypothesis (receiving_incoming receiving byte)

/-- The buffer holds the last bytes of the stream. -/
theorem buffer_suffix
    (bytes : List Byte)
    (empty : message.buffer = []) :
    (bytes.foldl incoming message).buffer <:+ bytes := by
  induction bytes using List.reverseRecOn with
  | nil => simp [empty]
  | append_singleton earlier byte inductionHypothesis =>
      rw [List.foldl_append]
      rcases (earlier.foldl incoming message).incoming_grows_or_resets byte
        with ⟨grown, _⟩ | isReset
      · obtain ⟨front, split⟩ := inductionHypothesis
        refine ⟨front, ?_⟩
        rw [List.foldl_cons, List.foldl_nil, grown, ← List.append_assoc,
          split]
      · rw [List.foldl_cons, List.foldl_nil, isReset.1]
        exact List.nil_suffix

/-! ## Sums and values -/

/-- The lengths that up to four length bytes encode and `incoming` decodes. -/
def DecodesLength (groups : List Byte) : Prop :=
  groups.length ≤ 4 ∧
    VarInt.value groups < 16384 ∧
      (groups.length ≤ 2 ∨ VarInt.value groups ≠ maxBufferLength)

instance (groups : List Byte) : Decidable (DecodesLength groups) :=
  inferInstanceAs
    (Decidable
      (groups.length ≤ 4 ∧
        VarInt.value groups < 16384 ∧
          (groups.length ≤ 2 ∨ VarInt.value groups ≠ maxBufferLength)))

/-- A length byte starts again after the sentinel, and is added otherwise. -/
theorem nextSize_cases
    (size : Nat)
    (byte : Byte) :
    size = 4096 ∧ nextSize size byte = byte.toNat % 128 ∨
      size ≠ 4096 ∧
        nextSize size byte = (size + byte.toNat % 128 * 128) % 65536 := by
  unfold nextSize
  by_cases sentinel : size = maxBufferLength
  · exact .inl ⟨sentinel, if_pos sentinel⟩
  · exact .inr ⟨sentinel, if_neg sentinel⟩

/-- One length byte. -/
theorem summed_one (first : Byte) :
    summed [first] = first.toNat % 128 := by
  simp [summed, nextSize]

/-- Two length bytes. -/
theorem summed_two (first second : Byte) :
    summed [first, second] =
      first.toNat % 128 + second.toNat % 128 * 128 := by
  have notSentinel : first.toNat % 128 ≠ maxBufferLength := by
    simp only [maxBufferLength]
    omega
  have taken := summed_concat [first] second
  rw [summed_one, nextSize, if_neg notSentinel] at taken
  exact taken.trans (Nat.mod_eq_of_lt (by omega))

/-- One length byte more. -/
theorem summed_concat_cases
    (earlier : List Byte)
    (byte : Byte) :
    summed earlier = 4096 ∧
        summed (earlier ++ [byte]) = byte.toNat % 128 ∨
      summed earlier ≠ 4096 ∧
        summed (earlier ++ [byte]) =
          (summed earlier + byte.toNat % 128 * 128) % 65536 := by
  rw [summed_concat]
  exact nextSize_cases (summed earlier) byte

/-- Three length bytes, of which the first two may sum up to the sentinel. -/
theorem summed_three_cases (first second third : Byte) :
    summed [first, second] = 4096 ∧
        summed [first, second, third] = third.toNat % 128 ∨
      summed [first, second] ≠ 4096 ∧
        summed [first, second, third] =
          summed [first, second] + third.toNat % 128 * 128 := by
  rcases summed_concat_cases [first, second] third with
    sentinel | ⟨ordinary, sum⟩
  · exact .inl sentinel
  · refine .inr ⟨ordinary, sum.trans (Nat.mod_eq_of_lt ?_)⟩
    rw [summed_two]
    omega

/-- Up to four length bytes are summed up to their value in these cases. -/
theorem summed_eq_value_iff
    {groups : List Byte}
    (wellFormed : VarInt.WellFormed groups)
    (short : groups.length ≤ 4)
    (bounded : summed groups ≤ maxBufferLength) :
    summed groups = VarInt.value groups ↔ DecodesLength groups := by
  have small (byte : Byte) : byte.toNat % 128 < 128 :=
    Nat.mod_lt _ (by omega)
  unfold DecodesLength
  match groups, wellFormed, short, bounded with
  | [first], _, _, bounded =>
      have := small first
      simp only [summed_one, VarInt.value, List.length_singleton]
      omega
  | [first, second], _, _, bounded =>
      have := small first
      have := small second
      rw [summed_two] at bounded ⊢
      simp only [VarInt.value, List.length_cons, List.length_nil]
      omega
  | [first, second, third], _, _, bounded =>
      have first_lt := small first
      have second_lt := small second
      have third_lt := small third
      have cases := summed_three_cases first second third
      rw [summed_two] at cases
      simp only [VarInt.value, List.length_cons, List.length_nil,
        maxBufferLength] at bounded ⊢
      generalize first.toNat % 128 = a, second.toNat % 128 = b,
        third.toNat % 128 = c at *
      -- The first two groups may sum up to the sentinel.
      rcases cases with ⟨sentinel, sum⟩ | ⟨ordinary, sum⟩
      · omega
      · omega
  | [first, second, third, fourth], _, _, bounded =>
      have first_lt := small first
      have second_lt := small second
      have third_lt := small third
      have fourth_lt := small fourth
      have cases := summed_three_cases first second third
      have lastCases := summed_concat_cases [first, second, third] fourth
      rw [summed_two] at cases
      simp only [List.cons_append, List.nil_append] at lastCases
      simp only [VarInt.value, List.length_cons, List.length_nil,
        maxBufferLength] at bounded ⊢
      generalize first.toNat % 128 = a, second.toNat % 128 = b,
        third.toNat % 128 = c, fourth.toNat % 128 = d at *
      -- So may the first three.
      rcases cases with ⟨sentinel, sum⟩ | ⟨ordinary, sum⟩
      · rcases lastCases with ⟨sentinel', sum'⟩ | ⟨ordinary', sum'⟩
        · omega
        · rw [sum, Nat.mod_eq_of_lt (by omega)] at sum'
          omega
      · rcases lastCases with ⟨sentinel', sum'⟩ | ⟨ordinary', sum'⟩
        · omega
        · rw [sum, Nat.mod_eq_of_lt (by omega)] at sum'
          omega

/-! ## Complete messages -/

/--
The length field of a complete message is one that MQTT allows, its value is
within the limit and the length of the body, and the body starts behind it.
-/
structure LengthDecoded (message : MqttMessage) : Prop where
  wellFormed : VarInt.WellFormed message.lengthField
  short : message.lengthField.length ≤ 4
  inLimit : VarInt.value message.lengthField ≤ maxBufferLength
  body :
    message.buffer.length =
      message.vheader + VarInt.value message.lengthField
  vheader : message.vheader = 1 + message.lengthField.length

/-- The length field of a message is found in its buffer. -/
theorem HasLength.lengthField
    {first : Byte}
    {groups body : List Byte}
    (fields : message.HasLength first groups body) :
    message.lengthField = groups := by
  rw [MqttMessage.lengthField, fields.buffer, List.drop_one, List.tail_cons]
  exact VarInt.leading_append fields.wellFormed body

/--
Whatever bytes a receive buffer is fed, when it is complete it holds the last
ones of them, and the length is decoded as announced if and only if the length
field has at most four bytes, the groups behind the second are zero, and it is
not a long form of 4096.
-/
theorem lengthDecoded_iff
    (isReset : message.IsReset)
    (bytes : List Byte)
    (complete : (bytes.foldl incoming message).state = .complete) :
    (bytes.foldl incoming message).buffer <:+ bytes ∧
      ((bytes.foldl incoming message).LengthDecoded ↔
        DecodesLength (bytes.foldl incoming message).lengthField) := by
  have receiving := receiving_foldl bytes (receiving_of_isReset isReset)
  refine ⟨buffer_suffix bytes isReset.1, ?_⟩
  generalize bytes.foldl incoming message = received at complete receiving ⊢
  unfold Receiving at receiving
  rw [complete] at receiving
  obtain ⟨noneMissing, first, groups, body, fields⟩ := receiving
  have field := fields.lengthField
  have missing := fields.missing
  have bounded := fields.bounded
  have length :
      received.buffer.length = 1 + groups.length + body.length := by
    rw [fields.buffer, List.length_cons, List.length_append]
    omega
  rw [field]
  constructor
  · intro decoded
    have short := decoded.short
    have isBody := decoded.body
    have vheader := decoded.vheader
    rw [field] at short isBody vheader
    apply (summed_eq_value_iff fields.wellFormed short bounded).mp
    omega
  · intro decodes
    have short := decodes.1
    have isValue :=
      (summed_eq_value_iff fields.wellFormed short bounded).mpr decodes
    have vheader := fields.vheader
    rw [Nat.mod_eq_of_lt (by omega)] at vheader
    constructor
    case wellFormed =>
      rw [field]
      exact fields.wellFormed
    case short =>
      rw [field]
      exact short
    case inLimit =>
      rw [field]
      omega
    case body =>
      rw [field]
      omega
    case vheader =>
      rw [field]
      exact vheader

/-- A PUBLISH message with two length bytes. -/
theorem lengthDecoded_two_bytes :
    ([0x30, 0x82, 0x00, 0x61, 0x62].foldl incoming fresh).LengthDecoded :=
  (@lengthDecoded_iff fresh ⟨rfl, rfl, rfl⟩
    [0x30, 0x82, 0x00, 0x61, 0x62] (by decide)).2.mpr (by decide)

/--
A PUBLISH message that announces 36864 bytes is complete after two, and one
with five length bytes is complete as well.
-/
theorem not_lengthDecoded_long :
    (([0x30, 0x80, 0xA0, 0x02, 0x61, 0x62].foldl incoming fresh).type =
        MqttType.publish.code ∧
      ¬ ([0x30, 0x80, 0xA0, 0x02, 0x61, 0x62].foldl incoming
          fresh).LengthDecoded) ∧
    (([0x30, 0x81, 0x80, 0x80, 0x80, 0x00, 0x61].foldl incoming fresh).type =
        MqttType.publish.code ∧
      ¬ ([0x30, 0x81, 0x80, 0x80, 0x80, 0x00, 0x61].foldl incoming
          fresh).LengthDecoded) := by
  refine ⟨⟨by decide, ?_⟩, ⟨by decide, ?_⟩⟩
  · intro decoded
    exact absurd decoded.inLimit (by decide)
  · intro decoded
    exact absurd decoded.short (by decide)

end MqttMessage

end SimpleTlsBroker
