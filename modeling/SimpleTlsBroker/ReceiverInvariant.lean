import SimpleTlsBroker.LengthField

namespace SimpleTlsBroker

/-!
# The receive buffer within its bounds

The counter of a receive buffer is a sentinel, a sum of length bytes or the
number of missing bytes.  It stays within `MaxBufferLength` wherever
`incoming` goes on with it, so neither the subtraction nor the addition wraps,
and the buffer is empty exactly when nothing of a message has been received.
-/

namespace MqttMessage

variable {message : MqttMessage}

/-- The states of a receive buffer. -/
def receiverStates : List State :=
  [.fixedHeader, .length, .variableHeader, .complete, .error]

/-- What holds of a receive buffer after every byte. -/
structure InBounds (message : MqttMessage) : Prop where
  length : message.buffer.length ≤ maxBufferLength
  state : message.state ∈ receiverStates
  empty : message.state = .fixedHeader ↔ message.buffer = []
  missing :
    message.state = .variableHeader →
      1 ≤ message.size ∧ message.size ≤ maxBufferLength

/--
The arithmetic of `incoming` stays within 16 bits: nothing is subtracted from
0, and no sum is beyond 65535.
-/
def CountsExactly (message : MqttMessage) (inByte : Byte) : Prop :=
  match message.state with
  | .length =>
      message.size = maxBufferLength ∨
        message.size + (inByte &&& 0x7F).toNat <<< 7 ≤ 65535
  | .variableHeader | .payLoad => 0 < message.size
  | .create => message.size + 1 ≤ 65535
  | .fixedHeader | .complete | .error => True

/-- A receive buffer within its bounds, also while its length is summed up. -/
structure Counted (message : MqttMessage) : Prop
    extends InBounds message where
  sum : message.state = .length → message.size ≤ maxBufferLength

/-- A reset message is within its bounds. -/
theorem counted_of_isReset
    (isReset : message.IsReset) :
    message.Counted := by
  obtain ⟨buffer, state, _⟩ := isReset
  constructor
  · constructor
    · rw [buffer]
      exact Nat.zero_le _
    · rw [state]
      decide
    · exact ⟨fun _ => buffer, fun _ => state⟩
    · intro isOpen
      exact nomatch state.symm.trans isOpen
  · intro summing
    exact nomatch state.symm.trans summing

/-- Within its bounds, the counter does not wrap. -/
theorem Counted.countsExactly
    (counted : message.Counted)
    (inByte : Byte) :
    message.CountsExactly inByte := by
  have known := counted.state
  unfold CountsExactly
  cases state : message.state with
  | fixedHeader | complete | error => trivial
  | length =>
      have sum := counted.sum state
      have group := Nat.mod_lt inByte.toNat (by decide : 128 > 0)
      rw [toNat_and_7F, Nat.shiftLeft_eq]
      unfold maxBufferLength at sum ⊢
      omega
  | variableHeader => exact (counted.missing state).1
  | payLoad | create =>
      rw [state] at known
      exact absurd known (by decide)

/-! ## What one byte does -/

/-- A byte that was appended to the buffer. -/
theorem counted_of_grown
    {next : MqttMessage}
    {inByte : Byte}
    (grown : next.buffer = message.buffer ++ [inByte])
    (isOpen : next.state ≠ .fixedHeader)
    (room : message.buffer.length < maxBufferLength)
    (state : next.state ∈ receiverStates)
    (size :
      next.state = .length ∨ next.state = .variableHeader →
        next.size ≤ maxBufferLength)
    (missing : next.state = .variableHeader → 1 ≤ next.size) :
    next.Counted where
  length := by
    rw [grown, List.length_append]
    exact room
  state := state
  empty := by
    constructor
    · exact fun isFirst => absurd isFirst isOpen
    · rw [grown]
      simp
  missing := fun isBody => ⟨missing isBody, size (.inr isBody)⟩
  sum := fun isLength => size (.inl isLength)

/-- The first byte of a message sets the counter to its sentinel. -/
theorem counted_first
    {inByte : Byte}
    (state : message.state = .fixedHeader)
    (empty : message.buffer = []) :
    (message.incoming inByte).Counted := by
  have taken :
      message.incoming inByte =
        { buffer := [inByte]
          vheader := message.vheader
          size := maxBufferLength
          state := .length } := by
    rcases message with ⟨buffer, vheader, size, _⟩
    subst state empty
    rfl
  rw [taken]
  constructor
  · constructor
    · exact (by decide : 1 ≤ maxBufferLength)
    · exact (by decide : State.length ∈ receiverStates)
    · simp
    · intro isBody
      exact nomatch isBody
  · exact fun _ => Nat.le_refl _

/-- A length byte leaves the counter within its bounds, or is rejected. -/
theorem counted_length
    {inByte : Byte}
    (state : message.state = .length)
    (grown : (message.incoming inByte).buffer = message.buffer ++ [inByte])
    (isOpen : (message.incoming inByte).state ≠ .fixedHeader)
    (room : message.buffer.length < maxBufferLength) :
    (message.incoming inByte).Counted := by
  by_cases bounded : nextSize message.size inByte ≤ maxBufferLength
  · have taken := incoming_length inByte state room bounded
    have size :
        (message.incoming inByte).size = nextSize message.size inByte := by
      rw [taken]
      split <;> rfl
    refine counted_of_grown grown isOpen room ?_ (fun _ => size ▸ bounded) ?_
    · rw [taken]
      split
      · rw [state]
        decide
      · dsimp only
        split <;> decide
    · intro isBody
      rw [size]
      rw [taken] at isBody
      -- The length is complete only if it is not 0.
      split at isBody
      · exact nomatch state.symm.trans isBody
      · refine Nat.pos_of_ne_zero fun isZero => ?_
        simp [isZero] at isBody
  · have rejected :=
      incoming_length_rejected state room (Nat.not_le.mp bounded)
    refine counted_of_grown grown isOpen room ?_ ?_ ?_
    · rw [rejected]
      decide
    · simp [rejected]
    · simp [rejected]

/-- A byte of the body is counted down. -/
theorem counted_variableHeader
    {inByte : Byte}
    (state : message.state = .variableHeader)
    (missing : 1 ≤ message.size ∧ message.size ≤ maxBufferLength)
    (grown : (message.incoming inByte).buffer = message.buffer ++ [inByte])
    (isOpen : (message.incoming inByte).state ≠ .fixedHeader)
    (room : message.buffer.length < maxBufferLength) :
    (message.incoming inByte).Counted := by
  have taken :=
    incoming_variableHeader state missing.1 missing.2 room inByte
  have size : (message.incoming inByte).size = message.size - 1 := by
    rw [taken]
  refine counted_of_grown grown isOpen room ?_ ?_ ?_
  · rw [taken]
    dsimp only
    split <;> decide
  · intro _
    rw [size]
    exact Nat.le_trans (Nat.sub_le _ 1) missing.2
  · intro isBody
    rw [size]
    rw [taken] at isBody
    have notLast : message.size ≠ 1 := by
      intro isLast
      simp [isLast] at isBody
    have positive := missing.1
    omega

/-- Every byte leaves a receive buffer within its bounds. -/
theorem Counted.incoming
    (counted : message.Counted)
    (inByte : Byte) :
    (message.incoming inByte).Counted := by
  rcases message.incoming_grows_or_resets inByte with
    ⟨grown, isOpen, room⟩ | isReset
  · cases state : message.state with
    | fixedHeader => exact counted_first state (counted.empty.mp state)
    | length => exact counted_length state grown isOpen room
    | variableHeader =>
        exact counted_variableHeader state (counted.missing state) grown
          isOpen room
    | complete | error =>
        refine absurd ?_ isOpen
        rcases message with ⟨buffer, vheader, size, _⟩
        subst state
        rfl
    | payLoad | create =>
        have known := counted.state
        rw [state] at known
        exact absurd known (by decide)
  · exact counted_of_isReset isReset

/-- So does the read loop, which resets a message it hands on. -/
theorem Counted.receive
    (counted : message.Counted)
    (inByte : Byte) :
    (receive message inByte).1.Counted := by
  unfold MqttMessage.receive
  dsimp only
  split
  · exact counted_of_isReset (isReset_reset _)
  · exact counted.incoming inByte

/-- So do all bytes of a stream. -/
theorem Counted.feed
    (counted : message.Counted)
    (bytes : List Byte) :
    (Decoder.feed MqttMessage.receive message bytes).1.Counted := by
  induction bytes generalizing message with
  | nil => exact counted
  | cons byte rest inductionHypothesis =>
      rw [Decoder.feed_cons]
      exact inductionHypothesis (counted.receive byte)

/--
Whatever bytes a reset message is fed, with a reset after each message that is
handed on: the next byte does not wrap the counter, and leaves the buffer
within its bounds, before and after such a reset.
-/
theorem receiver_invariant
    (isReset : message.IsReset)
    (earlier : List Byte)
    (inByte : Byte) :
    let before := (Decoder.feed receive message earlier).1
    before.CountsExactly inByte ∧
      (before.incoming inByte).InBounds ∧
        (receive before inByte).1.InBounds := by
  have counted := (counted_of_isReset isReset).feed earlier
  exact ⟨counted.countsExactly inByte,
    (counted.incoming inByte).toInBounds,
    (counted.receive inByte).toInBounds⟩

/-- The last byte of a PINGREQ. -/
theorem receiver_invariant_ping :
    let before := (Decoder.feed receive fresh [0xC0]).1
    before.CountsExactly 0x00 ∧
      (before.incoming 0x00).InBounds ∧
        (receive before 0x00).1.InBounds :=
  receiver_invariant ⟨rfl, rfl, rfl⟩ [0xC0] 0x00

end MqttMessage

end SimpleTlsBroker
