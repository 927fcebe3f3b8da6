import SimpleTlsBroker.LengthField
import SimpleTlsBroker.PublishPayload

namespace SimpleTlsBroker

/-!
# Publishing more than a message can hold

`MqttClient::publish` adds the payload through `incoming`.  The byte that is
too much resets the builder, as it does with a receiver, and the bytes behind
it are received as if they had come from a peer.  What `publish` hands over is
then made of these bytes, or there are too few of them for `complete`.
-/

namespace MqttMessage

variable {message : MqttMessage}

/-! ## The byte that is too much -/

/-- Adding bytes leaves nothing behind that a reset would not remove. -/
theorem reset_foldl_create
    (bytes : List Byte)
    (message : MqttMessage)
    (state : message.state = .create)
    (room : message.buffer.length + bytes.length ≤ maxBufferLength) :
    (bytes.foldl incoming message).reset = message.reset := by
  induction bytes generalizing message with
  | nil => rfl
  | cons byte rest inductionHypothesis =>
      simp only [List.length_cons] at room
      have taken := incoming_create state (by omega) byte
      have later :=
        inductionHypothesis (message.incoming byte) (by rw [taken]; exact state)
          (by
            rw [taken]
            simp only [List.length_append, List.length_singleton]
            omega)
      rw [List.foldl_cons, later, taken]
      rfl

/-- A full message under construction is reset by the next byte. -/
theorem incoming_full
    (state : message.state = .create)
    (full : message.buffer.length = maxBufferLength)
    (inByte : Byte) :
    message.incoming inByte = message.reset := by
  rcases message with ⟨buffer, vheader, size, messageState⟩
  simp only at state full
  subst messageState
  have long : buffer.length + 1 > maxBufferLength := by omega
  unfold incoming
  simp only [incomingState, List.length_append, List.length_singleton,
    if_pos long]
  rfl

/-- Bytes that do not fit are received from the one after the reset on. -/
theorem foldl_incoming_overflow
    {bytes : List Byte}
    (state : message.state = .create)
    (room : message.buffer.length ≤ maxBufferLength)
    (tooMany : maxBufferLength < message.buffer.length + bytes.length) :
    bytes.foldl incoming message =
      (bytes.drop (maxBufferLength - message.buffer.length + 1)).foldl
        incoming message.reset := by
  generalize left : maxBufferLength - message.buffer.length = count
  have inBytes : count < bytes.length := by omega
  have split :
      bytes = bytes.take count ++ bytes[count] :: bytes.drop (count + 1) := by
    rw [← List.drop_eq_getElem_cons inBytes, List.take_append_drop]
  have fits :
      message.buffer.length + (bytes.take count).length ≤
        maxBufferLength := by
    rw [List.length_take]
    omega
  obtain ⟨buffer, stillCreate⟩ :=
    foldl_incoming_create (bytes.take count) message state fits
  have full :
      ((bytes.take count).foldl incoming message).buffer.length =
        maxBufferLength := by
    rw [buffer, List.length_append, List.length_take]
    omega
  calc
    bytes.foldl incoming message
        = (bytes.take count ++ bytes[count] :: bytes.drop (count + 1)).foldl
            incoming message := by rw [← split]
    _ = (bytes.drop (count + 1)).foldl incoming
          (((bytes.take count).foldl incoming message).incoming
            bytes[count]) := by
          rw [List.foldl_append, List.foldl_cons]
    _ = (bytes.drop (count + 1)).foldl incoming message.reset := by
          rw [incoming_full stillCreate full,
            reset_foldl_create _ _ state fits]

/-- Encoding the length makes a message no longer. -/
theorem length_encoded_le (message : MqttMessage) :
    message.encoded.buffer.length ≤ message.buffer.length := by
  unfold encoded
  split
  · dsimp only
    split
    · simp only [List.length_set]
      exact List.length_eraseIdx_le message.buffer 1
    · simp
  · exact Nat.le_refl _

/-! ## The message of `publish` -/

open World

/-- A complete PUBLISH message with a topic and a payload. -/
structure IsPublication
    (message : MqttMessage)
    (name payload : List Byte) : Prop where
  complete : message.state = .complete
  kind : message.kind? = some .publish
  body : message.buffer.drop message.vheader = stringField name ++ payload

/-- What is left of the bytes of a publication that does not fit. -/
def publishRest (name payload : List Byte) : MqttMessage :=
  ((stringField name ++ payload).drop 4094).foldl incoming
    (ofType MqttType.publish.code 0).reset

variable {name payload : List Byte}

/-- The builder feeds the body to `incoming`. -/
theorem publishBuilder_eq_foldl (name payload : List Byte) :
    publishBuilder name payload =
      (stringField name ++ payload).foldl incoming
        (ofType MqttType.publish.code 0) := by
  rw [List.foldl_append]
  rfl

/-- A publication that fits is built as it is. -/
theorem publishBuilder_fitting
    (fits : name.length + payload.length ≤ 4091) :
    (publishBuilder name payload).encodeLength =
        some (publishMessage name payload) ∧
      IsPublication (publishMessage name payload) name payload := by
  have bounded : (stringField name ++ payload).length ≤ 4093 := by
    rw [List.length_append, length_stringField]
    omega
  obtain ⟨buffer, state⟩ :=
    foldl_incoming_create (stringField name ++ payload)
      (ofType MqttType.publish.code 0) rfl
      (by simp only [ofType, create, List.length_cons, List.length_nil,
            maxBufferLength]; omega)
  rw [← publishBuilder_eq_foldl] at buffer state
  have encoded :=
    encoded_built MqttType.publish.code (stringField name ++ payload)
      state (buffer.trans rfl) (by omega)
  have long : 3 ≤ (publishBuilder name payload).buffer.length := by
    rw [buffer]
    simp [ofType, create]
  constructor
  · rw [encodeLength_eq, if_pos (.inr long)]
    rfl
  · unfold publishMessage
    rw [encoded]
    refine ⟨rfl, ?_, ?_⟩
    · change
        MqttType.ofCode? ((MqttType.publish.code &&& 0xF0) &&& 0xF0) =
          some .publish
      decide
    · simp [Nat.add_comm 1]

/-- A publication that does not fit is what is left of its bytes. -/
theorem publishBuilder_overflowing
    (overflows : 4091 < name.length + payload.length) :
    publishBuilder name payload = publishRest name payload := by
  rw [publishBuilder_eq_foldl]
  apply foldl_incoming_overflow rfl
  · decide
  · simp only [ofType, create, List.length_cons, List.length_nil,
      List.length_append, length_stringField, maxBufferLength]
    omega

/-- What is left is never the publication. -/
theorem not_isPublication_rest
    (overflows : 4091 < name.length + payload.length) :
    ¬ IsPublication (publishRest name payload).encoded name payload := by
  intro isPublication
  have body := congrArg List.length isPublication.body
  have shorter := length_encoded_le (publishRest name payload)
  have suffix : (publishRest name payload).buffer <:+ _ :=
    buffer_suffix ((stringField name ++ payload).drop 4094) rfl
  have bounded := suffix.length_le
  simp only [List.length_drop, List.length_append, length_stringField]
    at body bounded
  omega

end MqttMessage

/-! ## `MqttClient::publish` -/

namespace World

open MqttMessage

variable {Index Os : Type}

/-- Whom `publish` hands its message to: a broker, or the TCP link. -/
inductive Recipient where
  | broker (parent : BrokerId)
  | link
  deriving DecidableEq

/-- The recipient of what a client publishes. -/
def recipient?
    (world : World Index Os)
    (client : ClientId) : Option Recipient :=
  match (world.clients client).parent, (world.clients client).client with
  | some parent, _ => some (.broker parent)
  | none, true => some .link
  | none, false => none

variable [Indexer Index]

/-- A recipient takes a message with the function of the source for it. -/
def handOver
    (publish : BrokerId → MqttMessage → MqttError × World Index Os)
    (sendTo : MqttMessage → MqttError × World Index Os)
    (msg : MqttMessage) : Recipient → MqttError × World Index Os
  | .broker parent => publish parent msg
  | .link => sendTo msg

/--
`publish` hands over the publication once and nothing else, whatever the
broker or the TCP link do with it, or it hands over nothing and returns an
error.  So `complete` stays inside the buffer.
-/
def PublishesIntact
    (world : World Index Os)
    (client : ClientId)
    (topic : Topic)
    (payload : List Byte) : Prop :=
  (∃ recipient ∈ world.recipient? client, ∃ msg,
    IsPublication msg (Indexer.str world.indexer topic) payload ∧
      ∀ publish sendTo,
        world.clientPublishWith publish sendTo client topic payload =
          some (handOver publish sendTo msg recipient)) ∨
    ∃ error : MqttError,
      error ≠ .ok ∧
        ∀ publish sendTo,
          world.clientPublishWith publish sendTo client topic payload =
            some (error, world)

/-- What `publish` does with the message that `complete` returns. -/
theorem clientPublishWith_eq
    (publish : BrokerId → MqttMessage → MqttError × World Index Os)
    (sendTo : MqttMessage → MqttError × World Index Os)
    (world : World Index Os)
    (client : ClientId)
    (topic : Topic)
    (payload : List Byte) :
    world.clientPublishWith publish sendTo client topic payload =
      (publishBuilder (Indexer.str world.indexer topic)
          payload).encodeLength.map fun msg =>
        match world.recipient? client with
        | some recipient => handOver publish sendTo msg recipient
        | none => (.nowhereToSend, world) := by
  unfold clientPublishWith recipient?
  cases (world.clients client).parent with
  | some parent => rfl
  | none => cases (world.clients client).client <;> rfl

/-- A message that is handed over is the one that `complete` returns. -/
theorem encodeLength_of_handed
    {world : World Index Os}
    {client : ClientId}
    {topic : Topic}
    {payload : List Byte}
    {recipient : Recipient}
    (found : world.recipient? client = some recipient)
    {msg : MqttMessage}
    (handed :
      ∀ publish sendTo,
        world.clientPublishWith publish sendTo client topic payload =
          some (handOver publish sendTo msg recipient)) :
    (publishBuilder (Indexer.str world.indexer topic)
      payload).encodeLength = some msg := by
  have answers :=
    handed (fun _ other => (if other = msg then .ok else .nowhereToSend, world))
      fun other => (if other = msg then .ok else .nowhereToSend, world)
  rw [clientPublishWith_eq, found] at answers
  obtain ⟨built, encodes, answer⟩ := Option.map_eq_some_iff.mp answers
  have isMessage : built = msg := by
    by_contra distinct
    cases recipient with
    | broker parent => simp [handOver, distinct] at answer
    | link => simp [handOver, distinct] at answer
  rw [encodes, isMessage]

/-- Where an error comes back whatever the others do, they are not asked. -/
theorem nobody_of_refused
    {world : World Index Os}
    {client : ClientId}
    {topic : Topic}
    {payload : List Byte}
    {error : MqttError}
    (isError : error ≠ .ok)
    (refused :
      ∀ publish sendTo,
        world.clientPublishWith publish sendTo client topic payload =
          some (error, world)) :
    world.recipient? client = none ∧
      ((publishBuilder (Indexer.str world.indexer topic) payload).state =
          .complete ∨
        3 ≤ (publishBuilder (Indexer.str world.indexer topic)
          payload).buffer.length) := by
  have answers := refused (fun _ _ => (.ok, world)) fun _ => (.ok, world)
  rw [clientPublishWith_eq] at answers
  obtain ⟨built, encodes, answer⟩ := Option.map_eq_some_iff.mp answers
  constructor
  · cases found : world.recipient? client with
    | none => rfl
    | some recipient =>
        rw [found] at answer
        have isOk : MqttError.ok = error := by
          cases recipient with
          | broker parent => exact congrArg Prod.fst answer
          | link => exact congrArg Prod.fst answer
        exact absurd isOk.symm isError
  · by_contra outside
    rw [encodeLength_eq, if_neg outside] at encodes
    cases encodes

/--
`publish` is intact if and only if the publication fits, or there is nobody to
hand it to and what is left of its bytes is complete or three bytes long.
-/
theorem publishes_intact_iff
    (world : World Index Os)
    (client : ClientId)
    (topic : Topic)
    (payload : List Byte) :
    PublishesIntact world client topic payload ↔
      (Indexer.str world.indexer topic).length + payload.length ≤ 4091 ∨
        world.recipient? client = none ∧
          ((publishRest (Indexer.str world.indexer topic) payload).state =
              .complete ∨
            3 ≤ (publishRest (Indexer.str world.indexer topic)
              payload).buffer.length) := by
  have refuses
      (nobody : world.recipient? client = none)
      {msg : MqttMessage}
      (encodes :
        (publishBuilder (Indexer.str world.indexer topic)
          payload).encodeLength = some msg) :
      PublishesIntact world client topic payload := by
    refine .inr ⟨.nowhereToSend, MqttError.noConfusion, ?_⟩
    intro publish sendTo
    rw [clientPublishWith_eq, encodes, nobody]
    rfl
  by_cases fits :
      (Indexer.str world.indexer topic).length + payload.length ≤ 4091
  · obtain ⟨encodes, isPublication⟩ := publishBuilder_fitting fits
    refine iff_of_true ?_ (.inl fits)
    cases found : world.recipient? client with
    | none => exact refuses found encodes
    | some recipient =>
        refine .inl ⟨recipient, found, _, isPublication, ?_⟩
        intro publish sendTo
        rw [clientPublishWith_eq, encodes, found]
        rfl
  · have overflows :
        4091 < (Indexer.str world.indexer topic).length + payload.length := by
      omega
    rw [← publishBuilder_overflowing overflows]
    constructor
    · rintro (⟨recipient, found, msg, isPublication, handed⟩ |
        ⟨error, isError, refused⟩)
      · have encodes := encodeLength_of_handed found handed
        rw [publishBuilder_overflowing overflows] at encodes
        rw [eq_encoded encodes] at isPublication
        exact absurd isPublication (not_isPublication_rest overflows)
      · exact .inr (nobody_of_refused isError refused)
    · rintro (isShort | ⟨nobody, inside⟩)
      · exact absurd isShort fits
      · have encodes :=
          (encodeLength_eq
            (publishBuilder (Indexer.str world.indexer topic)
              payload)).trans (if_pos inside)
        exact refuses nobody encodes

/-- One byte too many, from the local client to the broker. -/
theorem not_publishesIntact_long :
    subscribedRun.recipient? 1 = some (.broker 0) ∧
      Indexer.str subscribedRun.indexer ⟨1⟩ = [0x61] ∧
        subscribedRun.clientPublish 1 ⟨1⟩ (List.replicate 4091 0x78) =
            none ∧
          ¬ PublishesIntact subscribedRun 1 ⟨1⟩
            (List.replicate 4091 0x78) := by
  have recipient : subscribedRun.recipient? 1 = some (.broker 0) := by decide
  have isName : Indexer.str subscribedRun.indexer ⟨1⟩ = [0x61] := by decide
  have length :
      (stringField [0x61] ++ List.replicate 4091 (0x78 : Byte)).length =
        4094 := by
    rw [List.length_append, length_stringField, List.length_replicate]
    rfl
  have noRest :
      publishRest [0x61] (List.replicate 4091 0x78) =
        (ofType MqttType.publish.code 0).reset := by
    unfold publishRest
    rw [List.drop_of_length_le (Nat.le_of_eq length)]
    rfl
  have overflows :
      4091 < ([0x61] : List Byte).length +
        (List.replicate 4091 (0x78 : Byte)).length := by
    rw [List.length_replicate, List.length_singleton]
    omega
  -- `complete` erases a byte of an empty buffer.
  have outside
      (publish : BrokerId → MqttMessage → MqttError × World StringIndexer Script)
      (sendTo : MqttMessage → MqttError × World StringIndexer Script) :
      subscribedRun.clientPublishWith publish sendTo 1 ⟨1⟩
          (List.replicate 4091 0x78) =
        none := by
    rw [clientPublishWith_eq, isName, publishBuilder_overflowing overflows,
      noRest]
    rfl
  refine ⟨recipient, isName, outside _ _, ?_⟩
  have broker := fun (_ : BrokerId) (_ : MqttMessage) =>
    (MqttError.ok, subscribedRun)
  have link := fun (_ : MqttMessage) => (MqttError.ok, subscribedRun)
  rintro (⟨recipient, _, msg, _, handed⟩ | ⟨error, _, refused⟩)
  · have answer := handed broker link
    rw [outside] at answer
    cases answer
  · have answer := refused broker link
    rw [outside] at answer
    cases answer

end World

end SimpleTlsBroker
