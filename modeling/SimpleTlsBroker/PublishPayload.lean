import SimpleTlsBroker.FanOut
import SimpleTlsBroker.Frames

namespace SimpleTlsBroker

/-!
# The payload of a PUBLISH frame

The PUBLISH case takes any flag bit for a QoS and then skips two bytes of a
packet identifier.  A frame with QoS 0 has none, so DUP or RETAIN alone shift
the payload.
-/

open Memory

/-- The contents of a PUBLISH frame; the identifier is sent with QoS 1 and 2. -/
structure Publication where
  dup : Bool
  qos : Fin 3
  retain : Bool
  name : List Byte
  identifier : Byte × Byte
  payload : List Byte
  deriving Repr, DecidableEq

namespace Publication

/-- The lower half of the first byte. -/
def bits (publication : Publication) : Byte :=
  (if publication.dup then (0x08 : Byte) else 0) |||
    UInt8.ofNat (publication.qos.val <<< 1) |||
      (if publication.retain then (0x01 : Byte) else 0)

/-- The packet identifier, in the frames that have one. -/
def identifierField (publication : Publication) : List Byte :=
  if publication.qos ≠ 0 then
    [publication.identifier.1, publication.identifier.2]
  else
    []

/-- The frame, with a given encoding of its length. -/
def packet
    (publication : Publication)
    (lengthBytes : List Byte) : Packet where
  first := MqttType.publish.code ||| publication.bits
  lengthBytes := lengthBytes
  body :=
    stringField publication.name ++
      (publication.identifierField ++ publication.payload)

/-- Every such frame is dispatched as a PUBLISH message. -/
theorem kind?_message
    (publication : Publication)
    (lengthBytes : List Byte) :
    (publication.packet lengthBytes).message.kind? = some .publish := by
  have every :
      ∀ dup : Bool, ∀ qos : Fin 3, ∀ retain : Bool,
        MqttType.ofCode?
            (((0x30 |||
              bits ⟨dup, qos, retain, [], (0, 0), []⟩) &&& 0xF0) &&& 0xF0) =
          some .publish := by
    decide
  exact every publication.dup publication.qos publication.retain

/-- The flags are zero if none of the three is set. -/
theorem flags_message_eq_zero_iff
    (publication : Publication)
    (lengthBytes : List Byte) :
    (publication.packet lengthBytes).message.flags = 0 ↔
      publication.dup = false ∧ publication.qos = 0 ∧
        publication.retain = false := by
  have every :
      ∀ dup : Bool, ∀ qos : Fin 3, ∀ retain : Bool,
        (0x30 ||| bits ⟨dup, qos, retain, [], (0, 0), []⟩) &&& 0x0F = 0 ↔
          dup = false ∧ qos = 0 ∧ retain = false := by
    decide
  exact every publication.dup publication.qos publication.retain

/-- The name and what is behind it. -/
theorem body_packet
    (publication : Publication)
    (lengthBytes : List Byte) :
    (publication.packet lengthBytes).body =
      stringField publication.name ++
        (publication.identifierField ++ publication.payload) := rfl

end Publication

namespace MqttClient

variable {memory : Nat → Byte}
variable {header : Nat}
variable {name rest : List Byte}

/-- The name a PUBLISH message is taken for, and what its payload is. -/
theorem run_parsePublish_cut
    (holds : Holds memory header (stringField name ++ rest))
    (fits : name.length < 65536)
    (flags : Byte)
    (endOffset : Nat) :
    (parsePublish header endOffset flags).run memory =
      let payload :=
        if flags ≠ 0 then
          header + 2 + name.length + 2
        else
          header + 2 + name.length
      ⟨Topic.cut name,
        (Parse.readSlice payload
          (((endOffset : Int) - payload) % 65536).toNat).run memory⟩ := by
  rw [holds_append] at holds
  have field := Parse.run_getString holds.1 fits
  have isName := Parse.run_readSlice_cut (Parse.holds_text holds.1)
  simp only [parsePublish, Parse.run_bind, Parse.run_pure, field, isName]

/-- The same for a name that is taken whole. -/
theorem run_parsePublish
    (holds : Holds memory header (stringField name ++ rest))
    (short : name.length ≤ 255)
    (flags : Byte)
    (endOffset : Nat) :
    (parsePublish header endOffset flags).run memory =
      let payload :=
        if flags ≠ 0 then
          header + 2 + name.length + 2
        else
          header + 2 + name.length
      ⟨name,
        (Parse.readSlice payload
          (((endOffset : Int) - payload) % 65536).toNat).run memory⟩ := by
  have fields := run_parsePublish_cut holds (by omega) flags endOffset
  rwa [Topic.cut_eq_self short] at fields

/-- Without flags the payload follows the name. -/
theorem run_parsePublish_plain
    (holds : Holds memory header (stringField name ++ rest))
    (short : name.length ≤ 255)
    (fits : rest.length < 65536) :
    (parsePublish header (header + (name.length + 2 + rest.length)) 0).run
        memory =
      ⟨name, rest⟩ := by
  rw [run_parsePublish holds short]
  rw [holds_append, length_stringField] at holds
  have length :
      ((((header + (name.length + 2 + rest.length) : Nat) : Int) -
          ((header + 2 + name.length : Nat) : Int)) % 65536).toNat =
        rest.length := by
    omega
  have start : header + 2 + name.length = header + (name.length + 2) := by
    omega
  simp only [ne_eq, not_true_eq_false, if_false, length]
  rw [start, Parse.run_readSlice_text holds.2]

/-- With a flag two bytes behind the name are skipped. -/
theorem run_parsePublish_flags
    {first second : Byte}
    {flags : Byte}
    (holds :
      Holds memory header (stringField name ++ first :: second :: rest))
    (short : name.length ≤ 255)
    (fits : rest.length < 65536)
    (flagged : flags ≠ 0) :
    (parsePublish header (header + (name.length + 2 + (rest.length + 2)))
        flags).run memory =
      ⟨name, rest⟩ := by
  rw [run_parsePublish holds short]
  rw [holds_append, length_stringField] at holds
  obtain ⟨_, _, _, holds⟩ := holds
  have length :
      ((((header + (name.length + 2 + (rest.length + 2)) : Nat) : Int) -
          ((header + 2 + name.length + 2 : Nat) : Int)) % 65536).toNat =
        rest.length := by
    omega
  have start :
      header + 2 + name.length + 2 =
        header + (name.length + 2) + 1 + 1 := by
    omega
  simp only [if_pos flagged, length]
  rw [start, Parse.run_readSlice_text holds]

/-- Whatever is skipped, something else is taken for the payload. -/
theorem run_parsePublish_shifted
    {flags : Byte}
    (holds : Holds memory header (stringField name ++ rest))
    (short : name.length ≤ 255)
    (flagged : flags ≠ 0) :
    ∃ payload,
      (parsePublish header (header + (name.length + 2 + rest.length))
        flags).run memory = ⟨name, payload⟩ ∧ payload ≠ rest := by
  rw [run_parsePublish holds short]
  simp only [if_pos flagged]
  refine ⟨_, rfl, ?_⟩
  intro same
  have length := congrArg List.length same
  simp only [Parse.run_readSlice, List.length_map, List.length_range]
    at length
  omega

end MqttClient

namespace World

variable {Index Os : Type} [Platform Os] [Indexer Index]
variable {world : World Index Os}
variable {publication : Publication}
variable {lengthBytes : List Byte}
variable {client : ClientId}
variable {topic : Topic}

/--
The callback of a client was called once, with the name and the payload that
were published, and nothing else was handed on.
-/
structure Delivers
    (before after : World Index Os)
    (client : ClientId)
    (topic : Topic)
    (publication : Publication) : Prop where
  name : Indexer.str before.indexer topic = publication.name
  payload :
    after.trace.services =
      before.trace.services ++ [.callback client topic publication.payload]

/-- What a subscribed local client makes of the fields that it reads. -/
theorem services_processMessage_local
    {msg : MqttMessage}
    {name payload : List Byte}
    (isPublish : msg.kind? = some .publish)
    (fields :
      (MqttClient.parsePublish msg.vheader msg.buffer.length msg.flags).run
        (world.memory msg) = ⟨name, payload⟩)
    (exact : Indexer.ExactAt world.indexer name topic)
    (isLocal : (world.clients client).client = false)
    (called : (world.clients client).callback = true)
    (subscribed : world.isSubscribedTo client topic = true) :
    (world.processMessage client msg).trace.services =
      world.trace.services ++ [.callback client topic payload] := by
  have sameRun :
      world.processMessage client msg = world.processLocal client msg :=
    processMessageWith_local isLocal _ _ msg
  have served :=
    (processLocal_serves isPublish fields exact subscribed isLocal).2
  rw [sameRun, served]
  simp [service, subscribed, isLocal, called]

omit [Indexer Index] in
/-- What the PUBLISH case takes for the payload of a frame. -/
theorem exists_fields
    (world : World Index Os)
    (fits :
      (publication.packet lengthBytes).bytes.length ≤
        MqttMessage.maxBufferLength)
    (short : publication.name.length ≤ 255) :
    let msg := (publication.packet lengthBytes).message
    ∃ payload,
      (MqttClient.parsePublish msg.vheader msg.buffer.length msg.flags).run
          (world.memory msg) = ⟨publication.name, payload⟩ ∧
        (payload = publication.payload ↔
          publication.qos ≠ 0 ∨
            publication.dup = false ∧ publication.retain = false) := by
  have noFlags := publication.flags_message_eq_zero_iff lengthBytes
  have body := publication.body_packet lengthBytes
  generalize publication.packet lengthBytes = packet at *
  have holds := packet.holds_body world
  have atEnd := packet.end_message
  rw [Packet.length_bytes, body, MqttMessage.maxBufferLength] at fits
  rw [body, List.length_append, length_stringField] at atEnd
  rw [body] at holds
  by_cases withIdentifier : publication.qos ≠ 0
  · have field :
        publication.identifierField =
          [publication.identifier.1, publication.identifier.2] :=
      if_pos withIdentifier
    have flagged : packet.message.flags ≠ 0 :=
      fun isZero => withIdentifier (noFlags.mp isZero).2.1
    simp only [field, List.cons_append, List.nil_append,
      List.length_append, List.length_cons] at holds atEnd fits
    have fields :=
      MqttClient.run_parsePublish_flags holds short (by omega) flagged
    rw [← atEnd] at fields
    exact ⟨_, fields, iff_of_true rfl (.inl withIdentifier)⟩
  · have field : publication.identifierField = [] := if_neg withIdentifier
    simp only [field, List.nil_append, List.length_append] at holds atEnd fits
    by_cases plain : publication.dup = false ∧ publication.retain = false
    · have unflagged : packet.message.flags = 0 :=
        noFlags.mpr ⟨plain.1, not_not.mp withIdentifier, plain.2⟩
      have fields :=
        MqttClient.run_parsePublish_plain holds short (by omega)
      rw [← atEnd, ← unflagged] at fields
      exact ⟨_, fields, iff_of_true rfl (.inr plain)⟩
    · have flagged : packet.message.flags ≠ 0 := by
        intro isZero
        have none := noFlags.mp isZero
        exact plain ⟨none.1, none.2.2⟩
      obtain ⟨payload, fields, shifted⟩ :=
        MqttClient.run_parsePublish_shifted holds short flagged
      rw [← atEnd] at fields
      exact ⟨payload, fields, iff_of_false shifted
        (not_or.mpr ⟨withIdentifier, plain⟩)⟩

/--
A subscribed local client gets exactly the name and the payload of a PUBLISH
frame if and only if the frame has QoS 1 or 2, or no flag at all.
-/
theorem delivers_iff
    (fits :
      (publication.packet lengthBytes).bytes.length ≤
        MqttMessage.maxBufferLength)
    (short : publication.name.length ≤ 255)
    (exact : Indexer.ExactAt world.indexer publication.name topic)
    (isName : Indexer.str world.indexer topic = publication.name)
    (isLocal : (world.clients client).client = false)
    (called : (world.clients client).callback = true)
    (subscribed : world.isSubscribedTo client topic = true) :
    Delivers world
        (world.processMessage client
          (publication.packet lengthBytes).message)
        client topic publication ↔
      publication.qos ≠ 0 ∨
        publication.dup = false ∧ publication.retain = false := by
  obtain ⟨payload, fields, exactly⟩ := exists_fields world fits short
  have received :=
    services_processMessage_local (publication.kind?_message lengthBytes)
      fields exact isLocal called subscribed
  rw [← exactly]
  constructor
  · intro delivers
    rw [delivers.payload] at received
    simp only [List.append_cancel_left_eq, List.cons.injEq,
      Event.callback.injEq, true_and, and_true] at received
    exact received.symm
  · intro same
    rw [same] at received
    exact ⟨isName, received⟩

/-- The topic `"a"` of the two subscribers is interned exactly. -/
theorem exactAt_subscribedRun :
    Indexer.ExactAt subscribedRun.indexer [0x61] ⟨1⟩ := by
  have entry :
      subscribedRun.indexer.strings 1 = some ⟨[0x61], 2⟩ := by
    decide
  exact StringIndexer.exactAt (by decide) entry (by decide)

/-- A message of QoS 1 reaches a callback as it was published. -/
theorem delivers_qos_one :
    Delivers subscribedRun
      (subscribedRun.processMessage 1
        (Publication.packet ⟨false, 1, true, [0x61], (0, 7), [0x78, 0x79]⟩
          [0x07]).message)
      1 ⟨1⟩ ⟨false, 1, true, [0x61], (0, 7), [0x78, 0x79]⟩ :=
  (delivers_iff (by decide) (by decide) exactAt_subscribedRun (by decide)
    (by decide) (by decide) (by decide)).mpr (.inl (by decide))

/-- Of a retained message of QoS 0 the callback gets the end only. -/
theorem not_delivers_retained :
    (Indexer.ExactAt subscribedRun.indexer [0x61] ⟨1⟩ ∧
      (subscribedRun.clients 1).client = false ∧
        (subscribedRun.clients 1).callback = true ∧
          subscribedRun.isSubscribedTo 1 ⟨1⟩ = true) ∧
      ¬ Delivers subscribedRun
        (subscribedRun.processMessage 1
          (Publication.packet ⟨false, 0, true, [0x61], (0, 0),
            [0x78, 0x79, 0x7A]⟩ [0x06]).message)
        1 ⟨1⟩ ⟨false, 0, true, [0x61], (0, 0), [0x78, 0x79, 0x7A]⟩ := by
  refine ⟨⟨exactAt_subscribedRun, by decide, by decide, by decide⟩, ?_⟩
  intro delivers
  have received :
      (subscribedRun.processMessage 1
        (Publication.packet ⟨false, 0, true, [0x61], (0, 0),
          [0x78, 0x79, 0x7A]⟩ [0x06]).message).trace.services =
        subscribedRun.trace.services ++ [.callback 1 ⟨1⟩ [0x7A]] := by
    decide
  rw [delivers.payload] at received
  simp at received

end World

end SimpleTlsBroker
