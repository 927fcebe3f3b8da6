import SimpleTlsBroker.Admission
import SimpleTlsBroker.Subscribing

namespace SimpleTlsBroker

/-!
# Acknowledgements

A SUBSCRIBE or UNSUBSCRIBE frame is processed to its end, changes the set of
subscriptions as it says, and is answered by a message that the decoder reads
back as the acknowledgement of this frame.
-/

namespace FilterList

/-- The type of the acknowledgement. -/
def ackType (subscribe : Bool) : MqttType :=
  if subscribe then .subAck else .unSuback

/-- The body of the acknowledgement. -/
def ackBody
    (frame : FilterList)
    (subscribe : Bool) : List Byte :=
  frame.identifier.1 :: frame.identifier.2 ::
    returnCodes subscribe frame.filters

/-- The acknowledgement under construction. -/
def ack
    (frame : FilterList)
    (subscribe : Bool) : MqttMessage :=
  (((MqttMessage.ofType (ackType subscribe).code 0).add
    frame.identifier.1).add frame.identifier.2).addBytes
      (returnCodes subscribe frame.filters)

variable {frame : FilterList}
variable {subscribe : Bool}
variable {lengthBytes : List Byte}

/-- The frame is dispatched by its type. -/
theorem kind?_message
    (frame : FilterList)
    (subscribe : Bool)
    (lengthBytes : List Byte) :
    (frame.packet subscribe lengthBytes).message.kind? =
      some (if subscribe then .subscribe else .unSubscribe) := by
  cases subscribe with
  | true =>
      change MqttType.ofCode? (((0x80 ||| 0x02) &&& 0xF0) &&& 0xF0) = _
      decide
  | false =>
      change MqttType.ofCode? (((0xA0 ||| 0x02) &&& 0xF0) &&& 0xF0) = _
      decide

/-- The test for the type of the acknowledgement. -/
theorem isSubscribe_message
    (frame : FilterList)
    (subscribe : Bool)
    (lengthBytes : List Byte) :
    (frame.packet subscribe lengthBytes).message.type =
        MqttType.subscribe.code ↔
      subscribe = true := by
  cases subscribe with
  | true =>
      change ((0x80 : Byte) ||| 0x02) &&& 0xF0 = 0x80 ↔ _
      decide
  | false =>
      change ((0xA0 : Byte) ||| 0x02) &&& 0xF0 = 0x80 ↔ _
      decide

/-- The bytes of the body. -/
theorem length_body
    (frame : FilterList)
    (subscribe : Bool)
    (lengthBytes : List Byte) :
    (frame.packet subscribe lengthBytes).body.length =
      2 + (frame.filters.flatMap (item subscribe)).length := by
  simp only [packet, List.length_cons]
  omega

/-- An acknowledgement is shorter than the frame. -/
theorem length_ackBody
    (fits :
      (frame.packet subscribe lengthBytes).bytes.length ≤
        MqttMessage.maxBufferLength) :
    (frame.ackBody subscribe).length ≤ 4093 := by
  have codes :
      (returnCodes subscribe frame.filters).length ≤
        frame.filters.length := by
    cases subscribe <;> simp [returnCodes]
  have two := length_le_items subscribe frame.filters
  rw [Packet.length_bytes, length_body, MqttMessage.maxBufferLength] at fits
  simp only [ackBody, List.length_cons]
  omega

/-- The calls that the acknowledgement is made of. -/
theorem ack_eq_foldl
    (frame : FilterList)
    (subscribe : Bool) :
    frame.ack subscribe =
      (frame.ackBody subscribe).foldl MqttMessage.incoming
        (MqttMessage.ofType (ackType subscribe).code 0) := rfl

/-- The acknowledgement has begun, and its body is all that was added. -/
theorem buffer_ack
    (short : (frame.ackBody subscribe).length ≤ 4093) :
    (frame.ack subscribe).buffer =
        (ackType subscribe).code :: 0 :: 0 :: frame.ackBody subscribe ∧
      (frame.ack subscribe).state = .create := by
  have collected :=
    MqttMessage.foldl_incoming_create (frame.ackBody subscribe)
      (MqttMessage.ofType (ackType subscribe).code 0) rfl
      (by simp only [MqttMessage.ofType, MqttMessage.create, List.length_cons,
            List.length_nil, MqttMessage.maxBufferLength]; omega)
  rw [← ack_eq_foldl] at collected
  refine ⟨?_, collected.2⟩
  rw [collected.1]
  simp [MqttMessage.ofType, MqttMessage.create]

/-- It is sent as the packet with its type and body. -/
theorem encoded_ack
    (short : (frame.ackBody subscribe).length ≤ 4093) :
    (frame.ack subscribe).encoded.buffer =
      (MqttMessage.builtPacket (ackType subscribe).code
        (frame.ackBody subscribe)).bytes := by
  obtain ⟨buffer, state⟩ := buffer_ack short
  rw [MqttMessage.encoded_built _ _ state buffer (by omega)]
  rfl

/-- The names of the filters that were parsed. -/
theorem names_map_parsed
    (subscribe : Bool)
    (filters : List (List Byte × Byte)) :
    names (filters.map (parsed subscribe)) = names filters := by
  ext name
  simp [names, parsed]

/-- The return codes for them. -/
theorem returnCodes_map_parsed
    (subscribe : Bool)
    (filters : List (List Byte × Byte)) :
    returnCodes subscribe (filters.map (parsed subscribe)) =
      returnCodes subscribe filters := by
  cases subscribe with
  | true => simp [returnCodes, returnCode, parsed]
  | false => rfl

end FilterList

namespace World

open FilterList Memory

variable {Index Os : Type} [Indexer Index] [Platform Os]
variable {interning : ExactInterning Index}
variable {world : World Index Os}
variable {client : ClientId}
variable {frame : FilterList}
variable {subscribe : Bool}
variable {lengthBytes : List Byte}

omit [Indexer Index] in
/-- The topic loop comes exactly to the end of the frame. -/
theorem run_parseFilters_message
    (world : World Index Os)
    (frame : FilterList)
    (subscribe : Bool)
    (lengthBytes : List Byte)
    {fuel : Nat}
    (enough :
      (frame.packet subscribe lengthBytes).message.buffer.length ≤ fuel) :
    (MqttClient.parseFilters subscribe
        (frame.packet subscribe lengthBytes).message.buffer.length fuel
        ((frame.packet subscribe lengthBytes).message.vheader + 2)).run
      (world.memory (frame.packet subscribe lengthBytes).message) =
        (frame.filters.map (parsed subscribe),
          (frame.packet subscribe lengthBytes).message.buffer.length) := by
  have holds :=
    Packet.holds_body world (frame.packet subscribe lengthBytes)
  have atEnd := Packet.end_message (frame.packet subscribe lengthBytes)
  rw [length_body, ← Nat.add_assoc] at atEnd
  have fewer := length_le_items subscribe frame.filters
  obtain ⟨_, _, items⟩ := holds
  rw [atEnd] at enough ⊢
  exact MqttClient.run_parseFilters items frame.short (by omega)

/-- The case of these frames: the acknowledgement, and the names before it. -/
theorem processSubscribe_filters
    (connected : (world.clients client).mqttConnected = true)
    (interned :
      Interned interning world client (frame.filters.length + 1))
    (allowed : ∀ filter ∈ frame.filters, interning.Allowed filter.1) :
    ∃ later : World Index Os,
      world.processSubscribe subscribe client
          (frame.packet subscribe lengthBytes).message =
        (false, later.sendOwn (frame.ack subscribe) client) ∧
      later.subscribedNames client =
        changed subscribe (world.subscribedNames client)
          (names frame.filters) ∧
      later.device = world.device := by
  have parsedFilters :=
    run_parseFilters_message world frame subscribe lengthBytes
      (Nat.le_refl _)
  have isSubscribe := frame.isSubscribe_message subscribe lengthBytes
  obtain ⟨isFirst, isSecond, _⟩ :=
    Packet.holds_body world (frame.packet subscribe lengthBytes)
  generalize (frame.packet subscribe lengthBytes).message = mesg at *
  have loop :=
    @round_foldl _ _ _ interning world client subscribe 0
      (frame.filters.map (parsed subscribe))
      (by rw [List.length_map, Nat.zero_add]; exact interned)
      (by
        intro filter member
        obtain ⟨sent, isSent, rfl⟩ := List.mem_map.mp member
        exact allowed sent isSent) []
  have isType :
      (if mesg.type = MqttType.subscribe.code then
          MqttType.subAck.code
        else
          MqttType.unSuback.code) = (ackType subscribe).code := by
    by_cases isSub : subscribe = true
    · rw [if_pos (isSubscribe.mpr isSub), ackType, if_pos isSub]
    · rw [if_neg (mt isSubscribe.mp isSub), ackType, if_neg isSub]
  have codes := loop.codes
  rw [List.nil_append, returnCodes_map_parsed] at codes
  have namesAfter := loop.names
  rw [names_map_parsed] at namesAfter
  refine ⟨_, ?_, namesAfter, loop.device⟩
  unfold processSubscribe
  dsimp only
  rw [if_pos connected, parsedFilters, isType, isFirst, isSecond]
  dsimp only
  rw [codes]
  rfl

/-- What processing a SUBSCRIBE or UNSUBSCRIBE frame comes to. -/
theorem processMessage_filters
    (fits :
      (frame.packet subscribe lengthBytes).bytes.length ≤
        MqttMessage.maxBufferLength)
    (connected : (world.clients client).mqttConnected = true)
    (interned :
      Interned interning world client (frame.filters.length + 1))
    (allowed : ∀ filter ∈ frame.filters, interning.Allowed filter.1) :
    let after :=
      world.processMessage client
        (frame.packet subscribe lengthBytes).message
    after.subscribedNames client =
        changed subscribe (world.subscribedNames client)
          (names frame.filters) ∧
      after.trace.messagesTo client =
        world.trace.messagesTo client ++
          [(MqttMessage.builtPacket (ackType subscribe).code
            (frame.ackBody subscribe)).bytes] := by
  have shortAck := length_ackBody fits
  have kind := frame.kind?_message subscribe lengthBytes
  obtain ⟨later, arm, namesAfter, sameDevice⟩ :=
    @processSubscribe_filters _ _ _ _ interning
      (world.log
        (.processed client (frame.packet subscribe lengthBytes).message))
      client frame subscribe lengthBytes connected interned allowed
  generalize (frame.packet subscribe lengthBytes).message = mesg at *
  have processed :
      world.processMessage client mesg =
        finish client (false, later.sendOwn (frame.ack subscribe) client) := by
    unfold processMessage processMessageWith processKind
    rw [kind, ← arm]
    cases subscribe <;> rfl
  have begun : (frame.ack subscribe).buffer.length ≠ 0 := by
    rw [(buffer_ack shortAck).1]
    exact Nat.succ_ne_zero _
  have sameTrace : later.trace = .processed client mesg :: world.trace := by
    rw [trace, sameDevice]
    rfl
  obtain ⟨finishedTrace, finishedIndexer, _, _, finishedSubscriptions⟩ :=
    finish_open client (later.sendOwn (frame.ack subscribe) client)
  rw [processed]
  constructor
  · rw [subscribedNames, finishedIndexer, finishedSubscriptions,
      clients_sendOwn, indexer_sendOwn]
    exact namesAfter
  · rw [finishedTrace, messagesTo_sendOwn _ _ _ begun,
      encoded_ack shortAck, sameTrace]
    rfl

/-! ## A connected peer -/

/-- The peer of `acceptedRun` has sent its CONNECT frame. -/
def connectedRun : World StringIndexer Script :=
  acceptedRun.processMessage 0 (fullLogin.packet [0x13]).message

/-- Exact interning of names of one byte. -/
def interningOneByte : ExactInterning StringIndexer :=
  StringIndexer.exactInterning
    (fun name => name.length = 1 ∧ 0 ∉ name)
    (fun _ _ isName isOther begins =>
      (begins.eq_of_length (isName.1.trans isOther.1.symm)).symm)
    (fun _ isName => isName.2)
    (fun _ isName => isName.1.trans_le (by decide))

/-- Nothing is interned yet. -/
theorem interned_connectedRun
    {room : Nat}
    (fits : room ≤ 255) :
    Interned interningOneByte connectedRun 0 room where
  exists_held :=
    ⟨fun _ => 0, StringIndexer.tally_empty _ fits, fun _ member =>
      absurd member List.not_mem_nil⟩

/-- Filters `"b"` with QoS 0 and `"c"` with QoS 1. -/
def twoFilters : FilterList where
  identifier := (0x00, 0x02)
  filters := [([0x62], 0), ([0x63], 1)]
  short := by decide

/-- The names of both filters may be interned. -/
theorem allowed_twoFilters :
    ∀ filter ∈ twoFilters.filters, interningOneByte.Allowed filter.1 := by
  change ∀ filter ∈ twoFilters.filters,
    filter.1.length = 1 ∧ (0 : Byte) ∉ filter.1
  decide

/-! ## The answer -/

/--
A received message acknowledges a frame: the identifier, and for SUBSCRIBE one
return code for each filter, in the order of the filters.
-/
structure Acknowledges
    (decoded : MqttMessage)
    (frame : FilterList)
    (subscribe : Bool) : Prop where
  complete : decoded.state = .complete
  type : decoded.kind? = some (ackType subscribe)
  body : decoded.buffer.drop decoded.vheader = frame.ackBody subscribe
  oneEach :
    (decoded.buffer.drop (decoded.vheader + 2)).length =
      if subscribe then frame.filters.length else 0

/-- What was built as the acknowledgement of a frame acknowledges it. -/
theorem acknowledges_builtPacket
    (frame : FilterList)
    (subscribe : Bool) :
    Acknowledges
      (MqttMessage.builtPacket (ackType subscribe).code
        (frame.ackBody subscribe)).message
      frame subscribe := by
  have body :
      (MqttMessage.builtPacket (ackType subscribe).code
            (frame.ackBody subscribe)).message.buffer.drop
          (MqttMessage.builtPacket (ackType subscribe).code
            (frame.ackBody subscribe)).message.vheader =
        frame.ackBody subscribe := by
    simp [MqttMessage.builtPacket, Packet.message, Packet.bytes,
      Nat.add_comm 1]
  refine ⟨rfl, ?_, body, ?_⟩
  · cases subscribe with
    | true =>
        change MqttType.ofCode? ((0x90 &&& 0xF0) &&& 0xF0) = _
        decide
    | false =>
        change MqttType.ofCode? ((0xB0 &&& 0xF0) &&& 0xF0) = _
        decide
  · rw [← List.drop_drop, body]
    cases subscribe <;> simp [ackBody, returnCodes]

/--
With exact interning, a SUBSCRIBE or UNSUBSCRIBE frame is parsed to its end,
adds or removes exactly its filters, and is answered by one message that is
received as its acknowledgement.
-/
theorem filters_processed
    (fits :
      (frame.packet subscribe lengthBytes).bytes.length ≤
        MqttMessage.maxBufferLength)
    (connected : (world.clients client).mqttConnected = true)
    (interned :
      Interned interning world client (frame.filters.length + 1))
    (allowed : ∀ filter ∈ frame.filters, interning.Allowed filter.1) :
    let mesg := (frame.packet subscribe lengthBytes).message
    let after := world.processMessage client mesg
    (∀ fuel, mesg.buffer.length ≤ fuel →
        (MqttClient.parseFilters subscribe mesg.buffer.length fuel
            (mesg.vheader + 2)).run (world.memory mesg) =
          (frame.filters.map (parsed subscribe), mesg.buffer.length)) ∧
      after.subscribedNames client =
        changed subscribe (world.subscribedNames client)
          (names frame.filters) ∧
      ∃ ack,
        after.trace.messagesTo client =
          world.trace.messagesTo client ++ [ack] ∧
        ∀ received : MqttMessage, received.IsReset →
          ∃ decoded, MqttMessage.Reaches received ack decoded ∧
            Acknowledges decoded frame subscribe := by
  obtain ⟨namesAfter, answer⟩ :=
    processMessage_filters fits connected interned allowed
  refine ⟨fun fuel enough =>
      run_parseFilters_message world frame subscribe lengthBytes enough,
    namesAfter, _, answer, ?_⟩
  intro received isReset
  exact ⟨_,
    MqttMessage.reaches_builtPacket _ (length_ackBody fits) isReset,
    acknowledges_builtPacket frame subscribe⟩

/-- Both filters of a frame are subscribed to. -/
theorem filters_processed_twoFilters :
    (connectedRun.processMessage 0
        (twoFilters.packet true [0x0A]).message).subscribedNames 0 =
      changed true (connectedRun.subscribedNames 0)
        (names twoFilters.filters) :=
  (filters_processed (by decide) (by decide)
    (interned_connectedRun (by decide)) allowed_twoFilters).2.1

/-! ## The return codes -/

/--
The acknowledgement tells the truth: a filter that was new is subscribed to if
and only if its return code is not the one for failure.
-/
def Truthful
    (before after : World Index Os)
    (client : ClientId)
    (frame : FilterList) : Prop :=
  ∃ ack,
    after.trace.messagesTo client =
      before.trace.messagesTo client ++ [ack] ∧
    ∀ received : MqttMessage, received.IsReset →
      ∃ decoded, MqttMessage.Reaches received ack decoded ∧
        ∀ (index : Nat) (filter : List Byte × Byte),
          frame.filters[index]? = some filter →
          ∃ code : Byte,
            (decoded.buffer.drop (decoded.vheader + 2))[index]? =
                some code ∧
              (filter.1 ∉ before.subscribedNames client →
                (filter.1 ∈ after.subscribedNames client ↔ code ≠ 0x80))

/-- The return code of a filter is the one for failure unless its QoS is zero. -/
theorem returnCode_ne_iff (filter : List Byte × Byte) :
    returnCode filter ≠ 0x80 ↔ filter.2 = 0 := by
  by_cases zero : filter.2 = 0
  · simp [returnCode, zero]
  · simp [returnCode, zero]

/-- The return codes of an acknowledgement, as they are received. -/
theorem codes_builtPacket (frame : FilterList) :
    let built :=
      (MqttMessage.builtPacket (ackType true).code
        (frame.ackBody true)).message
    built.buffer.drop (built.vheader + 2) =
      frame.filters.map returnCode := by
  dsimp only
  rw [← List.drop_drop, (acknowledges_builtPacket frame true).body]
  rfl

/-- After a SUBSCRIBE frame the client is subscribed to every filter. -/
theorem subscribed_after
    (fits :
      (frame.packet true lengthBytes).bytes.length ≤
        MqttMessage.maxBufferLength)
    (connected : (world.clients client).mqttConnected = true)
    (interned :
      Interned interning world client (frame.filters.length + 1))
    (allowed : ∀ filter ∈ frame.filters, interning.Allowed filter.1)
    {filter : List Byte × Byte}
    (member : filter ∈ frame.filters) :
    filter.1 ∈
      (world.processMessage client
        (frame.packet true lengthBytes).message).subscribedNames client := by
  rw [(processMessage_filters fits connected interned allowed).1]
  exact .inr ⟨filter, member, rfl⟩

/-- A truthful acknowledgement is for new filters with QoS 0 only. -/
theorem qos_of_truthful
    (fits :
      (frame.packet true lengthBytes).bytes.length ≤
        MqttMessage.maxBufferLength)
    (connected : (world.clients client).mqttConnected = true)
    (interned :
      Interned interning world client (frame.filters.length + 1))
    (allowed : ∀ filter ∈ frame.filters, interning.Allowed filter.1)
    (truthful :
      Truthful world
        (world.processMessage client (frame.packet true lengthBytes).message)
        client frame)
    {filter : List Byte × Byte}
    (member : filter ∈ frame.filters)
    (isNew : filter.1 ∉ world.subscribedNames client) :
    filter.2 = 0 := by
  obtain ⟨ack, isAck, decodes⟩ := truthful
  have answer :=
    (processMessage_filters fits connected interned allowed).2
  have sameAck :
      ack =
        (MqttMessage.builtPacket (ackType true).code
          (frame.ackBody true)).bytes :=
    (List.cons.inj (List.append_cancel_left (isAck.symm.trans answer))).1
  have isReset : MqttMessage.fresh.IsReset := ⟨rfl, rfl, rfl⟩
  obtain ⟨decoded, reaches, isTrue⟩ := decodes .fresh isReset
  have built :=
    MqttMessage.reaches_builtPacket (ackType true).code
      (length_ackBody fits) isReset
  rw [← sameAck] at built
  have isDecoded := reaches.foldl_eq.symm.trans built.foldl_eq
  obtain ⟨index, isFilter⟩ := List.getElem?_of_mem member
  obtain ⟨code, isCode, exactly⟩ := isTrue index filter isFilter
  rw [isDecoded, codes_builtPacket, List.getElem?_map, isFilter] at isCode
  have sameCode : returnCode filter = code := by simpa using isCode
  apply (returnCode_ne_iff filter).mp
  rw [sameCode]
  exact (exactly isNew).mp
    (subscribed_after fits connected interned allowed member)

/--
With exact interning, the acknowledgement of a SUBSCRIBE frame tells the truth
if and only if every new filter asks for QoS 0.
-/
theorem truthful_iff
    (fits :
      (frame.packet true lengthBytes).bytes.length ≤
        MqttMessage.maxBufferLength)
    (connected : (world.clients client).mqttConnected = true)
    (interned :
      Interned interning world client (frame.filters.length + 1))
    (allowed : ∀ filter ∈ frame.filters, interning.Allowed filter.1) :
    Truthful world
        (world.processMessage client (frame.packet true lengthBytes).message)
        client frame ↔
      ∀ filter ∈ frame.filters,
        filter.1 ∉ world.subscribedNames client → filter.2 = 0 := by
  constructor
  · intro truthful filter member isNew
    exact qos_of_truthful fits connected interned allowed truthful member isNew
  · intro zero
    have answer :=
      (processMessage_filters fits connected interned allowed).2
    refine ⟨_, answer, fun received isReset =>
      ⟨_, MqttMessage.reaches_builtPacket _ (length_ackBody fits) isReset, ?_⟩⟩
    intro index filter isFilter
    have member := List.mem_of_getElem? isFilter
    refine ⟨returnCode filter, ?_, fun isNew => ?_⟩
    · rw [codes_builtPacket, List.getElem?_map, isFilter, Option.map_some]
    · exact iff_of_true
        (subscribed_after fits connected interned allowed member)
        ((returnCode_ne_iff filter).mpr (zero filter member isNew))

/-- A single filter with QoS 0. -/
def oneFilter : FilterList where
  identifier := (0x00, 0x02)
  filters := [([0x62], 0)]
  short := by decide

/-- Its acknowledgement is truthful. -/
theorem truthful_oneFilter :
    Truthful connectedRun
      (connectedRun.processMessage 0 (oneFilter.packet true [0x06]).message)
      0 oneFilter :=
  (truthful_iff (by decide) (by decide) (interned_connectedRun (by decide))
    (by
      intro filter member
      cases List.mem_singleton.mp member
      exact ⟨rfl, by decide⟩)).mpr
    (by
      intro filter member _
      cases List.mem_singleton.mp member
      rfl)

/-- The second filter is subscribed to, and its return code says failure. -/
theorem untruthful_twoFilters :
    ((connectedRun.clients 0).mqttConnected = true ∧
      Interned interningOneByte connectedRun 0 3 ∧
        (∀ filter ∈ twoFilters.filters,
          interningOneByte.Allowed filter.1) ∧
          (twoFilters.filters.map Prod.fst).Nodup) ∧
      ¬ Truthful connectedRun
        (connectedRun.processMessage 0
          (twoFilters.packet true [0x0A]).message)
        0 twoFilters := by
  have interned : Interned interningOneByte connectedRun 0 3 :=
    interned_connectedRun (by decide)
  refine ⟨⟨by decide, interned, allowed_twoFilters, by decide⟩, ?_⟩
  intro truthful
  have isNew : [0x63] ∉ connectedRun.subscribedNames 0 := by
    rintro ⟨topic, member, _⟩
    exact List.not_mem_nil member
  have zero :=
    @qos_of_truthful _ _ _ _ interningOneByte connectedRun 0 twoFilters [0x0A]
      (by decide) (by decide) interned allowed_twoFilters truthful
      ([0x63], 1) (by decide) isNew
  contradiction

end World

end SimpleTlsBroker
