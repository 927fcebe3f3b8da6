import SimpleTlsBroker.Acknowledgements
import SimpleTlsBroker.Lifecycle

namespace SimpleTlsBroker

/-!
# The subscription requests of a client

`sendTopic` and `resubscribe` write a QoS byte behind every topic, whatever the
type of the message.  The topic loop of the peer reads one with SUBSCRIBE only,
so behind the topic of an UNSUBSCRIBE request it finds one byte of another
length, and takes the terminator of the buffer for the second one.
-/

open Memory

/-- Copying a topic keeps its string, and destroying the copy undoes it. -/
structure Indexer.CopiedAt
    {Index : Type}
    [Indexer Index]
    (indexer : Index)
    (topic : Topic) : Prop where
  str :
    Indexer.str (Indexer.use indexer topic) topic =
      Indexer.str indexer topic
  released :
    Indexer.release (Indexer.use indexer topic) topic = indexer

/-- Live entries of the source are copied exactly, and so are missing ones. -/
theorem StringIndexer.copiedAt
    {indexer : StringIndexer}
    {topic : Topic}
    (live :
      ∀ counter, indexer.strings topic.index = some counter →
        0 < counter.used ∧ counter.used < 256) :
    Indexer.CopiedAt indexer topic := by
  constructor
  case str => exact str_of_use indexer topic topic
  case released => exact release_use live

/-! ## The messages -/

/-- The calls of `add`: a packet identifier, and each topic with a QoS. -/
def requestCalls
    (filters : List (List Byte × Byte)) : List MqttMessage.AddCall :=
  .byte 0 :: .byte 0 ::
    filters.flatMap fun filter => [.string filter.1, .byte filter.2]

/-- The body of the message, with the items of a SUBSCRIBE frame. -/
def requestBody (filters : List (List Byte × Byte)) : List Byte :=
  0 :: 0 :: filters.flatMap (FilterList.item true)

/-- The calls add this body. -/
theorem added_requestCalls (filters : List (List Byte × Byte)) :
    (requestCalls filters).flatMap MqttMessage.AddCall.added =
      requestBody filters := by
  have items :
      (filters.flatMap fun filter =>
          [MqttMessage.AddCall.string filter.1, .byte filter.2]).flatMap
        MqttMessage.AddCall.added =
      filters.flatMap (FilterList.item true) := by
    rw [List.flatMap_assoc]
    congr 1
  simp only [requestCalls, List.flatMap_cons, items, requestBody,
    MqttMessage.AddCall.added, List.singleton_append]

/-- The packet that is sent. -/
def requestPacket
    (type : MqttType)
    (filters : List (List Byte × Byte)) : Packet :=
  MqttMessage.builtPacket (type.code ||| 2) (requestBody filters)

/-- A request of a client. -/
inductive SubscriptionRequest where
  /-- `sendTopic(topic, Subscribe, qos)`. -/
  | subscribe (topic : Topic) (qos : Byte)
  /-- `sendTopic(topic, UnSubscribe, 0)`. -/
  | unsubscribe (topic : Topic)
  /-- `resubscribe()`. -/
  | resubscribe

namespace SubscriptionRequest

/-- Is the message a SUBSCRIBE message? -/
def subscribes : SubscriptionRequest → Bool
  | .subscribe _ _ => true
  | .unsubscribe _ => false
  | .resubscribe => true

/-- The type of the message. -/
def type (request : SubscriptionRequest) : MqttType :=
  if request.subscribes then .subscribe else .unSubscribe

variable {Index Os : Type}

/-- The topics that the request is about. -/
def topics
    (request : SubscriptionRequest)
    (world : World Index Os)
    (client : ClientId) : List Topic :=
  match request with
  | .subscribe topic _ => [topic]
  | .unsubscribe topic => [topic]
  | .resubscribe => (world.clients client).subscriptions.items

/-- The QoS that is written behind each of them. -/
def qos : SubscriptionRequest → Byte
  | .subscribe _ qos => qos
  | .unsubscribe _ => 0
  | .resubscribe => 0

variable [Indexer Index]

/-- The names of these topics. -/
def names
    (request : SubscriptionRequest)
    (world : World Index Os)
    (client : ClientId) : List (List Byte) :=
  (request.topics world client).map (Indexer.str world.indexer)

/-- Each name with the QoS. -/
def filters
    (request : SubscriptionRequest)
    (world : World Index Os)
    (client : ClientId) : List (List Byte × Byte) :=
  (request.names world client).map fun name => (name, request.qos)

/-- The frame that the request has to send. -/
def packet
    (request : SubscriptionRequest)
    (world : World Index Os)
    (client : ClientId) : Packet :=
  requestPacket request.type (request.filters world client)

variable [Platform Os]

/-- Make the request. -/
def perform
    (request : SubscriptionRequest)
    (world : World Index Os)
    (client : ClientId) : World Index Os :=
  match request with
  | .subscribe topic qos =>
      (world.sendTopic client topic MqttType.subscribe.code qos).2
  | .unsubscribe topic =>
      (world.sendTopic client topic MqttType.unSubscribe.code 0).2
  | .resubscribe => world.resubscribe client

end SubscriptionRequest

/-- A QoS behind the last topic and the terminator make an empty topic. -/
theorem MqttClient.run_parseFilters_behind
    {memory : Nat → Byte}
    {name : List Byte}
    {payload : Nat}
    (field : Holds memory payload (stringField name))
    (qos : memory (payload + (name.length + 2)) = 0)
    (terminator : memory (payload + name.length + 3) = 0)
    (short : name.length ≤ 255)
    (fuel : Nat) :
    (parseFilters false (payload + name.length + 3) (fuel + 3) payload).run
        memory =
      ([(name, 0), ([], 0)], payload + name.length + 3 + 1) := by
  have item : FilterList.item false (name, 0) = stringField name := by
    simp [FilterList.item]
  have first :=
    @run_parseFilters_item memory false (name, 0) payload
      (payload + name.length + 3) (item ▸ field) short (by omega) (fuel + 2)
  have behind :
      (parseFilters false (payload + name.length + 3) (fuel + 2)
          (payload + (name.length + 2))).run memory =
        ([([], 0)], payload + name.length + 3 + 1) := by
    have more :
        payload + (name.length + 2) < payload + name.length + 3 := by
      omega
    have next :
        payload + (name.length + 2) + 1 = payload + name.length + 3 := by
      omega
    have stops (fuel : Nat) :
        (parseFilters false (payload + name.length + 3) fuel
            (payload + name.length + 3 + 1)).run memory =
          ([], payload + name.length + 3 + 1) := by
      cases fuel with
      | zero => rfl
      | succ fuel => simp [parseFilters]
    have empty :
        (Parse.getString (payload + (name.length + 2))).run memory =
          (payload + name.length + 3 + 1, 0) := by
      simp only [Parse.getString, Parse.readWord, Parse.run_bind,
        Parse.run_pure, Parse.run_readByte, qos, next, terminator,
        UInt8.toNat_zero, Nat.zero_shiftLeft, Nat.or_self, Prod.mk.injEq,
        and_true]
      omega
    rw [parseFilters, if_pos more]
    simp only [Bool.false_eq_true, if_false, Parse.run_bind, Parse.run_pure,
      empty, Nat.add_zero, stops]
    rfl
  rw [item, length_stringField, behind] at first
  exact first

namespace World

variable {Index Os : Type} [Platform Os] [Indexer Index]
variable {world : World Index Os}
variable {client : ClientId}

omit [Platform Os] in
/-- The loop of `resubscribe` adds every topic, and the table stays as it is. -/
theorem foldl_resubscribe
    {indexer : Index}
    {topics : List Topic}
    (copied : ∀ topic ∈ topics, Indexer.CopiedAt indexer topic)
    (msg : MqttMessage) :
    topics.foldl
        (fun (msg, indexer) topic =>
          let indexer := Indexer.use indexer topic
          ((msg.addString (Indexer.str indexer topic)).add 0,
            Indexer.release indexer topic))
        (msg, indexer) =
      ((topics.flatMap fun topic =>
          [MqttMessage.AddCall.string (Indexer.str indexer topic),
            .byte 0]).foldl MqttMessage.AddCall.apply msg,
        indexer) := by
  induction topics generalizing msg with
  | nil => rfl
  | cons topic rest inductionHypothesis =>
      have isCopied := copied topic List.mem_cons_self
      rw [List.foldl_cons, List.flatMap_cons, List.foldl_append]
      dsimp only
      rw [isCopied.released, isCopied.str]
      exact inductionHypothesis
        (fun other member => copied other (List.mem_cons_of_mem topic member))
        _

/-- `sendTopic` sends the message built by these calls. -/
theorem sendTopic_eq_sendOwn
    (world : World Index Os)
    (client : ClientId)
    (topic : Topic)
    (type qos : Byte) :
    (world.sendTopic client topic type qos).2 =
      world.sendOwn
        ((requestCalls [(Indexer.str world.indexer topic, qos)]).foldl
          MqttMessage.AddCall.apply (MqttMessage.ofType type 2)) client :=
  rfl

/-- `resubscribe` sends one message, unless there is nothing to subscribe. -/
theorem resubscribe_eq_sendOwn
    (copied :
      ∀ topic ∈ (world.clients client).subscriptions,
        Indexer.CopiedAt world.indexer topic) :
    world.resubscribe client =
      if (world.clients client).subscriptions.items ≠ [] then
        world.sendOwn
          ((requestCalls
              (SubscriptionRequest.resubscribe.filters world client)).foldl
            MqttMessage.AddCall.apply
            (MqttMessage.ofType MqttType.subscribe.code 2)) client
      else
        world := by
  have calls :
      requestCalls (SubscriptionRequest.resubscribe.filters world client) =
        .byte 0 :: .byte 0 ::
          (world.clients client).subscriptions.items.flatMap fun topic =>
            [.string (Indexer.str world.indexer topic), .byte 0] := by
    simp [requestCalls, SubscriptionRequest.filters,
      SubscriptionRequest.names, SubscriptionRequest.topics,
      SubscriptionRequest.qos, List.flatMap_map]
  rw [calls]
  unfold resubscribe
  dsimp only
  rw [foldl_resubscribe copied]
  rfl

/-- A request sends its packet, if it is about any topics. -/
theorem messagesTo_perform
    (request : SubscriptionRequest)
    (copied :
      ∀ topic ∈ request.topics world client,
        Indexer.CopiedAt world.indexer topic)
    (fits :
      (request.packet world client).bytes.length ≤
        MqttMessage.maxBufferLength) :
    (request.perform world client).trace.messagesTo client =
      world.trace.messagesTo client ++
        if request.topics world client = [] then
          []
        else
          [(request.packet world client).bytes] := by
  have bounded := MqttMessage.length_added_le fits
  rw [← added_requestCalls] at bounded
  have sent :=
    messagesTo_sendCalls world request.type.code 2
      (requestCalls (request.filters world client)) client bounded
  rw [added_requestCalls] at sent
  cases request with
  | subscribe topic qos => exact sent
  | unsubscribe topic => exact sent
  | resubscribe =>
      change (world.resubscribe client).trace.messagesTo client = _
      rw [resubscribe_eq_sendOwn copied]
      by_cases empty : (world.clients client).subscriptions.items = []
      · simp [SubscriptionRequest.topics, empty]
      · rw [if_pos empty]
        exact sent.trans (by simp [SubscriptionRequest.topics, empty]; rfl)

/-! ## The topic loop of the peer -/

/-- What the topic loop makes of a message: the filters, and its cursor. -/
def topicLoop
    (world : World Index Os)
    (subscribe : Bool)
    (mesg : MqttMessage) : List (List Byte × Byte) × Nat :=
  (MqttClient.parseFilters subscribe mesg.buffer.length mesg.buffer.length
      (mesg.vheader + 2)).run
    (world.memory mesg)

/-- The peer finds some topics in a message, and nothing else. -/
structure Understood
    (world : World Index Os)
    (subscribe : Bool)
    (mesg : MqttMessage)
    (names : List (List Byte)) : Prop where
  kind :
    mesg.kind? = some (if subscribe then .subscribe else .unSubscribe)
  names : (world.topicLoop subscribe mesg).1.map Prod.fst = names
  cursor : (world.topicLoop subscribe mesg).2 = mesg.buffer.length

variable {filters : List (List Byte × Byte)}

omit [Indexer Index] in
/-- A SUBSCRIBE request is understood. -/
theorem understood_subscribe
    (world : World Index Os)
    (short : ∀ filter ∈ filters, filter.1.length ≤ 255) :
    Understood world true (requestPacket .subscribe filters).message
      (filters.map Prod.fst) := by
  let frame : FilterList := ⟨(0, 0), filters, short⟩
  have isFrame :
      requestPacket .subscribe filters =
        frame.packet true (VarInt.encode (requestBody filters).length) := rfl
  have parsed :=
    run_parseFilters_message world frame true
      (VarInt.encode (requestBody filters).length) (Nat.le_refl _)
  rw [← isFrame] at parsed
  refine ⟨FilterList.kind?_message frame true _, ?_, ?_⟩
  · rw [topicLoop, parsed]
    simp [FilterList.parsed, frame]
  · rw [topicLoop, parsed]

omit [Indexer Index] in
/-- Behind the topic of an UNSUBSCRIBE request the loop finds an empty one. -/
theorem topicLoop_unsubscribe
    (world : World Index Os)
    {name : List Byte}
    (short : name.length ≤ 255) :
    world.topicLoop false (requestPacket .unSubscribe [(name, 0)]).message =
      ([(name, 0), ([], 0)],
        (requestPacket .unSubscribe [(name, 0)]).message.buffer.length +
          1) := by
  have holds :=
    Packet.holds_body world (requestPacket .unSubscribe [(name, 0)])
  have atEnd :=
    Packet.end_message (requestPacket .unSubscribe [(name, 0)])
  have terminator :
      world.memory (requestPacket .unSubscribe [(name, 0)]).message
          (requestPacket .unSubscribe [(name, 0)]).message.buffer.length =
        0 := by
    simp [memory]
  have length :
      (requestPacket .unSubscribe [(name, 0)]).body.length =
        name.length + 5 := by
    simp [requestPacket, MqttMessage.builtPacket, requestBody,
      FilterList.item]
  generalize (requestPacket .unSubscribe [(name, 0)]).message = mesg at *
  simp only [requestPacket, MqttMessage.builtPacket, requestBody,
    FilterList.item, List.flatMap_cons, List.flatMap_nil, if_true,
    List.append_nil, holds_cons, holds_append, length_stringField] at holds
  obtain ⟨_, _, field, qos, _⟩ := holds
  have isEnd : mesg.buffer.length = mesg.vheader + 2 + name.length + 3 := by
    omega
  rw [isEnd] at terminator
  have parsed :=
    MqttClient.run_parseFilters_behind field qos terminator short
      (mesg.vheader + name.length + 2)
  have isFuel :
      mesg.vheader + name.length + 2 + 3 =
        mesg.vheader + 2 + name.length + 3 := by
    omega
  rw [isFuel] at parsed
  rw [topicLoop, isEnd, parsed]

omit [Indexer Index] in
/-- An UNSUBSCRIBE request is not understood. -/
theorem not_understood_unsubscribe
    (world : World Index Os)
    {name : List Byte}
    (short : name.length ≤ 255) :
    ¬ Understood world false
        (requestPacket .unSubscribe [(name, 0)]).message [name] := by
  intro understood
  have names := understood.names
  rw [topicLoop_unsubscribe world short] at names
  simp at names

variable {Index' Os' : Type} [Platform Os']

/--
What a request sends is received as one message, in which the peer finds
exactly the topics of the request.
-/
def Agrees
    (sender : World Index Os)
    (client : ClientId)
    (request : SubscriptionRequest)
    (receiver : World Index' Os') : Prop :=
  ∃ messages,
    (request.perform sender client).trace.messagesTo client =
        sender.trace.messagesTo client ++ messages ∧
      (messages = [] ↔ request.topics sender client = []) ∧
        ∀ sent ∈ messages, ∀ received : MqttMessage, received.IsReset →
          (sent.foldl MqttMessage.incoming received).state = .complete ∧
            Understood receiver request.subscribes
              (sent.foldl MqttMessage.incoming received)
              (request.names sender client)

/-- The packet of the request decides alone. -/
theorem agrees_iff_understood
    {request : SubscriptionRequest}
    {receiver : World Index' Os'}
    (copied :
      ∀ topic ∈ request.topics world client,
        Indexer.CopiedAt world.indexer topic)
    (fits :
      (request.packet world client).bytes.length ≤
        MqttMessage.maxBufferLength) :
    Agrees world client request receiver ↔
      (request.topics world client ≠ [] →
        Understood receiver request.subscribes
          (request.packet world client).message
          (request.names world client)) := by
  have sends := messagesTo_perform request copied fits
  have received (message : MqttMessage) (isReset : message.IsReset) :
      (request.packet world client).bytes.foldl MqttMessage.incoming message =
        (request.packet world client).message :=
    (MqttMessage.reaches_builtPacket _ (MqttMessage.length_added_le fits)
      isReset).foldl_eq
  by_cases empty : request.topics world client = []
  · rw [if_pos empty] at sends
    refine iff_of_true ⟨[], sends, by simp [empty], ?_⟩ (absurd empty)
    exact fun _ member => absurd member List.not_mem_nil
  · rw [if_neg empty] at sends
    constructor
    · rintro ⟨messages, areSent, _, arrive⟩ _
      obtain rfl := List.append_cancel_left (areSent.symm.trans sends)
      have understood :=
        (arrive _ List.mem_cons_self .fresh ⟨rfl, rfl, rfl⟩).2
      rw [received .fresh ⟨rfl, rfl, rfl⟩] at understood
      exact understood
    · intro understood
      refine ⟨_, sends, by simp [empty], ?_⟩
      intro sent member message isReset
      obtain rfl := List.mem_singleton.mp member
      rw [received message isReset]
      exact ⟨rfl, understood empty⟩

/--
With exact interning the peer finds exactly the topics of a request in its
message, if and only if it is a SUBSCRIBE message.
-/
theorem agrees_iff_subscribes
    {request : SubscriptionRequest}
    {receiver : World Index' Os'}
    (copied :
      ∀ topic ∈ request.topics world client,
        Indexer.CopiedAt world.indexer topic)
    (short :
      ∀ topic ∈ request.topics world client,
        (Indexer.str world.indexer topic).length ≤ 255)
    (fits :
      (request.packet world client).bytes.length ≤
        MqttMessage.maxBufferLength) :
    Agrees world client request receiver ↔ request.subscribes = true := by
  rw [agrees_iff_understood copied fits]
  have names :
      (request.filters world client).map Prod.fst =
        request.names world client := by
    simp [SubscriptionRequest.filters, Function.comp_def]
  have shortNames :
      ∀ filter ∈ request.filters world client, filter.1.length ≤ 255 := by
    intro filter member
    simp only [SubscriptionRequest.filters, SubscriptionRequest.names,
      List.mem_map] at member
    obtain ⟨_, ⟨topic, isTopic, rfl⟩, rfl⟩ := member
    exact short topic isTopic
  have understood := understood_subscribe receiver shortNames
  rw [names] at understood
  cases request with
  | subscribe topic qos => exact iff_of_true (fun _ => understood) rfl
  | resubscribe => exact iff_of_true (fun _ => understood) rfl
  | unsubscribe topic =>
      refine iff_of_false ?_ Bool.false_ne_true
      intro isUnderstood
      exact not_understood_unsubscribe receiver
        (short topic List.mem_cons_self)
        (isUnderstood (List.cons_ne_nil topic []))

/-- A client of a remote broker, subscribed to `"a"`. -/
def subscriber : World StringIndexer Script :=
  let world := (Script.mk 0 [] [] []).setup.newClient none [] 0
  (world.internTopic [0x61]).2.insertSubscription 0 ⟨1⟩

/-- Its topic is live. -/
theorem copiedAt_subscriber :
    Indexer.CopiedAt subscriber.indexer ⟨1⟩ := by
  apply StringIndexer.copiedAt
  intro counter entry
  have isEntry : subscriber.indexer.strings 1 = some ⟨[0x61], 2⟩ := by
    decide
  obtain rfl := Option.some.inj (isEntry.symm.trans entry)
  decide

/-- The client subscribes again, and the peer finds its topic. -/
theorem agrees_resubscribe :
    Agrees subscriber 0 .resubscribe acceptedRun := by
  have topics :
      SubscriptionRequest.resubscribe.topics subscriber 0 = [⟨1⟩] := by
    decide
  have fits :
      (SubscriptionRequest.resubscribe.packet subscriber 0).bytes.length ≤
        MqttMessage.maxBufferLength :=
    MqttMessage.fits_builtPacket _ (by decide)
  refine (agrees_iff_subscribes ?_ ?_ fits).mpr rfl
  · intro topic member
    rw [topics] at member
    obtain rfl := List.mem_singleton.mp member
    exact copiedAt_subscriber
  · rw [topics]
    decide

/-- The client unsubscribes, and the peer finds an empty topic besides. -/
theorem not_agrees_unsubscribe :
    Indexer.str subscriber.indexer ⟨1⟩ = [0x61] ∧
      ¬ Agrees subscriber 0 (.unsubscribe ⟨1⟩) acceptedRun := by
  refine ⟨by decide, ?_⟩
  have fits :
      ((SubscriptionRequest.unsubscribe ⟨1⟩).packet
          subscriber 0).bytes.length ≤
        MqttMessage.maxBufferLength :=
    MqttMessage.fits_builtPacket _ (by decide)
  rw [agrees_iff_understood _ fits]
  · intro understood
    exact @not_understood_unsubscribe _ _ _ acceptedRun [0x61] (by decide)
      (understood (List.cons_ne_nil _ _))
  · intro topic member
    obtain rfl := List.mem_singleton.mp member
    exact copiedAt_subscriber

end World

end SimpleTlsBroker
