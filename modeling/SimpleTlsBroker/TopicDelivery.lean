import SimpleTlsBroker.Acknowledgements
import SimpleTlsBroker.PublishPayload
import SimpleTlsBroker.StepTransitions

namespace SimpleTlsBroker

/-!
# A subscription and a publication

One peer sends a SUBSCRIBE frame with one filter, then another one sends a
PUBLISH frame.  Names of any length are considered; what the broker makes of
them is their `Topic.cut`.  The subscriber is sent the PUBLISH frame if and
only if no upstream broker is connected and one of its topics matches.
-/

open Memory

/-- The contents of a SUBSCRIBE frame with one filter. -/
structure Subscription where
  identifier : Byte × Byte
  name : List Byte
  qos : Byte
  deriving Repr, DecidableEq

namespace Subscription

/-- The frame, with a given encoding of its length. -/
def packet
    (subscription : Subscription)
    (lengthBytes : List Byte) : Packet where
  first := MqttType.subscribe.code ||| 0x02
  lengthBytes := lengthBytes
  body :=
    subscription.identifier.1 :: subscription.identifier.2 ::
      FilterList.item true (subscription.name, subscription.qos)

/-- The frame is dispatched by its type. -/
theorem kind?_message
    (subscription : Subscription)
    (lengthBytes : List Byte) :
    (subscription.packet lengthBytes).message.kind? = some .subscribe := by
  change MqttType.ofCode? (((0x80 ||| 0x02) &&& 0xF0) &&& 0xF0) = _
  decide

/-- The length of one filter. -/
theorem length_item (subscription : Subscription) :
    (FilterList.item true (subscription.name, subscription.qos)).length =
      subscription.name.length + 3 := by
  simp [FilterList.item]

/-- The length of the body. -/
theorem length_body
    (subscription : Subscription)
    (lengthBytes : List Byte) :
    (subscription.packet lengthBytes).body.length =
      subscription.name.length + 5 := by
  have item := subscription.length_item
  simp only [packet, List.length_cons]
  omega

/-- A name that fits into a frame fits into a length field. -/
theorem length_name_lt
    {subscription : Subscription}
    {lengthBytes : List Byte}
    (fits :
      (subscription.packet lengthBytes).bytes.length ≤
        MqttMessage.maxBufferLength) :
    subscription.name.length < 65536 := by
  rw [Packet.length_bytes, length_body, MqttMessage.maxBufferLength] at fits
  omega

end Subscription

/-- The messages to a client are among the services. -/
theorem Trace.messagesTo_services
    (trace : Trace)
    (client : ClientId) :
    trace.messagesTo client =
      trace.services.filterMap (Event.sentTo? client) := by
  unfold messagesTo services
  rw [List.filterMap_reverse, List.filterMap_filter]
  congr 2
  funext event
  cases event <;> simp [Event.isService, Event.sentTo?]

namespace World

variable {Index Os : Type} [Platform Os]

/-- A client that is attached to a broker over the network and logged in. -/
structure Peer
    (world : World Index Os)
    (broker : BrokerId)
    (client : ClientId) : Prop where
  member : client ∈ world.members broker
  isRemote : (world.clients client).client = true
  connected : (world.clients client).mqttConnected = true

variable [Indexer Index]
variable {world : World Index Os}
variable {broker : BrokerId}
variable {client subscriber publisher source : ClientId}
variable {topic : Topic}
variable {msg : MqttMessage}
variable {name : List Byte}
variable {subscription : Subscription}
variable {publication : Publication}
variable {lengthBytes lengthBytes' : List Byte}

/-! ## The SUBSCRIBE frame -/

omit [Indexer Index] in
/-- The topic loop makes one filter of the frame, with the name cut. -/
theorem run_parseFilters_subscription
    (world : World Index Os)
    (fits :
      (subscription.packet lengthBytes).bytes.length ≤
        MqttMessage.maxBufferLength) :
    let mesg := (subscription.packet lengthBytes).message
    ((MqttClient.parseFilters true mesg.buffer.length mesg.buffer.length
        (mesg.vheader + 2)).run (world.memory mesg)).1 =
      [(Topic.cut subscription.name, subscription.qos)] := by
  have short := Subscription.length_name_lt fits
  have holds := (subscription.packet lengthBytes).holds_body world
  have atEnd := (subscription.packet lengthBytes).end_message
  have length := subscription.length_item
  rw [Subscription.length_body] at atEnd
  obtain ⟨_, _, item⟩ := holds
  dsimp only
  generalize (subscription.packet lengthBytes).message = mesg at *
  have ending :
      mesg.buffer.length =
        mesg.vheader + 2 +
          (FilterList.item true
            (subscription.name, subscription.qos)).length := by
    omega
  have more : mesg.vheader + 2 < mesg.buffer.length := by omega
  obtain ⟨fuel, isFuel⟩ :=
    Nat.exists_eq_succ_of_ne_zero (Nat.ne_of_gt (Nat.zero_lt_of_lt more))
  have round := MqttClient.run_parseFilters_cut item short more fuel
  have stops :
      ((MqttClient.parseFilters true mesg.buffer.length fuel
        mesg.buffer.length).run (world.memory mesg)).1 = [] := by
    cases fuel with
    | zero => rfl
    | succ fuel => simp [MqttClient.parseFilters]
  rw [← ending, ← Nat.succ_eq_add_one, ← isFuel] at round
  rw [round]
  dsimp only
  rw [stops]
  rfl

omit [Indexer Index] in
/-- An answer disturbs nothing. -/
theorem Undisturbed.sendOwn
    (apart : SessionsApart Os)
    (world : World Index Os)
    (message : MqttMessage)
    (client : ClientId) :
    Undisturbed world (world.sendOwn message client) := by
  unfold World.sendOwn World.sendTo
  split
  · exact (Undisturbed.log world _).trans (.writeClient apart _ client _)
  · exact .refl world

/-- The topic that a SUBSCRIBE frame inserts, and the table afterwards. -/
def subscribedRound
    (world : World Index Os)
    (client : ClientId)
    (name : List Byte) : Topic × Index :=
  ExactInterning.subscribeRound world.indexer
    (world.clients client).subscriptions name

/-- The world with the topic inserted. -/
def subscribed
    (world : World Index Os)
    (client : ClientId)
    (name : List Byte) : World Index Os :=
  { world with
      indexer := (world.subscribedRound client name).2 }.modifyClient client
    fun record =>
      { record with
        subscriptions :=
          record.subscriptions.insert (world.subscribedRound client name).1 }

omit [Platform Os] in
/-- Inserting a topic changes nothing else. -/
theorem clients_subscribed
    (world : World Index Os)
    (client other : ClientId)
    (name : List Byte) :
    ∃ subscriptions,
      (world.subscribed client name).clients other =
        { world.clients other with subscriptions := subscriptions } := by
  by_cases same : other = client
  · subst same
    exact ⟨_, clients_modifyClient_self _ _ _⟩
  · exact ⟨(world.clients other).subscriptions,
      clients_modifyClient_other _ _ same⟩

/-- Nor does it change whether the upstream link is connected. -/
theorem upstreamConnected_subscribed
    (world : World Index Os)
    (client : ClientId)
    (name : List Byte)
    (broker : BrokerId) :
    (world.subscribed client name).upstreamConnected broker =
      world.upstreamConnected broker := by
  have brokers : (world.subscribed client name).brokers = world.brokers := rfl
  unfold upstreamConnected
  rw [brokers]
  cases (world.brokers broker).broker with
  | none => rfl
  | some upstream =>
      obtain ⟨subscriptions, record⟩ :=
        world.clients_subscribed client upstream name
      unfold World.connected
      dsimp only
      rw [record]
      rfl

/-- What a SUBSCRIBE frame leaves: a topic in the set of its client. -/
structure SubscribedTo
    (before after : World Index Os)
    (client : ClientId)
    (inserted : Topic)
    (table : Index) : Prop where
  indexer : after.indexer = table
  brokers : after.brokers = before.brokers
  subscriptions :
    (after.clients client).subscriptions =
      (before.clients client).subscriptions.insert inserted
  isRemote : (after.clients client).client = (before.clients client).client
  others : ∀ other ≠ client, after.clients other = before.clients other
  upstreamConnected :
    ∀ broker,
      after.upstreamConnected broker = before.upstreamConnected broker

/-- A world that only differs by what nobody looks at is left, too. -/
theorem Undisturbed.subscribedTo
    {before after : World Index Os}
    {inserted : Topic}
    {table : Index}
    (round : before.subscribedRound client name = (inserted, table))
    (undisturbed : Undisturbed (before.subscribed client name) after)
    (others : ∀ other ≠ client, after.clients other = before.clients other) :
    SubscribedTo before after client inserted table where
  indexer := undisturbed.indexer.trans (congrArg Prod.snd round)
  brokers := undisturbed.brokers
  subscriptions := by
    rw [undisturbed.subscriptions, subscribed, clients_modifyClient_self,
      round]
  isRemote := by
    obtain ⟨subscriptions, record⟩ :=
      before.clients_subscribed client client name
    rw [undisturbed.client, record]
  others := others
  upstreamConnected broker := by
    rw [undisturbed.upstreamConnected, upstreamConnected_subscribed]

/-- A SUBSCRIBE frame with one filter inserts its topic. -/
theorem processMessage_subscription
    (apart : SessionsApart Os)
    (fits :
      (subscription.packet lengthBytes).bytes.length ≤
        MqttMessage.maxBufferLength)
    (connected : (world.clients client).mqttConnected = true)
    {inserted : Topic}
    {table : Index}
    (round :
      world.subscribedRound client (Topic.cut subscription.name) =
        (inserted, table)) :
    SubscribedTo world
      (world.processMessage client (subscription.packet lengthBytes).message)
      client inserted table := by
  have kind := subscription.kind?_message lengthBytes
  have filters :=
    run_parseFilters_subscription
      (world.log
        (.processed client (subscription.packet lengthBytes).message)) fits
  dsimp only at filters
  generalize (subscription.packet lengthBytes).message = mesg at *
  have filtered :=
    processFilter_subscribe (world.log (.processed client mesg)) client []
      (Topic.cut subscription.name, subscription.qos)
  obtain ⟨ack, processed⟩ :
      ∃ ack,
        world.processMessage client mesg =
          finish client
            (false,
              ((world.subscribed client (Topic.cut subscription.name)).log
                (.processed client mesg)).sendOwn ack client) := by
    apply Exists.intro
    unfold processMessage processMessageWith processKind
    rw [kind]
    dsimp only
    unfold processSubscribe
    rw [clients_log, if_pos connected]
    dsimp only
    rw [filters, List.foldl_cons, List.foldl_nil, filtered]
    rfl
  rw [processed]
  apply Undisturbed.subscribedTo round
  · exact ((Undisturbed.log _ _).trans (.sendOwn apart _ ack client)).trans
      (.clientAlive _ client _)
  · intro other distinct
    simp [finish, World.clientAlive, subscribed, distinct]

/-! ## The PUBLISH frame -/

omit [Indexer Index] in
/-- The name of a frame is cut, whatever is taken for its payload. -/
theorem namedFrame_publication
    (fits :
      (publication.packet lengthBytes).bytes.length ≤
        MqttMessage.maxBufferLength) :
    NamedFrame Index Os (publication.packet lengthBytes).message
      (Topic.cut publication.name) where
  isPublish := publication.kind?_message lengthBytes
  named world := by
    have holds := (publication.packet lengthBytes).holds_body world
    rw [Packet.length_bytes, publication.body_packet, List.length_append,
      length_stringField, MqttMessage.maxBufferLength] at fits
    rw [publication.body_packet] at holds
    exact ⟨_, MqttClient.run_parsePublish_cut holds (by omega) _ _⟩

omit [Platform Os] in
/-- A client is sent the messages that it is due itself. -/
theorem filterMap_service
    (isRemote : (world.clients subscriber).client = true)
    (payload : List Byte) :
    (world.service topic msg payload client).filterMap
        (Event.sentTo? subscriber) =
      if client = subscriber ∧ world.isSubscribedTo subscriber topic = true then
        [msg.buffer]
      else
        [] := by
  by_cases same : client = subscriber
  · subst same
    by_cases matched : world.isSubscribedTo client topic = true
    · cases connection : (world.clients client).connection <;>
        simp [service, matched, isRemote, connection, Event.sentTo?]
    · simp [service, matched]
  · rw [if_neg fun both => same both.1, List.filterMap_eq_nil_iff]
    intro event due
    unfold service at due
    dsimp only at due
    split at due
    · split at due
      · rcases List.mem_cons.mp due with rfl | written
        · simp [Event.sentTo?, same]
        · split at written
          · rw [List.mem_singleton.mp written]
            rfl
          · cases written
      · split at due
        · rw [List.mem_singleton.mp due]
          rfl
        · cases due
    · cases due

/-- A delivery sends the message to its client only, and if it matches. -/
theorem messagesTo_publishIfSubscribed
    (apart : SessionsApart Os)
    (frame : NamedFrame Index Os msg name)
    (exact : Indexer.ExactAt world.indexer name topic)
    (isRemote : (world.clients subscriber).client = true)
    (client : ClientId) :
    let result := world.publishIfSubscribed client topic msg
    result.1.2 = msg ∧ Undisturbed world result.2 ∧
      result.2.trace.messagesTo subscriber =
        world.trace.messagesTo subscriber ++
          if client = subscriber ∧
              world.isSubscribedTo subscriber topic = true then
            [msg.buffer]
          else
            [] := by
  obtain ⟨payload, fields⟩ := frame.named world
  obtain ⟨sameMessage, undisturbed, served⟩ :=
    publishIfSubscribed_serves apart frame.isPublish fields exact client
  refine ⟨sameMessage, undisturbed, ?_⟩
  rw [Trace.messagesTo_services, served, List.filterMap_append,
    filterMap_service isRemote payload, ← Trace.messagesTo_services]

/-- With a connected upstream broker a round is a delivery to it. -/
theorem publishStep_upstream
    {upstream : ClientId}
    (isUpstream : (world.brokers broker).broker = some upstream)
    (isConnected : world.connected upstream = true)
    (notSource : source ≠ upstream)
    (retval : MqttError)
    (client : ClientId) :
    let step := publishStep broker source topic ((retval, msg), world) client
    let result := world.publishIfSubscribed upstream topic msg
    step.1.2 = result.1.2 ∧ step.2 = result.2 := by
  unfold publishStep
  dsimp only
  rw [isUpstream]
  dsimp only
  rw [if_pos ⟨isConnected, notSource⟩]
  exact ⟨rfl, rfl⟩

/-- A round of the loop of `publish`, as messages to the subscriber. -/
theorem messagesTo_publishStep
    (apart : SessionsApart Os)
    (frame : NamedFrame Index Os msg name)
    (exact : Indexer.ExactAt world.indexer name topic)
    (isRemote : (world.clients subscriber).client = true)
    (outside :
      ∀ upstream, (world.brokers broker).broker = some upstream →
        upstream ≠ subscriber ∧ upstream ≠ source)
    (retval : MqttError)
    (client : ClientId) :
    let step := publishStep broker source topic ((retval, msg), world) client
    step.1.2 = msg ∧ Undisturbed world step.2 ∧
      (step.2.trace.messagesTo subscriber =
        world.trace.messagesTo subscriber ++
          if client = subscriber ∧
              world.upstreamConnected broker = false ∧
                world.isSubscribedTo subscriber topic = true then
            [msg.buffer]
          else
            []) := by
  dsimp only
  by_cases noUpstream : world.upstreamConnected broker = false
  · have delivered :=
      messagesTo_publishIfSubscribed apart frame exact isRemote client
    rw [publishStep_unconnected noUpstream]
    simpa only [noUpstream, true_and] using delivered
  · cases isUpstream : (world.brokers broker).broker with
    | none => simp [upstreamConnected, isUpstream] at noUpstream
    | some upstream =>
        have isConnected : world.connected upstream = true := by
          simpa [upstreamConnected, isUpstream] using noUpstream
        obtain ⟨notSubscriber, notSource⟩ := outside upstream isUpstream
        obtain ⟨sameMessage, undisturbed, sent⟩ :=
          messagesTo_publishIfSubscribed apart frame exact isRemote upstream
        obtain ⟨stepMessage, stepWorld⟩ :=
          @publishStep_upstream _ _ _ _ world broker source topic msg
            upstream isUpstream isConnected notSource.symm retval client
        rw [stepMessage, stepWorld]
        refine ⟨sameMessage, undisturbed, ?_⟩
        rw [sent, if_neg fun both => notSubscriber both.1,
          if_neg fun both => noUpstream both.2.1]

/-- A subscriber on the list is sent the message once, if it is due. -/
theorem messagesTo_publishLoop
    (apart : SessionsApart Os)
    (frame : NamedFrame Index Os msg name)
    (exact : Indexer.ExactAt world.indexer name topic)
    (isRemote : (world.clients subscriber).client = true)
    (outside :
      ∀ upstream, (world.brokers broker).broker = some upstream →
        upstream ≠ subscriber ∧ upstream ≠ source)
    {clients : List ClientId}
    (nodup : clients.Nodup)
    (retval : MqttError) :
    (clients.foldl (publishStep broker source topic)
        ((retval, msg), world)).2.trace.messagesTo subscriber =
      world.trace.messagesTo subscriber ++
        if subscriber ∈ clients ∧
            world.upstreamConnected broker = false ∧
              world.isSubscribedTo subscriber topic = true then
          [msg.buffer]
        else
          [] := by
  induction clients generalizing world retval with
  | nil => simp
  | cons client rest inductionHypothesis =>
      obtain ⟨notInRest, nodupRest⟩ := List.nodup_cons.mp nodup
      obtain ⟨sameMessage, undisturbed, sent⟩ :=
        @messagesTo_publishStep _ _ _ _ world broker subscriber source topic
          msg name apart frame exact isRemote outside retval client
      rw [List.foldl_cons]
      generalize publishStep broker source topic ((retval, msg), world)
        client = state at sameMessage undisturbed sent ⊢
      obtain ⟨⟨retval', msg'⟩, middle⟩ := state
      dsimp only at sameMessage undisturbed sent
      subst sameMessage
      have later :=
        inductionHypothesis (undisturbed.indexer ▸ exact)
          ((undisturbed.client subscriber).trans isRemote)
          (by rw [undisturbed.brokers]; exact outside) nodupRest retval'
      rw [later, sent, undisturbed.upstreamConnected,
        undisturbed.isSubscribedTo, List.append_assoc]
      congr 1
      by_cases isFirst : client = subscriber
      · subst isFirst
        simp [notInRest]
      · have isOther : ¬ subscriber = client := fun same => isFirst same.symm
        simp [isFirst, isOther]

/-- The world in which a received message is published. -/
def publishing
    (world : World Index Os)
    (name : List Byte) : World Index Os :=
  { world with indexer := (Indexer.strToIndex world.indexer name).2 }

/-- What the PUBLISH frame of a peer sends to a subscriber. -/
theorem messagesTo_publication
    (apart : SessionsApart Os)
    (frame : NamedFrame Index Os msg name)
    (exact :
      Indexer.ExactAt (world.publishing name).indexer name
        (Indexer.strToIndex world.indexer name).1)
    (nodup : (world.members broker).Nodup)
    (outside :
      ∀ upstream, (world.brokers broker).broker = some upstream →
        upstream ∉ world.members broker)
    (attached : (world.clients publisher).parent = some broker)
    (isPublisher : world.Peer broker publisher)
    (member : subscriber ∈ world.members broker)
    (isRemote : (world.clients subscriber).client = true) :
    (world.processMessage publisher msg).trace.messagesTo subscriber =
      world.trace.messagesTo subscriber ++
        if world.upstreamConnected broker = false ∧
            (world.publishing name).isSubscribedTo subscriber
              (Indexer.strToIndex world.indexer name).1 = true then
          [msg.buffer]
        else
          [] := by
  obtain ⟨payload, fields⟩ :=
    frame.named (world.log (.processed publisher msg))
  have processed :
      (world.processMessage publisher msg).trace =
        (((world.publishing name).log (.processed publisher msg)).publish
          broker publisher (Indexer.strToIndex world.indexer name).1
          msg).2.trace := by
    unfold processMessage processMessageWith processKind
    rw [frame.isPublish]
    dsimp only
    unfold processPublish
    rw [clients_log, if_pos (.inl isPublisher.connected), fields]
    dsimp only
    rw [attached, isPublisher.isRemote]
    exact (finish_open publisher _).1
  have apartOthers (upstream : ClientId)
      (isUpstream : (world.brokers broker).broker = some upstream) :
      upstream ≠ subscriber ∧ upstream ≠ publisher := by
    have notMember := outside upstream isUpstream
    constructor
    · rintro rfl
      exact notMember member
    · rintro rfl
      exact notMember isPublisher.member
  have looped :=
    @messagesTo_publishLoop _ _ _ _
      ((world.publishing name).log (.processed publisher msg)) broker
      subscriber publisher (Indexer.strToIndex world.indexer name).1 msg name
      apart frame exact isRemote apartOthers _ nodup .ok
  simp only [member, true_and] at looped
  rw [processed]
  exact looped

/-! ## Both frames -/

/--
What the two frames come to: the subscriber is sent the PUBLISH frame if and
only if no upstream broker is connected and one of its topics, with the new
one, matches the published one.
-/
theorem messagesTo_exchange
    (apart : SessionsApart Os)
    (linked : Linked broker world)
    (isSubscriber : world.Peer broker subscriber)
    (isPublisher : world.Peer broker publisher)
    (distinct : publisher ≠ subscriber)
    (fits :
      (subscription.packet lengthBytes).bytes.length ≤
        MqttMessage.maxBufferLength)
    (fits' :
      (publication.packet lengthBytes').bytes.length ≤
        MqttMessage.maxBufferLength)
    {inserted published : Topic}
    {table table' : Index}
    (round :
      world.subscribedRound subscriber (Topic.cut subscription.name) =
        (inserted, table))
    (interned :
      Indexer.strToIndex table (Topic.cut publication.name) =
        (published, table'))
    (exact :
      Indexer.ExactAt table' (Topic.cut publication.name) published) :
    let middle :=
      world.processMessage subscriber (subscription.packet lengthBytes).message
    let after :=
      middle.processMessage publisher (publication.packet lengthBytes').message
    let topics := (world.clients subscriber).subscriptions.insert inserted
    after.trace.messagesTo subscriber =
      middle.trace.messagesTo subscriber ++
        if world.upstreamConnected broker = false ∧
            topics.items.any (Topic.matchesTopic table' · published) =
              true then
          [(publication.packet lengthBytes').bytes]
        else
          [] := by
  have frame :
      NamedFrame Index Os (publication.packet lengthBytes').message
        (Topic.cut publication.name) :=
    namedFrame_publication fits'
  have subscribed :=
    processMessage_subscription apart fits isSubscriber.connected round
  dsimp only
  generalize world.processMessage subscriber
    (subscription.packet lengthBytes).message = middle at *
  generalize Topic.cut publication.name = name at *
  have members : middle.members broker = world.members broker := by
    rw [World.members, subscribed.brokers, World.members]
  have record := subscribed.others publisher distinct
  have isPublisher' : middle.Peer broker publisher := by
    refine ⟨members ▸ isPublisher.member, ?_, ?_⟩
    · rw [record]
      exact isPublisher.isRemote
    · rw [record]
      exact isPublisher.connected
  have attached : (middle.clients publisher).parent = some broker := by
    rw [record]
    exact linked.memberParent publisher isPublisher.member
  have outside (upstream : ClientId)
      (isUpstream : (middle.brokers broker).broker = some upstream) :
      upstream ∉ middle.members broker := by
    rw [subscribed.brokers] at isUpstream
    rw [members]
    exact (linked.outside upstream isUpstream).1
  have publishing : (middle.publishing name).indexer = table' := by
    rw [World.publishing, subscribed.indexer, interned]
  have topic : (Indexer.strToIndex middle.indexer name).1 = published := by
    rw [subscribed.indexer, interned]
  have sent :=
    @messagesTo_publication _ _ _ _ middle broker subscriber publisher
      (publication.packet lengthBytes').message name apart frame
      (by rw [publishing, topic]; exact exact) (members ▸ linked.nodup)
      outside attached isPublisher' (members ▸ isSubscriber.member)
      (subscribed.isRemote.trans isSubscriber.isRemote)
  have matched :
      (middle.publishing name).isSubscribedTo subscriber published =
        ((world.clients subscriber).subscriptions.insert
          inserted).items.any (Topic.matchesTopic table' · published) := by
    have subscriptions :
        ((middle.publishing name).clients subscriber).subscriptions =
          (world.clients subscriber).subscriptions.insert inserted :=
      subscribed.subscriptions
    rw [isSubscribedTo, subscriptions, publishing]
  rw [topic, subscribed.upstreamConnected, matched] at sent
  exact sent

/-! ## Two peers -/

/-- The scripted platform has no `TcpClient` objects. -/
theorem sessionsApart_script : SessionsApart Script :=
  ⟨fun _ _ _ _ => rfl, fun _ _ _ => rfl⟩

/-- Two peers that log in one after the other. -/
def twoPeersScript : Script where
  clock := 0
  connections := [5, 6]
  receipts := Script.receive (Script.connectPacket ++ Script.connectPacket)
  sendResults := []

/-- Both are logged in. -/
def twoPeersRun : World StringIndexer Script :=
  performAll 0 always
    ([.accept, .accept] ++ List.replicate 21 (.poll 0) ++
      List.replicate 21 (.poll 1))
    twoPeersScript.setup

/-- Their broker is linked as after every run. -/
theorem linked_twoPeersRun : Linked 0 twoPeersRun :=
  Linked.run (Script.initial_setup _) (run_performAll 0 always _ _)

/-- The first of them is a peer. -/
theorem peer_twoPeersRun_first : twoPeersRun.Peer 0 0 :=
  ⟨by decide, by decide, by decide⟩

/-- So is the second. -/
theorem peer_twoPeersRun_second : twoPeersRun.Peer 0 1 :=
  ⟨by decide, by decide, by decide⟩

end World

end SimpleTlsBroker
