import Mathlib.Data.List.Forall2
import SimpleTlsBroker.Changes
import SimpleTlsBroker.Scripts

namespace SimpleTlsBroker

/-!
# Publication to all subscribers

`publish` hands one message to the clients of a list, one after the other.
When topics are interned exactly and there is no connected upstream broker,
what happens to one client does not depend on the clients before it, so the
services of the whole loop are the services of the single clients in order.
-/

/-- Interning a name finds its topic, and releasing the topic undoes it. -/
structure Indexer.ExactAt
    {Index : Type}
    [Indexer Index]
    (indexer : Index)
    (name : List Byte)
    (topic : Topic) : Prop where
  interned : (Indexer.strToIndex indexer name).1 = topic
  str : ∀ other,
    Indexer.str (Indexer.strToIndex indexer name).2 other =
      Indexer.str indexer other
  released :
    Indexer.release (Indexer.strToIndex indexer name).2 topic = indexer

/-- A live entry that the search finds is interned exactly. -/
theorem StringIndexer.exactAt
    {indexer : StringIndexer}
    {name : List Byte}
    {topic : Topic}
    {counter : StringCounter}
    (found : indexer.lookup? (Topic.cut name) = some topic.index)
    (entry : indexer.strings topic.index = some counter)
    (live : 0 < counter.used ∧ counter.used < 256) :
    Indexer.ExactAt indexer name topic := by
  have result :
      indexer.strToIndex name = (topic, indexer.use topic) :=
    strToIndex_of_lookup? found
  constructor
  case interned =>
    change (indexer.strToIndex name).1 = topic
    rw [result]
  case str =>
    intro other
    change (indexer.strToIndex name).2.str other = indexer.str other
    rw [result]
    exact str_of_use indexer topic other
  case released =>
    change (indexer.strToIndex name).2.release topic = indexer
    rw [result]
    apply release_use
    intro other found
    obtain rfl := Option.some.inj (entry.symm.trans found)
    exact live

/-- Work on the sessions leaves the links of `TcpClient` objects alone. -/
structure SessionsApart (Os : Type) [Platform Os] : Prop where
  send : ∀ (os : Os) fd bytes client,
    Platform.tcpConnected (Platform.send os fd bytes).2 client =
      Platform.tcpConnected os client
  closeFn : ∀ (os : Os) fd client,
    Platform.tcpConnected (Platform.closeFn os fd) client =
      Platform.tcpConnected os client

namespace Event

/-- The events by which a client is served. -/
def isService : Event → Bool
  | .sentTo _ _ => true
  | .written _ _ => true
  | .callback _ _ _ => true
  | _ => false

end Event

namespace Trace

/-- The services of a run, oldest first. -/
def services (trace : Trace) : List Event :=
  (trace.filter Event.isService).reverse

/-- One more event. -/
theorem services_cons (event : Event) (trace : Trace) :
    services (event :: trace) =
      services trace ++ if event.isService then [event] else [] := by
  unfold services
  cases isService : event.isService <;> simp [isService]

/-- Events that serve nobody. -/
theorem services_grown
    {allowed : Event → Prop}
    {earlier later : Trace}
    (grown : History.Grown allowed earlier later)
    (serveNobody : ∀ event, allowed event → event.isService = false) :
    services later = services earlier := by
  obtain ⟨since, rfl, allAllowed⟩ := grown
  have none : since.filter Event.isService = [] := by
    refine List.filter_eq_nil_iff.mpr fun event member => ?_
    simp [serveNobody event (allAllowed event member)]
  simp [services, none]

end Trace

namespace World

variable {Index Os : Type} [Platform Os]

/-- What a delivery leaves as it was. -/
structure Undisturbed (before after : World Index Os) : Prop where
  indexer : after.indexer = before.indexer
  brokers : after.brokers = before.brokers
  subscriptions : ∀ client,
    (after.clients client).subscriptions =
      (before.clients client).subscriptions
  parent : ∀ client,
    (after.clients client).parent = (before.clients client).parent
  client : ∀ client,
    (after.clients client).client = (before.clients client).client
  connection : ∀ client,
    (after.clients client).connection = (before.clients client).connection
  callback : ∀ client,
    (after.clients client).callback = (before.clients client).callback
  tcpConnected : ∀ client,
    Platform.tcpConnected after.device.os client =
      Platform.tcpConnected before.device.os client

namespace Undisturbed

variable {before middle after : World Index Os}

theorem refl (world : World Index Os) : Undisturbed world world :=
  ⟨rfl, rfl, fun _ => rfl, fun _ => rfl, fun _ => rfl, fun _ => rfl,
    fun _ => rfl, fun _ => rfl⟩

theorem trans
    (first : Undisturbed before middle)
    (second : Undisturbed middle after) :
    Undisturbed before after where
  indexer := second.indexer.trans first.indexer
  brokers := second.brokers.trans first.brokers
  subscriptions client :=
    (second.subscriptions client).trans (first.subscriptions client)
  parent client := (second.parent client).trans (first.parent client)
  client client := (second.client client).trans (first.client client)
  connection client :=
    (second.connection client).trans (first.connection client)
  callback client := (second.callback client).trans (first.callback client)
  tcpConnected client :=
    (second.tcpConnected client).trans (first.tcpConnected client)

/-- An event that is logged disturbs nothing. -/
theorem log
    (world : World Index Os)
    (event : Event) :
    Undisturbed world (world.log event) :=
  ⟨rfl, rfl, fun _ => rfl, fun _ => rfl, fun _ => rfl, fun _ => rfl,
    fun _ => rfl, fun _ => rfl⟩

/-- Setting a deadline disturbs nothing. -/
theorem clientAlive
    (world : World Index Os)
    (client : ClientId)
    (moreSeconds : Nat) :
    Undisturbed world (world.clientAlive client moreSeconds) := by
  have same (other : ClientId) :
      ∃ alive, (world.clientAlive client moreSeconds).clients other =
        { world.clients other with alive := alive } := by
    by_cases isClient : other = client
    · subst isClient
      exact ⟨_, by simp [World.clientAlive]; rfl⟩
    · exact ⟨(world.clients other).alive,
        by simp [World.clientAlive, isClient]⟩
  constructor
  case indexer => rfl
  case brokers => rfl
  case tcpConnected => exact fun _ => rfl
  all_goals
    intro other
    obtain ⟨alive, record⟩ := same other
    rw [record]

/-- A write disturbs nothing, whatever it returns. -/
theorem writeClient
    (apart : SessionsApart Os)
    (world : World Index Os)
    (client : ClientId)
    (bytes : List Byte) :
    Undisturbed world (world.writeClient client bytes) := by
  refine ⟨rfl, rfl, fun _ => rfl, fun _ => rfl, fun _ => rfl, fun _ => rfl,
    fun _ => rfl, fun other => ?_⟩
  unfold World.writeClient
  dsimp only
  unfold Device.writeData
  split
  · rfl
  · dsimp only
    split
    · split
      · unfold Device.httpdSessDelete
        dsimp only
        split
        · exact apart.send _ _ _ _
        · exact (apart.closeFn _ _ _).trans (apart.send _ _ _ _)
      · exact apart.send _ _ _ _
    · rfl

/-- The upstream link is connected if it was before. -/
theorem upstreamConnected
    (undisturbed : Undisturbed before after)
    (broker : BrokerId) :
    after.upstreamConnected broker = before.upstreamConnected broker := by
  unfold World.upstreamConnected World.connected
  rw [undisturbed.brokers]
  split
  · dsimp only
    rw [undisturbed.parent, undisturbed.client, undisturbed.tcpConnected]
  · rfl

end Undisturbed

variable [Indexer Index]

/-- The services of one client for a publication. -/
def service
    (world : World Index Os)
    (topic : Topic)
    (msg : MqttMessage)
    (payload : List Byte)
    (client : ClientId) : List Event :=
  let record := world.clients client
  if world.isSubscribedTo client topic then
    if record.client then
      .sentTo client msg.buffer ::
        match record.connection with
        | some slot => [.written slot msg.buffer]
        | none => []
    else if record.callback then
      [.callback client topic payload]
    else
      []
  else
    []

namespace Undisturbed

variable {before after : World Index Os}

/-- Subscriptions match what they matched before. -/
theorem isSubscribedTo
    (undisturbed : Undisturbed before after)
    (client : ClientId)
    (topic : Topic) :
    after.isSubscribedTo client topic =
      before.isSubscribedTo client topic := by
  unfold World.isSubscribedTo
  rw [undisturbed.indexer, undisturbed.subscriptions]

/-- Every client is still due the same services. -/
theorem service
    (undisturbed : Undisturbed before after)
    (topic : Topic)
    (msg : MqttMessage)
    (payload : List Byte)
    (client : ClientId) :
    after.service topic msg payload client =
      before.service topic msg payload client := by
  unfold World.service
  dsimp only
  rw [undisturbed.isSubscribedTo, undisturbed.client,
    undisturbed.connection, undisturbed.callback]

end Undisturbed

/-- A PUBLISH message whose topic lies inside its buffer. -/
structure TopicFrame
    (world : World Index Os)
    (msg : MqttMessage)
    (name : List Byte) : Prop where
  isPublish : msg.kind? = some .publish
  contained :
    ∀ offset ∈ (MqttClient.publishTopic msg.vheader).reads (world.memory msg),
      offset < msg.buffer.length
  topic : (MqttClient.publishTopic msg.vheader).run (world.memory msg) = name

/-- A PUBLISH message whose name is read alike in all worlds. -/
structure NamedFrame
    (Index Os : Type)
    [Platform Os]
    (msg : MqttMessage)
    (name : List Byte) : Prop where
  isPublish : msg.kind? = some .publish
  named :
    ∀ world : World Index Os, ∃ payload,
      (MqttClient.parsePublish msg.vheader msg.buffer.length msg.flags).run
        (world.memory msg) = ⟨name, payload⟩

/-- A payload that the PUBLISH case takes from a message in some world. -/
def PayloadOf
    (Index Os : Type)
    [Platform Os]
    (msg : MqttMessage)
    (payload : List Byte) : Prop :=
  ∃ world : World Index Os,
    ((MqttClient.parsePublish msg.vheader msg.buffer.length msg.flags).run
      (world.memory msg)).payload = payload

omit [Indexer Index] in
/-- Offsets inside a buffer hold the same bytes in all worlds. -/
theorem memory_agrees
    {msg : MqttMessage}
    {offsets : List Nat}
    (inside : ∀ offset ∈ offsets, offset < msg.buffer.length)
    (world other : World Index Os) :
    ∀ offset ∈ offsets, world.memory msg offset = other.memory msg offset := by
  intro offset member
  simp [memory, List.getElem?_eq_getElem (inside offset member)]

omit [Indexer Index] in
/-- A topic inside the buffer is read alike in all worlds. -/
theorem TopicFrame.namedFrame
    {world : World Index Os}
    {msg : MqttMessage}
    {name : List Byte}
    (frame : TopicFrame world msg name) :
    NamedFrame Index Os msg name where
  isPublish := frame.isPublish
  named other := by
    obtain ⟨sameRun, _⟩ :=
      MqttClient.dependsOnReads_publishTopic msg.vheader (world.memory msg)
        (other.memory msg) (memory_agrees frame.contained world other)
    have isName :
        ((MqttClient.parsePublish msg.vheader msg.buffer.length
          msg.flags).run (other.memory msg)).name = name := by
      rw [MqttClient.name_parsePublish_eq, ← sameRun]
      exact frame.topic
    exact ⟨_, by rw [← isName]⟩

/-- A PUBLISH message that is read without leaving its buffer. -/
structure PublishFrame
    (world : World Index Os)
    (msg : MqttMessage)
    (name payload : List Byte) : Prop where
  isPublish : msg.kind? = some .publish
  contained :
    ∀ offset ∈
      (MqttClient.parsePublish msg.vheader msg.buffer.length msg.flags).reads
        (world.memory msg),
      offset < msg.buffer.length
  fields :
    (MqttClient.parsePublish msg.vheader msg.buffer.length msg.flags).run
      (world.memory msg) = ⟨name, payload⟩

omit [Indexer Index] in
/-- The buffer of a frame is read alike in all worlds. -/
theorem PublishFrame.any
    {world : World Index Os}
    {msg : MqttMessage}
    {name payload : List Byte}
    (frame : PublishFrame world msg name payload)
    (other : World Index Os) :
    PublishFrame other msg name payload := by
  obtain ⟨sameRun, sameReads⟩ :=
    MqttClient.dependsOnReads_parsePublish msg.vheader msg.buffer.length
      msg.flags (world.memory msg) (other.memory msg)
      (memory_agrees frame.contained world other)
  exact ⟨frame.isPublish, sameReads ▸ frame.contained,
    sameRun ▸ frame.fields⟩

omit [Indexer Index] in
/-- Its name is read alike in all worlds. -/
theorem PublishFrame.namedFrame
    {world : World Index Os}
    {msg : MqttMessage}
    {name payload : List Byte}
    (frame : PublishFrame world msg name payload) :
    NamedFrame Index Os msg name :=
  ⟨frame.isPublish, fun other => ⟨payload, (frame.any other).fields⟩⟩

omit [Indexer Index] in
/-- So is its payload. -/
theorem PublishFrame.payload_eq
    {world : World Index Os}
    {msg : MqttMessage}
    {name payload taken : List Byte}
    (frame : PublishFrame world msg name payload)
    (isPayload : PayloadOf Index Os msg taken) :
    taken = payload := by
  obtain ⟨other, rfl⟩ := isPayload
  rw [(frame.any other).fields]

/-- A complete message is not empty. -/
theorem length_ne_zero_of_publish
    {msg : MqttMessage}
    (isPublish : msg.kind? = some .publish) :
    msg.buffer.length ≠ 0 := by
  intro empty
  rw [List.length_eq_zero_iff] at empty
  have unknown : msg.kind? = some .unknown := by
    simp only [MqttMessage.kind?, MqttMessage.type, empty]
    split <;> decide
  rw [unknown] at isPublish
  contradiction

omit [Indexer Index] in
/-- The services that a write adds. -/
theorem services_writeClient
    (world : World Index Os)
    (client : ClientId)
    (bytes : List Byte) :
    (world.writeClient client bytes).trace.services =
      world.trace.services ++
        match (world.clients client).connection with
        | some slot => [.written slot bytes]
        | none => [] := by
  unfold writeClient trace
  dsimp only
  cases connected : (world.clients client).connection with
  | none =>
      simp [Device.writeData]
  | some slot =>
      unfold Device.writeData
      dsimp only
      split
      · split
        · rw [Trace.services_grown (Device.trace_httpdSessDelete _ slot)
            (by rintro event rfl; rfl)]
          simp [Device.log, Trace.services_cons, Event.isService]
        · simp [Device.log, Trace.services_cons, Event.isService]
      · simp [Device.log, Trace.services_cons, Event.isService]

/-- A networked client gets the bytes of the message. -/
theorem sendTo_serves
    (apart : SessionsApart Os)
    {world : World Index Os}
    {msg : MqttMessage}
    (isPublish : msg.kind? = some .publish)
    {topic : Topic}
    {client : ClientId}
    (subscribed : world.isSubscribedTo client topic = true)
    (isRemote : (world.clients client).client = true)
    (payload : List Byte) :
    (world.sendTo msg client).1.2 = msg ∧
      Undisturbed world (world.sendTo msg client).2 ∧
        (world.sendTo msg client).2.trace.services =
          world.trace.services ++
            world.service topic msg payload client := by
  have complete := complete_of_publish isPublish
  refine ⟨sendTo_complete complete, ?_⟩
  unfold sendTo
  rw [if_pos (length_ne_zero_of_publish isPublish),
    encoded_complete complete]
  refine ⟨(Undisturbed.log world _).trans
    (.writeClient apart _ client msg.buffer), ?_⟩
  dsimp only
  rw [services_writeClient, trace_log, Trace.services_cons]
  simp [service, subscribed, isRemote, Event.isService]

/-- The PUBLISH case of a local client, for an interned topic. -/
theorem processPublish_local
    (forward :
      BrokerId → ClientId → Topic → MqttMessage →
        World Index Os → World Index Os)
    {world : World Index Os}
    {msg : MqttMessage}
    {name payload : List Byte}
    (fields :
      (MqttClient.parsePublish msg.vheader msg.buffer.length msg.flags).run
        (world.memory msg) = ⟨name, payload⟩)
    {topic : Topic}
    (exact : Indexer.ExactAt world.indexer name topic)
    {client : ClientId}
    (subscribed : world.isSubscribedTo client topic = true)
    (isLocal : (world.clients client).client = false) :
    world.processPublish forward client msg =
      (false,
        if (world.clients client).callback then
          world.log (.callback client topic payload)
        else
          world) := by
  obtain ⟨interned, sameStr, released⟩ := exact
  unfold processPublish
  dsimp only [internTopic]
  rw [if_pos (.inr isLocal), fields]
  dsimp only
  generalize Indexer.strToIndex world.indexer name = result
    at interned sameStr released ⊢
  obtain ⟨found, indexer⟩ := result
  dsimp only at interned sameStr released ⊢
  subst interned
  have stillSubscribed :
      { world with indexer := indexer }.isSubscribedTo client found =
        true := by
    rw [← subscribed]
    simp [isSubscribedTo, Topic.matchesTopic, sameStr]
  rw [isLocal]
  rcases (world.clients client).parent with _ | parent <;>
    rcases called : (world.clients client).callback with _ | _ <;>
    simp [stillSubscribed, releaseTopic, log, released]

/-- What a local client does with a PUBLISH message of an interned topic. -/
theorem processLocal_publish
    {world : World Index Os}
    {msg : MqttMessage}
    {name payload : List Byte}
    (isPublish : msg.kind? = some .publish)
    (fields :
      (MqttClient.parsePublish msg.vheader msg.buffer.length msg.flags).run
        (world.memory msg) = ⟨name, payload⟩)
    {topic : Topic}
    (exact : Indexer.ExactAt world.indexer name topic)
    {client : ClientId}
    (subscribed : world.isSubscribedTo client topic = true)
    (isLocal : (world.clients client).client = false) :
    ∃ moreSeconds,
      world.processLocal client msg =
        (if (world.clients client).callback then
          (world.log (.processed client msg)).log
            (.callback client topic payload)
        else
          world.log (.processed client msg)).clientAlive client
            moreSeconds := by
  have arm :=
    @processPublish_local _ _ _ _ (fun _ _ _ _ world => world)
      (world.log (.processed client msg)) _ _ _ fields _ exact _ subscribed
      isLocal
  unfold processLocal processMessageWith processKind
  rw [isPublish]
  dsimp only
  rw [arm]
  exact ⟨_, rfl⟩

/-- A local client gets its callback called. -/
theorem processLocal_serves
    {world : World Index Os}
    {msg : MqttMessage}
    {name payload : List Byte}
    (isPublish : msg.kind? = some .publish)
    (fields :
      (MqttClient.parsePublish msg.vheader msg.buffer.length msg.flags).run
        (world.memory msg) = ⟨name, payload⟩)
    {topic : Topic}
    (exact : Indexer.ExactAt world.indexer name topic)
    {client : ClientId}
    (subscribed : world.isSubscribedTo client topic = true)
    (isLocal : (world.clients client).client = false) :
    Undisturbed world (world.processLocal client msg) ∧
      (world.processLocal client msg).trace.services =
        world.trace.services ++
          world.service topic msg payload client := by
  obtain ⟨moreSeconds, result⟩ :=
    processLocal_publish isPublish fields exact subscribed isLocal
  have logged := Undisturbed.log world (.processed client msg)
  rw [result]
  cases called : (world.clients client).callback with
  | false =>
      refine ⟨logged.trans (.clientAlive _ _ _), ?_⟩
      simp [service, subscribed, isLocal, called, World.clientAlive,
        Trace.services_cons, Event.isService]
  | true =>
      refine ⟨(logged.trans (.log _ _)).trans (.clientAlive _ _ _), ?_⟩
      simp [service, subscribed, isLocal, called, World.clientAlive,
        Trace.services_cons, Event.isService]

/-- A delivery serves its client and disturbs nothing. -/
theorem publishIfSubscribed_serves
    (apart : SessionsApart Os)
    {world : World Index Os}
    {msg : MqttMessage}
    {name payload : List Byte}
    (isPublish : msg.kind? = some .publish)
    (fields :
      (MqttClient.parsePublish msg.vheader msg.buffer.length msg.flags).run
        (world.memory msg) = ⟨name, payload⟩)
    {topic : Topic}
    (exact : Indexer.ExactAt world.indexer name topic)
    (client : ClientId) :
    (world.publishIfSubscribed client topic msg).1.2 = msg ∧
      Undisturbed world (world.publishIfSubscribed client topic msg).2 ∧
        (world.publishIfSubscribed client topic msg).2.trace.services =
          world.trace.services ++
            world.service topic msg payload client := by
  unfold publishIfSubscribed
  split
  · rename_i subscribed
    split
    · rename_i isRemote
      exact sendTo_serves apart isPublish subscribed isRemote payload
    · rename_i notRemote
      exact ⟨rfl, processLocal_serves isPublish fields exact
        subscribed (by simpa using notRemote)⟩
  · rename_i notSubscribed
    refine ⟨rfl, .refl world, ?_⟩
    simp [service, notSubscribed]

/-- Without connected upstream broker a round is one delivery. -/
theorem publishStep_unconnected
    {broker : BrokerId}
    {world : World Index Os}
    (noUpstream : world.upstreamConnected broker = false)
    (source : ClientId)
    (topic : Topic)
    (retval : MqttError)
    (msg : MqttMessage)
    (client : ClientId) :
    publishStep broker source topic ((retval, msg), world) client =
      world.publishIfSubscribed client topic msg := by
  unfold publishStep
  unfold upstreamConnected at noUpstream
  dsimp only
  split
  · rename_i upstream isUpstream
    rw [isUpstream] at noUpstream
    dsimp only at noUpstream
    simp [noUpstream]
  · rfl

/--
The services of a client for a publication, with a payload that is taken from
the message.
-/
def Served
    (world : World Index Os)
    (topic : Topic)
    (msg : MqttMessage)
    (client : ClientId)
    (services : List Event) : Prop :=
  ∃ payload,
    PayloadOf Index Os msg payload ∧
      services = world.service topic msg payload client

/-- The loop of `publish` serves its clients in order. -/
theorem publishLoop_serves
    (apart : SessionsApart Os)
    (broker : BrokerId)
    (source : ClientId)
    {world : World Index Os}
    {msg : MqttMessage}
    {name : List Byte}
    (frame : NamedFrame Index Os msg name)
    {topic : Topic}
    (exact : Indexer.ExactAt world.indexer name topic)
    (noUpstream : world.upstreamConnected broker = false)
    (clients : List ClientId)
    (retval : MqttError) :
    (clients.foldl (publishStep broker source topic)
        ((retval, msg), world)).1.2 = msg ∧
      Undisturbed world
        (clients.foldl (publishStep broker source topic)
          ((retval, msg), world)).2 ∧
        ∃ served,
          List.Forall₂ (world.Served topic msg) clients served ∧
            (clients.foldl (publishStep broker source topic)
              ((retval, msg), world)).2.trace.services =
                world.trace.services ++ served.flatten := by
  induction clients generalizing world retval with
  | nil => exact ⟨rfl, .refl world, [], .nil, by simp⟩
  | cons client rest inductionHypothesis =>
      obtain ⟨payload, fields⟩ := frame.named world
      obtain ⟨sameMessage, undisturbed, services⟩ :=
        publishIfSubscribed_serves apart frame.isPublish fields exact client
      rw [List.foldl_cons, publishStep_unconnected noUpstream]
      generalize world.publishIfSubscribed client topic msg = state
        at sameMessage undisturbed services ⊢
      obtain ⟨⟨retval', msg'⟩, middle⟩ := state
      dsimp only at sameMessage undisturbed services
      subst sameMessage
      obtain ⟨sameLater, undisturbedLater, served, servedLater, grown⟩ :=
        inductionHypothesis (undisturbed.indexer ▸ exact)
          ((undisturbed.upstreamConnected broker).trans noUpstream) retval'
      refine ⟨sameLater, undisturbed.trans undisturbedLater,
        world.service topic msg' payload client :: served, ?_, ?_⟩
      · refine .cons ⟨payload, ⟨world, by rw [fields]⟩, rfl⟩ ?_
        refine servedLater.imp ?_
        rintro other _ ⟨taken, isPayload, rfl⟩
        exact ⟨taken, isPayload, undisturbed.service topic msg' taken other⟩
      · rw [grown, services, List.flatten_cons, List.append_assoc]

/-- Where one payload is taken in all worlds, every client gets that one. -/
theorem flatten_served
    {world : World Index Os}
    {topic : Topic}
    {msg : MqttMessage}
    {payload : List Byte}
    (unique : ∀ taken, PayloadOf Index Os msg taken → taken = payload)
    {clients : List ClientId}
    {served : List (List Event)}
    (each : List.Forall₂ (world.Served topic msg) clients served) :
    served.flatten = clients.flatMap (world.service topic msg payload) := by
  induction each with
  | nil => rfl
  | cons first _ inductionHypothesis =>
      obtain ⟨taken, isPayload, rfl⟩ := first
      rw [List.flatten_cons, List.flatMap_cons, inductionHypothesis,
        unique taken isPayload]

/-- A message inside its buffer is served with its own payload. -/
theorem publish_serves
    (apart : SessionsApart Os)
    {broker : BrokerId}
    {world : World Index Os}
    {msg : MqttMessage}
    {name payload : List Byte}
    (frame : PublishFrame world msg name payload)
    {topic : Topic}
    (exact : Indexer.ExactAt world.indexer name topic)
    (noUpstream : world.upstreamConnected broker = false)
    (source : ClientId) :
    Undisturbed world (world.publish broker source topic msg).2 ∧
      (world.publish broker source topic msg).2.trace.services =
        world.trace.services ++
          (world.members broker).flatMap
            (world.service topic msg payload) := by
  obtain ⟨_, undisturbed, served, each, grown⟩ :=
    publishLoop_serves apart broker source frame.namedFrame exact noUpstream
      (world.members broker) .ok
  rw [flatten_served (fun _ => frame.payload_eq) each] at grown
  exact ⟨undisturbed, grown⟩

/-- A subscribed local client of the list has its callback called. -/
theorem publish_calls
    (apart : SessionsApart Os)
    {world : World Index Os}
    {broker : BrokerId}
    {msg : MqttMessage}
    {name payload : List Byte}
    {topic : Topic}
    {client : ClientId}
    (noUpstream : world.upstreamConnected broker = false)
    (frame : PublishFrame world msg name payload)
    (exact : Indexer.ExactAt world.indexer name topic)
    (member : client ∈ world.members broker)
    (isLocal : (world.clients client).client = false)
    (subscribed : world.isSubscribedTo client topic = true)
    (called : (world.clients client).callback = true)
    (source : ClientId) :
    .callback client topic payload ∈
      (world.publish broker source topic msg).2.trace := by
  obtain ⟨_, served⟩ := publish_serves apart frame exact noUpstream source
  have due :
      .callback client topic payload ∈
        world.service topic msg payload client := by
    simp [service, subscribed, isLocal, called]
  have isService :
      .callback client topic payload ∈
        (world.publish broker source topic msg).2.trace.services := by
    rw [served]
    exact List.mem_append_right _ (List.mem_flatMap.mpr ⟨client, member, due⟩)
  unfold Trace.services at isService
  exact (List.mem_filter.mp (List.mem_reverse.mp isService)).1

/--
Without connected upstream broker a published message serves every subscribed
client of the list once and in order, serves nobody else, and changes neither
the list, nor the subscriptions, nor itself.  Only its topic has to lie inside
its buffer; a message inside its buffer is served with its own payload.
-/
theorem publish_serves_subscribers
    (apart : SessionsApart Os)
    {world : World Index Os}
    {broker : BrokerId}
    {msg : MqttMessage}
    {name : List Byte}
    {topic : Topic}
    (noUpstream : world.upstreamConnected broker = false)
    (frame : TopicFrame world msg name)
    (exact : Indexer.ExactAt world.indexer name topic)
    (source : ClientId) :
    (world.publish broker source topic msg).1.2 = msg ∧
      (world.publish broker source topic msg).2.members broker =
          world.members broker ∧
        (∀ client,
          ((world.publish broker source topic msg).2.clients
              client).subscriptions =
            (world.clients client).subscriptions) ∧
          (∃ served,
            List.Forall₂ (world.Served topic msg) (world.members broker)
                served ∧
              (world.publish broker source topic msg).2.trace.services =
                world.trace.services ++ served.flatten) ∧
            ∀ payload, PublishFrame world msg name payload →
              (world.publish broker source topic msg).2.trace.services =
                world.trace.services ++
                  (world.members broker).flatMap
                    (world.service topic msg payload) := by
  obtain ⟨sameMessage, undisturbed, served, each, grown⟩ :=
    publishLoop_serves apart broker source frame.namedFrame exact noUpstream
      (world.members broker) .ok
  refine ⟨sameMessage, ?_, undisturbed.subscriptions,
    ⟨served, each, grown⟩, ?_⟩
  · exact congrArg (fun brokers => (brokers broker).clients)
      undisturbed.brokers
  · intro payload whole
    exact (publish_serves apart whole exact noUpstream source).2

/-- A peer that logs in and subscribes to `"a"`, and fails when written to. -/
def subscribedScript : Script where
  clock := 0
  connections := [5]
  receipts := Script.receive (Script.connectPacket ++ Script.subscribePacket)
  sendResults := [4, 5, -1]

/-- The peer and a local client are subscribed. -/
def subscribedRun : World StringIndexer Script :=
  performAll 0 always
    (.accept :: List.replicate 29 (.poll 0) ++
      [.newLocal [] 0, .subscribe 1 ⟨1⟩ 0, .setCallback 1])
    subscribedScript.setup

/-- A PUBLISH message of `"a"` with the RETAIN flag and without payload. -/
def retainedMessage : MqttMessage where
  buffer := [0x31, 0x03, 0x00, 0x01, 0x61]
  vheader := 2
  size := 0
  state := .complete

/-- Both are served, also when the write to the peer fails. -/
theorem publish_serves_subscribers_both :
    ∃ payload,
      (subscribedRun.publish 0 1 ⟨1⟩ retainedMessage).2.trace.services =
        subscribedRun.trace.services ++
          [.sentTo 0 [0x31, 0x03, 0x00, 0x01, 0x61],
            .written 0 [0x31, 0x03, 0x00, 0x01, 0x61],
            .callback 1 ⟨1⟩ payload] := by
  have apart : SessionsApart Script :=
    ⟨fun _ _ _ _ => rfl, fun _ _ _ => rfl⟩
  have frame : TopicFrame subscribedRun retainedMessage [0x61] :=
    ⟨by decide, by decide, by decide⟩
  have entry :
      subscribedRun.indexer.strings 1 = some ⟨[0x61], 2⟩ := by
    decide
  have exact : Indexer.ExactAt subscribedRun.indexer [0x61] ⟨1⟩ :=
    StringIndexer.exactAt (by decide) entry (by decide)
  have noUpstream : subscribedRun.upstreamConnected 0 = false := by decide
  obtain ⟨_, _, _, ⟨served, each, grown⟩, _⟩ :=
    publish_serves_subscribers apart noUpstream frame exact 1
  have members : subscribedRun.members 0 = [0, 1] := by decide
  rw [members] at each
  obtain ⟨first, _, ⟨_, _, isFirst⟩, later, rfl⟩ :=
    List.forall₂_cons_left_iff.mp each
  obtain ⟨second, _, ⟨payload, _, isSecond⟩, last, rfl⟩ :=
    List.forall₂_cons_left_iff.mp later
  obtain rfl := List.forall₂_nil_left_iff.mp last
  have toPeer :
      first =
        [.sentTo 0 [0x31, 0x03, 0x00, 0x01, 0x61],
          .written 0 [0x31, 0x03, 0x00, 0x01, 0x61]] :=
    isFirst.trans rfl
  have toLocal : second = [.callback 1 ⟨1⟩ payload] := isSecond.trans rfl
  refine ⟨payload, ?_⟩
  rw [grown, toPeer, toLocal]
  rfl

end World

end SimpleTlsBroker
