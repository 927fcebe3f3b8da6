import SimpleTlsBroker.World

namespace SimpleTlsBroker

/-!
# Message processing and publication

`MqttClient::processMessage` and the functions it calls in a circle with
`MqttBroker::publish` and `MqttClient::publishIfSubscribed`.  Each case of its
switch is one definition returning `bclose` and the new world.

The circle is cut where the source cannot go round it: a local client never
takes the branch of the PUBLISH case that calls the broker.
`publishIfSubscribed_local` gives back the equation of the source.
-/

namespace World

open MqttClient

variable {Index Os : Type} [Indexer Index] [Platform Os]

/-- What a message of one client does to the world, and `bclose`. -/
abbrev Arm (Index Os : Type) := Bool × World Index Os

/-- `MqttClient::resubscribe`. -/
def resubscribe
    (world : World Index Os)
    (client : ClientId) : World Index Os :=
  let topics := (world.clients client).subscriptions.items
  if topics ≠ [] then
    let start := ((MqttMessage.ofType MqttType.subscribe.code 2).add 0).add 0
    let (msg, indexer) :=
      topics.foldl
        (fun (msg, indexer) topic =>
          let indexer := Indexer.use indexer topic
          ((msg.addString (Indexer.str indexer topic)).add 0,
            Indexer.release indexer topic))
        (start, world.indexer)
    { world with indexer := indexer }.sendOwn msg client
  else
    world

/-- The CONNECT case. -/
def processConnect
    (world : World Index Os)
    (client : ClientId)
    (mesg : MqttMessage) : Arm Index Os :=
  let record := world.clients client
  match record.mqttConnected, record.parent with
  | true, _ => (true, world)
  -- The source dereferences `parent`; no client without one is polled.
  | false, none => (true, world)
  | false, some parent =>
      let fields :=
        (parseConnect mesg.vheader
            (world.brokers parent).authUser
            (world.brokers parent).authPassword).run
          (world.memory mesg)
      let world :=
        (world.modifyClient client fun record =>
            { record with
              mqttFlags := fields.mqttFlags
              keepAlive := fields.keepAlive
              clientId := fields.clientId.getD record.clientId }).log
          (.credentials client fields.user fields.password)
      if fields.accepted then
        let world :=
          world.modifyClient client fun record =>
            { record with mqttConnected := true }
        let msg := ((MqttMessage.ofType MqttType.connAck.code 0).add 0).add 0
        (false, world.sendOwn msg client)
      else
        (true, world)

/-- The CONNACK case. -/
def processConnAck
    (world : World Index Os)
    (client : ClientId) : Arm Index Os :=
  let world :=
    world.modifyClient client fun record =>
      { record with mqttConnected := true }
  (false, world.resubscribe client)

/-- The cases of the other acknowledgements. -/
def processAck
    (world : World Index Os)
    (client : ClientId) : Arm Index Os :=
  (!(world.clients client).mqttConnected, world)

/-- The PINGREQ case. -/
def processPingReq
    (world : World Index Os)
    (client : ClientId) : Arm Index Os :=
  let record := world.clients client
  if record.mqttConnected ∧ record.client then
    (false, world.writeClient client [MqttType.pingResp.code, 0])
  else
    (true, world)

/--
One round of the topic loop: the return codes so far, and the world.  The
topic is a temporary; the set holds a copy of its own.
-/
def processFilter
    (subscribe : Bool)
    (client : ClientId)
    (state : List Byte × World Index Os)
    (filter : List Byte × Byte) : List Byte × World Index Os :=
  let (qoss, world) := state
  let (topic, world) := world.internTopic filter.1
  let found := topic ∈ (world.clients client).subscriptions
  if subscribe then
    let world := if found then world else world.useTopic topic
    let world :=
      world.modifyClient client fun record =>
        { record with subscriptions := record.subscriptions.insert topic }
    (qoss ++ [if filter.2 ≠ 0 then 0x80 else filter.2],
      world.releaseTopic topic)
  else
    let world := if found then world.releaseTopic topic else world
    let world :=
      world.modifyClient client fun record =>
        { record with subscriptions := record.subscriptions.erase topic }
    (qoss, world.releaseTopic topic)

/-- The SUBSCRIBE and UNSUBSCRIBE case. -/
def processSubscribe
    (subscribe : Bool)
    (world : World Index Os)
    (client : ClientId)
    (mesg : MqttMessage) : Arm Index Os :=
  if (world.clients client).mqttConnected then
    let memory := world.memory mesg
    let endOffset := mesg.buffer.length
    let (filters, _) :=
      (parseFilters subscribe endOffset endOffset (mesg.vheader + 2)).run
        memory
    let (qoss, world) :=
      filters.foldl (processFilter subscribe client) ([], world)
    let ack :=
      MqttMessage.ofType
        (if mesg.type = MqttType.subscribe.code then
          MqttType.subAck.code
        else
          MqttType.unSuback.code) 0
    let ack := (ack.add (memory mesg.vheader)).add (memory (mesg.vheader + 1))
    (false, world.sendOwn (ack.addBytes qoss) client)
  else
    (true, world)

/-- The PUBLISH case; `forward` stands for the call of `parent->publish`. -/
def processPublish
    (forward :
      BrokerId → ClientId → Topic → MqttMessage →
        World Index Os → World Index Os)
    (world : World Index Os)
    (client : ClientId)
    (mesg : MqttMessage) : Arm Index Os :=
  let record := world.clients client
  if record.mqttConnected ∨ record.client = false then
    let fields :=
      (parsePublish mesg.vheader mesg.buffer.length mesg.flags).run
        (world.memory mesg)
    let (published, world) := world.internTopic fields.name
    let world :=
      match record.parent, record.client with
      | some parent, true => forward parent client published mesg world
      | _, _ =>
          if record.callback ∧ world.isSubscribedTo client published then
            world.log (.callback client published fields.payload)
          else
            world
    (false, world.releaseTopic published)
  else
    (true, world)

/-- The DISCONNECT case. -/
def processDisconnect
    (world : World Index Os)
    (client : ClientId) : Arm Index Os :=
  if (world.clients client).mqttConnected then
    let world :=
      world.modifyClient client fun record =>
        { record with mqttConnected := false }
    (false, world.close client)
  else
    (true, world)

/-- The switch of `processMessage`. -/
def processKind
    (forward :
      BrokerId → ClientId → Topic → MqttMessage →
        World Index Os → World Index Os)
    (world : World Index Os)
    (client : ClientId)
    (mesg : MqttMessage) : Arm Index Os :=
  match mesg.kind? with
  | some .connect => world.processConnect client mesg
  | some .connAck => world.processConnAck client
  | some .subAck | some .pubAck | some .unSuback => world.processAck client
  | some .pingResp => (false, world)
  | some .pingReq => world.processPingReq client
  | some .subscribe => world.processSubscribe true client mesg
  | some .unSubscribe => world.processSubscribe false client mesg
  | some .publish => world.processPublish forward client mesg
  | some .disconnect => world.processDisconnect client
  | some .unknown | none => (true, world)

/-- The end of `processMessage`. -/
def finish
    (client : ClientId)
    (arm : Arm Index Os) : World Index Os :=
  if arm.1 then
    arm.2.close client
  else
    arm.2.clientAlive client
      (if (arm.2.clients client).parent.isSome then 5 else 0)

/-- `MqttClient::processMessage`, up to what `parent->publish` does. -/
def processMessageWith
    (forward :
      BrokerId → ClientId → Topic → MqttMessage →
        World Index Os → World Index Os)
    (world : World Index Os)
    (client : ClientId)
    (mesg : MqttMessage) : World Index Os :=
  finish client
    ((world.log (.processed client mesg)).processKind forward client mesg)

/-- `MqttClient::processMessage` of a local client. -/
def processLocal
    (world : World Index Os)
    (client : ClientId)
    (mesg : MqttMessage) : World Index Os :=
  world.processMessageWith (fun _ _ _ _ world => world) client mesg

/-- `MqttClient::publishIfSubscribed`. -/
def publishIfSubscribed
    (world : World Index Os)
    (client : ClientId)
    (topic : Topic)
    (msg : MqttMessage) :
    (MqttError × MqttMessage) × World Index Os :=
  if world.isSubscribedTo client topic then
    if (world.clients client).client then
      world.sendTo msg client
    else
      ((.ok, msg), world.processLocal client msg)
  else
    ((.ok, msg), world)

/-- One round of the loop of `MqttBroker::publish`. -/
def publishStep
    (broker : BrokerId)
    (source : ClientId)
    (topic : Topic)
    (state : (MqttError × MqttMessage) × World Index Os)
    (client : ClientId) :
    (MqttError × MqttMessage) × World Index Os :=
  let ((retval, msg), world) := state
  match (world.brokers broker).broker with
  | some upstream =>
      if world.connected upstream ∧ source ≠ upstream then
        let ((ret, msg), world) :=
          world.publishIfSubscribed upstream topic msg
        ((if ret ≠ .ok then ret else retval, msg), world)
      else
        world.publishIfSubscribed client topic msg
  | none => world.publishIfSubscribed client topic msg

/--
`MqttBroker::publish`.  The loop runs over the list as it is at the start: no
delivery of a PUBLISH message changes it.
-/
def publish
    (world : World Index Os)
    (broker : BrokerId)
    (source : ClientId)
    (topic : Topic)
    (msg : MqttMessage) :
    (MqttError × MqttMessage) × World Index Os :=
  (world.members broker).foldl (publishStep broker source topic)
    ((.ok, msg), world)

/-- `MqttClient::processMessage`. -/
def processMessage
    (world : World Index Os)
    (client : ClientId)
    (mesg : MqttMessage) : World Index Os :=
  world.processMessageWith
    (fun broker source topic mesg world =>
      (world.publish broker source topic mesg).2)
    client mesg

/-- What `forward` does is irrelevant to a local client. -/
theorem processMessageWith_local
    {world : World Index Os}
    {client : ClientId}
    (isLocal : (world.clients client).client = false)
    (forward other :
      BrokerId → ClientId → Topic → MqttMessage →
        World Index Os → World Index Os)
    (mesg : MqttMessage) :
    world.processMessageWith forward client mesg =
      world.processMessageWith other client mesg := by
  have sameArm :
      (world.log (.processed client mesg)).processPublish
          forward client mesg =
        (world.log (.processed client mesg)).processPublish
          other client mesg := by
    simp [processPublish, isLocal]
  unfold processMessageWith processKind
  rw [sameArm]

/-- `publishIfSubscribed` calls `processMessage`, as the source has it. -/
theorem publishIfSubscribed_local
    {world : World Index Os}
    {client : ClientId}
    (isLocal : (world.clients client).client = false)
    (topic : Topic)
    (msg : MqttMessage) :
    world.publishIfSubscribed client topic msg =
      ((.ok, msg),
        if world.isSubscribedTo client topic then
          world.processMessage client msg
        else
          world) := by
  have sameRun :
      world.processLocal client msg = world.processMessage client msg :=
    processMessageWith_local isLocal _ _ msg
  unfold publishIfSubscribed
  split <;> simp [isLocal, sameRun]

/-! ## The interface of the application -/

/-- The message of `MqttClient::publish` before `complete`. -/
def publishBuilder (name payload : List Byte) : MqttMessage :=
  ((MqttMessage.ofType MqttType.publish.code 0).addString name).addBytes
    payload

/-- `MqttClient::publish`, up to what `parent->publish` and `sendTo` do. -/
def clientPublishWith
    (publish : BrokerId → MqttMessage → MqttError × World Index Os)
    (sendTo : MqttMessage → MqttError × World Index Os)
    (world : World Index Os)
    (client : ClientId)
    (topic : Topic)
    (payload : List Byte) : Option (MqttError × World Index Os) :=
  (publishBuilder (Indexer.str world.indexer topic) payload).encodeLength.map
    fun msg =>
      match (world.clients client).parent, (world.clients client).client with
      | some parent, _ => publish parent msg
      | none, true => sendTo msg
      | none, false => (.nowhereToSend, world)

/-- `MqttClient::publish`; nothing where `complete` leaves the buffer. -/
def clientPublish
    (world : World Index Os)
    (client : ClientId)
    (topic : Topic)
    (payload : List Byte) : Option (MqttError × World Index Os) :=
  world.clientPublishWith
    (fun parent msg =>
      let ((ret, _), world) := world.publish parent client topic msg
      (ret, world))
    (fun msg =>
      let ((ret, _), world) := world.sendTo msg client
      (ret, world))
    client topic payload

/-- The message that `MqttClient::publish` builds, where `complete` returns. -/
def publishMessage
    (name payload : List Byte) : MqttMessage :=
  (publishBuilder name payload).encoded

/-- What `MqttClient::publish` does with the message it has built. -/
def publishBuilt
    (world : World Index Os)
    (client : ClientId)
    (topic : Topic)
    (payload : List Byte) : MqttError × World Index Os :=
  let msg := publishMessage (Indexer.str world.indexer topic) payload
  match (world.clients client).parent, (world.clients client).client with
  | some parent, _ =>
      let ((ret, _), world) := world.publish parent client topic msg
      (ret, world)
  | none, true =>
      let ((ret, _), world) := world.sendTo msg client
      (ret, world)
  | none, false => (.nowhereToSend, world)

/-- Where `publish` returns, it has done that. -/
theorem clientPublish_eq_some
    {world : World Index Os}
    {client : ClientId}
    {topic : Topic}
    {payload : List Byte}
    {result : MqttError × World Index Os}
    (returned : world.clientPublish client topic payload = some result) :
    result = world.publishBuilt client topic payload := by
  obtain ⟨msg, encodes, rfl⟩ := Option.map_eq_some_iff.mp returned
  rw [MqttMessage.eq_encoded encodes]
  rfl

/-- So that is the state that is left. -/
theorem eq_published
    {world after : World Index Os}
    {client : ClientId}
    {topic : Topic}
    {payload : List Byte}
    {ret : MqttError}
    (returned : world.clientPublish client topic payload = some (ret, after)) :
    after = (world.publishBuilt client topic payload).2 :=
  congrArg Prod.snd (clientPublish_eq_some returned)

/-- `new MqttClient(parent, id)`; the constructor leaves `alive` as it is. -/
def newLocal
    (world : World Index Os)
    (parent : BrokerId)
    (id : List Byte)
    (alive : Nat) : World Index Os :=
  ({ world with
      next := world.next + 1
      clients :=
        Function.update world.clients world.next
          { MqttClient.initial with
            alive := alive
            parent := some parent
            clientId := id } }).addClient parent world.next

/-- `MqttClient::setCallback`. -/
def setCallback
    (world : World Index Os)
    (client : ClientId) : World Index Os :=
  world.modifyClient client fun record => { record with callback := true }

end World

end SimpleTlsBroker
