import Mathlib.Logic.Relation
import SimpleTlsBroker.Dispatch

namespace SimpleTlsBroker

/-!
# The loops and the steps of a run

`MqttBroker::loop` accepts a connection, serves the upstream link and then
every client of its list.  The read loop of a client may go on for ever, so
the loops take fuel and return nothing when it runs out.

A run of the broker is made of smaller steps: one accept, one timeout check,
one round of a read loop, one call of the application.  They may come in any
order; that `MqttBroker::loop` is such a run is proved in
`SimpleTlsBroker.LoopRefinement`.
-/

namespace World

variable {Index Os : Type} [Indexer Index] [Platform Os]

/-! ## `MqttClient::loop` -/

/--
The timeout check.  Without parent the source sends a ping through the
`TcpClient`, which the sessions of the broker do not see.
-/
def expire
    (world : World Index Os)
    (client : ClientId) : World Index Os :=
  let record := world.clients client
  if record.alive ≠ 0 ∧ world.device.millis > record.alive then
    match record.parent, record.client, record.connection with
    | some _, _, _ => world.close client
    | none, true, some slot =>
        if world.device.fd slot > 0 then world.clientAlive client 0 else world
    | none, _, _ => world
  else
    world

/-- Feed one byte to the message of a client and process it when complete. -/
def feed
    (world : World Index Os)
    (client : ClientId)
    (byte : Byte) : World Index Os :=
  let world :=
    world.modifyClient client fun record =>
      { record with message := record.message.incoming byte }
  let message := (world.clients client).message
  if message.type ≠ MqttType.unknown.code then
    (world.processMessage client message).modifyClient client fun record =>
      { record with message := record.message.reset }
  else
    world

/-- A byte goes into the message of a client. -/
def takeByte
    (world : World Index Os)
    (client : ClientId)
    (byte : Byte) : World Index Os :=
  world.modifyClient client fun record =>
    { record with message := record.message.incoming byte }

/-- A byte completes no message, or one that is then processed. -/
theorem feed_cases
    (world : World Index Os)
    (client : ClientId)
    (byte : Byte) :
    ((world.clients client).message.incoming byte).type =
        MqttType.unknown.code ∧
      world.feed client byte = world.takeByte client byte ∨
    ((world.clients client).message.incoming byte).type ≠
        MqttType.unknown.code ∧
      world.feed client byte =
        ((world.takeByte client byte).processMessage client
            ((world.clients client).message.incoming byte)).modifyClient client
          fun record => { record with message := record.message.reset } := by
  have message :
      ((world.takeByte client byte).clients client).message =
        (world.clients client).message.incoming byte := by
    simp [takeByte]
  have result :
      world.feed client byte =
        if ((world.takeByte client byte).clients client).message.type ≠
            MqttType.unknown.code then
          ((world.takeByte client byte).processMessage client
              ((world.takeByte client byte).clients
                client).message).modifyClient client
            fun record => { record with message := record.message.reset }
        else
          world.takeByte client byte := rfl
  rw [message] at result
  by_cases silent :
      ((world.clients client).message.incoming byte).type =
        MqttType.unknown.code
  · rw [if_neg (not_not.mpr silent)] at result
    exact .inl ⟨silent, result⟩
  · rw [if_pos silent] at result
    exact .inr ⟨silent, result⟩

/-- The body of the read loop. -/
def readOnce
    (world : World Index Os)
    (client : ClientId) : World Index Os :=
  match (world.clients client).connection with
  | none => world
  | some slot =>
      let ((ret, buf), device) := world.device.readData (some slot) 1
      let world := { world with device := device }
      if ret > 0 then
        (world.log (.fed client slot (buf.headD 0))).feed client (buf.headD 0)
      else if ret = 0 then
        -- An orderly close by the peer is only printed.
        world
      else
        { world with device := world.device.httpdSessDelete slot }

/-- One evaluation of the loop condition, and the body if it holds. -/
def poll
    (world : World Index Os)
    (client : ClientId) : Bool × World Index Os :=
  let (ready, device) :=
    world.device.canReadData (world.clients client).connection
  let world := { world with device := device }
  if ready then
    (true, world.readOnce client)
  else
    (false, world)

/-- The read loop. -/
def readLoop
    (client : ClientId) :
    (fuel : Nat) → World Index Os → Option (World Index Os)
  | 0, _ => none
  | fuel + 1, world =>
      match world.poll client with
      | (true, world) => readLoop client fuel world
      | (false, world) => some world

/-- `MqttClient::loop`. -/
def clientLoop
    (fuel : Nat)
    (world : World Index Os)
    (client : ClientId) : Option (World Index Os) :=
  let world := world.expire client
  if (world.clients client).client then
    readLoop client fuel world
  else
    some world

/-! ## `MqttBroker::loop` -/

/-- The accept part: a new client holds the session that `checkAvail` found. -/
def accept
    (world : World Index Os)
    (broker : BrokerId) : World Index Os :=
  let (newclient, device) := world.device.checkAvail
  let world := { world with device := device }
  match newclient with
  | none => world
  | some slot =>
      -- The loop overwrites the deadline that the constructor sets.
      let record :=
        { MqttClient.initial with
          parent := some broker
          client := true
          alive := 0
          connection := some slot }
      ({ world with
          next := world.next + 1
          clients := Function.update world.clients world.next record
        }.addClient broker world.next).log (.accepted world.next slot)

/-- The loop over the client list, by index. -/
def clientsLoop
    (broker : BrokerId)
    (fuel : Nat) :
    (rounds index : Nat) → World Index Os → Option (World Index Os)
  | 0, _, _ => none
  | rounds + 1, index, world =>
      match (world.members broker)[index]? with
      | none => some world
      | some client =>
          match world.clientLoop fuel client with
          | none => none
          | some world => clientsLoop broker fuel rounds (index + 1) world

/-- `MqttBroker::loop`. -/
def brokerLoop
    (fuel : Nat)
    (world : World Index Os)
    (broker : BrokerId) : Option (World Index Os) :=
  let world := world.accept broker
  match (world.brokers broker).broker with
  | none => clientsLoop broker fuel fuel 0 world
  | some upstream =>
      match world.clientLoop fuel upstream with
      | none => none
      | some world => clientsLoop broker fuel fuel 0 world

/-! ## Calls of the application -/

/-- `MqttClient::sendTopic`. -/
def sendTopic
    (world : World Index Os)
    (client : ClientId)
    (topic : Topic)
    (type qos : Byte) : MqttError × World Index Os :=
  let msg := ((MqttMessage.ofType type 2).add 0).add 0
  let msg := (msg.addString (Indexer.str world.indexer topic)).add qos
  let ((ret, _), world) := world.sendTo msg client
  (ret, world)

/-- Keep a copy of a topic among the subscriptions of a client. -/
def insertSubscription
    (world : World Index Os)
    (client : ClientId)
    (topic : Topic) : World Index Os :=
  let world :=
    if topic ∈ (world.clients client).subscriptions then
      world
    else
      world.useTopic topic
  world.modifyClient client fun record =>
    { record with subscriptions := record.subscriptions.insert topic }

/--
`MqttClient::subscribe`, with `MqttBroker::subscribe` in place of its call.
The two functions call each other, so the model counts down fuel.
-/
def clientSubscribe :
    (fuel : Nat) → World Index Os → ClientId → Topic → Byte →
      Option (MqttError × World Index Os)
  | 0, _, _, _, _ => none
  | fuel + 1, world, client, topic, qos =>
      let world := world.insertSubscription client topic
      match (world.clients client).parent with
      | none =>
          some (world.sendTopic client topic MqttType.subscribe.code qos)
      | some parent =>
          match (world.brokers parent).broker with
          | some upstream =>
              if world.connected upstream then
                clientSubscribe fuel world upstream topic qos
              else
                some (.nowhereToSend, world)
          | none => some (.nowhereToSend, world)

/-- `MqttClient::unsubscribe`. -/
def clientUnsubscribe
    (world : World Index Os)
    (client : ClientId)
    (topic : Topic) : MqttError × World Index Os :=
  if topic ∈ (world.clients client).subscriptions then
    let world :=
      (world.modifyClient client fun record =>
        { record with
          subscriptions := record.subscriptions.erase topic }).releaseTopic
        topic
    match (world.clients client).parent with
    | none => world.sendTopic client topic MqttType.unSubscribe.code 0
    | some _ => (.ok, world)
  else
    (.ok, world)

/-- `MqttClient::onConnect`. -/
def onConnect
    (world : World Index Os)
    (client : ClientId) : World Index Os :=
  let record := world.clients client
  let msg := MqttMessage.ofType MqttType.connect.code 0
  let msg := ((msg.addString MqttClient.protocolName).add 0x4).add 0x0
  let msg := (msg.add 0x00).add (UInt8.ofNat record.keepAlive)
  (world.sendOwn (msg.addString record.clientId) client).clientAlive client 0

/--
Does `client` of a client point to the local variable of `MqttBroker::loop`
with which the constructor was called?
-/
def dangling
    (world : World Index Os)
    (client : ClientId) : Bool :=
  (world.clients client).client && (world.clients client).connection.isSome

/-- `delete client`, which is undefined for the address of a local variable. -/
def deleteTcpClient
    (world : World Index Os)
    (client : ClientId) : Option (World Index Os) :=
  if world.dangling client then none else some world

/-- The rest of `MqttClient::connect` to a host, with a new `TcpClient`. -/
def openTcpClient
    (world : World Index Os)
    (client : ClientId)
    (established : Bool) : World Index Os :=
  let world :=
    world.modifyClient client fun record => { record with client := true }
  if established then world.onConnect client else world

/--
`MqttClient::connect` to a host; `established` is the result of the TCP
connection.
-/
def connectHost
    (world : World Index Os)
    (client : ClientId)
    (ka : Nat)
    (established : Bool) : Option (World Index Os) :=
  let world :=
    world.modifyClient client fun record => { record with keepAlive := ka }
  ((world.close client).deleteTcpClient client).map
    fun world => world.openTcpClient client established

/-- The state that `connect` to a host leaves, where it is defined. -/
def hosted
    (world : World Index Os)
    (client : ClientId)
    (ka : Nat)
    (established : Bool) : World Index Os :=
  let world :=
    world.modifyClient client fun record => { record with keepAlive := ka }
  let world :=
    (world.close client).modifyClient client fun record =>
      { record with client := true }
  if established then world.onConnect client else world

omit [Indexer Index] in
/-- Where `connect` to a host is defined, it leaves that state. -/
theorem eq_hosted
    {world after : World Index Os}
    {client : ClientId}
    {ka : Nat}
    {established : Bool}
    (returned : world.connectHost client ka established = some after) :
    after = world.hosted client ka established := by
  obtain ⟨deleted, isDeleted, rfl⟩ := Option.map_eq_some_iff.mp returned
  unfold deleteTcpClient at isDeleted
  split at isDeleted
  · cases isDeleted
  · rw [← Option.some.inj isDeleted]
    rfl

/-- The upstream link of a broker, created when there is none. -/
def upstreamLink
    (world : World Index Os)
    (broker : BrokerId)
    (alive : Nat) : ClientId × World Index Os :=
  match (world.brokers broker).broker with
  | some upstream => (upstream, world)
  | none =>
      (world.next,
        { world with
          next := world.next + 1
          clients :=
            Function.update world.clients world.next
              { MqttClient.initial with alive := alive }
        }.modifyBroker broker fun record =>
          { record with broker := some world.next })

/-- `MqttBroker::connect`; the constructor of the link leaves `alive` open. -/
def connectUpstream
    (world : World Index Os)
    (broker : BrokerId)
    (alive : Nat)
    (established : Bool) : Option (World Index Os) :=
  let (upstream, world) := world.upstreamLink broker alive
  (world.connectHost upstream 10 established).map fun world =>
    world.modifyClient upstream fun record =>
      { record with parent := some broker }

/-- The state that `connect` of a broker leaves, where it is defined. -/
def uplinked
    (world : World Index Os)
    (broker : BrokerId)
    (alive : Nat)
    (established : Bool) : World Index Os :=
  let (upstream, world) := world.upstreamLink broker alive
  (world.hosted upstream 10 established).modifyClient upstream
    fun record => { record with parent := some broker }

omit [Indexer Index] in
/-- Where `connect` of a broker is defined, it leaves that state. -/
theorem eq_uplinked
    {world after : World Index Os}
    {broker : BrokerId}
    {alive : Nat}
    {established : Bool}
    (returned : world.connectUpstream broker alive established = some after) :
    after = world.uplinked broker alive established := by
  obtain ⟨hosted, isHosted, rfl⟩ := Option.map_eq_some_iff.mp returned
  rw [eq_hosted isHosted]
  rfl

/-! ## Runs -/

/-- The clients whose loop a broker calls. -/
def Polled
    (world : World Index Os)
    (broker : BrokerId)
    (client : ClientId) : Prop :=
  client ∈ world.members broker ∨
    (world.brokers broker).broker = some client

/-- What happens in one step of a run. -/
inductive Action (Os : Type) where
  | accept
  | expire (client : ClientId)
  | poll (client : ClientId)
  | newLocal (id : List Byte) (alive : Nat)
  | setCallback (client : ClientId)
  | publish (client : ClientId) (topic : Topic) (payload : List Byte)
  | subscribe (client : ClientId) (topic : Topic) (qos : Byte)
  | unsubscribe (client : ClientId) (topic : Topic)
  | connectUpstream (alive : Nat) (established : Bool)
  | internTopic (name : List Byte)
  | releaseTopic (topic : Topic)
  /-- Time passes and data arrives between the calls of the program. -/
  | environment (os : Os)

/--
One step of the broker, of its application or of the environment.  The
application calls the methods of local clients only.
-/
inductive Step (broker : BrokerId) (world : World Index Os) :
    Action Os → World Index Os → Prop where
  | accept :
      Step broker world .accept (world.accept broker)
  | expire
      (client : ClientId)
      (polled : world.Polled broker client) :
      Step broker world (.expire client) (world.expire client)
  | poll
      (client : ClientId)
      (polled : world.Polled broker client) :
      Step broker world (.poll client) (world.poll client).2
  | newLocal
      (id : List Byte)
      (alive : Nat) :
      Step broker world (.newLocal id alive)
        (world.newLocal broker id alive)
  | setCallback
      (client : ClientId)
      (isLocal : (world.clients client).client = false) :
      Step broker world (.setCallback client) (world.setCallback client)
  | publish
      (client : ClientId)
      (topic : Topic)
      (payload : List Byte)
      (isLocal : (world.clients client).client = false)
      (ret : MqttError)
      (after : World Index Os)
      (returned :
        world.clientPublish client topic payload = some (ret, after)) :
      Step broker world (.publish client topic payload) after
  | subscribe
      (client : ClientId)
      (topic : Topic)
      (qos : Byte)
      (isLocal : (world.clients client).client = false)
      (fuel : Nat)
      (ret : MqttError)
      (after : World Index Os)
      (returned : clientSubscribe fuel world client topic qos =
        some (ret, after)) :
      Step broker world (.subscribe client topic qos) after
  | unsubscribe
      (client : ClientId)
      (topic : Topic)
      (isLocal : (world.clients client).client = false) :
      Step broker world (.unsubscribe client topic)
        (world.clientUnsubscribe client topic).2
  | connectUpstream
      (alive : Nat)
      (established : Bool)
      (after : World Index Os)
      (returned :
        world.connectUpstream broker alive established = some after) :
      Step broker world (.connectUpstream alive established) after
  | internTopic (name : List Byte) :
      Step broker world (.internTopic name) (world.internTopic name).2
  | releaseTopic (topic : Topic) :
      Step broker world (.releaseTopic topic) (world.releaseTopic topic)
  | environment (os : Os) :
      Step broker world (.environment os)
        { world with device := { world.device with os := os } }

/-- A run all of whose steps meet a condition. -/
abbrev Run
    (broker : BrokerId)
    (condition : World Index Os → Action Os → Prop) :
    World Index Os → World Index Os → Prop :=
  Relation.ReflTransGen fun before after =>
    ∃ action, Step broker before action after ∧ condition before action

/-- Any step will do. -/
def always (_ : World Index Os) (_ : Action Os) : Prop :=
  True

/-- A freshly set up device: no clients, every session slot free. -/
structure Initial (world : World Index Os) (broker : BrokerId) : Prop where
  noMembers : ∀ other, world.members other = []
  noUpstream : (world.brokers broker).broker = none
  noClients : ∀ client, world.clients client = MqttClient.initial
  slotsFree : ∀ slot, world.device.hd.hdSd slot = HttpdData.initialSlot
  noEvents : world.trace = []

end World

end SimpleTlsBroker
