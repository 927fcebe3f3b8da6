import SimpleTlsBroker.MessageReads
import SimpleTlsBroker.Sessions

namespace SimpleTlsBroker

/-!
# Clients, brokers and their links

Objects are addressed by numbers; a closed `MqttClient` is never freed by the
broker, so an address stays valid.  This module holds the operations that
change the links between clients, brokers and sessions, and the transmission
of one message.
-/

/-- `MqttError`. -/
inductive MqttError where
  | ok
  | nowhereToSend
  | invalidMessage
  deriving Repr, DecidableEq

/-- `MqttClient`; `client` and `callback` tell whether the pointer is set. -/
structure MqttClient where
  mqttConnected : Bool
  mqttFlags : Byte
  keepAlive : Nat
  alive : Nat
  message : MqttMessage
  parent : Option BrokerId
  client : Bool
  subscriptions : TopicSet
  clientId : List Byte
  callback : Bool
  connection : Option SlotId

/-- `MqttBroker`. -/
structure MqttBroker where
  clients : List ClientId
  authUser : CharPointer
  authPassword : CharPointer
  broker : Option ClientId

/-- The state of the program. -/
structure World (Index Os : Type) where
  device : Device Os
  indexer : Index
  brokers : BrokerId → MqttBroker
  clients : ClientId → MqttClient
  /-- The address of the next client. -/
  next : ClientId

namespace MqttClient

/-- The members of a client before its constructor body. -/
def initial : MqttClient where
  mqttConnected := false
  mqttFlags := 0
  keepAlive := 60
  alive := 0
  message := .fresh
  parent := none
  client := false
  subscriptions := .empty
  clientId := []
  callback := false
  connection := none

/-- A client that a broker holds and that has a TCP link. -/
def Accepted (client : MqttClient) : Prop :=
  client.parent ≠ none ∧ client.client = true

end MqttClient

namespace World

variable {Index Os : Type}

/-- Record an event. -/
def log (world : World Index Os) (event : Event) : World Index Os :=
  { world with device := world.device.log event }

/-- Change one client. -/
def modifyClient
    (world : World Index Os)
    (client : ClientId)
    (change : MqttClient → MqttClient) : World Index Os :=
  { world with
    clients :=
      Function.update world.clients client (change (world.clients client)) }

/-- Change one broker. -/
def modifyBroker
    (world : World Index Os)
    (broker : BrokerId)
    (change : MqttBroker → MqttBroker) : World Index Os :=
  { world with
    brokers :=
      Function.update world.brokers broker (change (world.brokers broker)) }

/-- The events so far. -/
def trace (world : World Index Os) : Trace :=
  world.device.trace

/-- The members of a broker's client list. -/
def members (world : World Index Os) (broker : BrokerId) : List ClientId :=
  (world.brokers broker).clients

@[simp] theorem trace_log (world : World Index Os) (event : Event) :
    (world.log event).trace = event :: world.trace := rfl

@[simp] theorem clients_log (world : World Index Os) (event : Event) :
    (world.log event).clients = world.clients := rfl

@[simp] theorem brokers_log (world : World Index Os) (event : Event) :
    (world.log event).brokers = world.brokers := rfl

@[simp] theorem indexer_log (world : World Index Os) (event : Event) :
    (world.log event).indexer = world.indexer := rfl

@[simp] theorem next_log (world : World Index Os) (event : Event) :
    (world.log event).next = world.next := rfl

@[simp] theorem hd_log (world : World Index Os) (event : Event) :
    (world.log event).device.hd = world.device.hd := rfl

@[simp] theorem os_log (world : World Index Os) (event : Event) :
    (world.log event).device.os = world.device.os := rfl

@[simp] theorem device_modifyClient
    (world : World Index Os)
    (client : ClientId)
    (change : MqttClient → MqttClient) :
    (world.modifyClient client change).device = world.device := rfl

@[simp] theorem trace_modifyClient
    (world : World Index Os)
    (client : ClientId)
    (change : MqttClient → MqttClient) :
    (world.modifyClient client change).trace = world.trace := rfl

@[simp] theorem brokers_modifyClient
    (world : World Index Os)
    (client : ClientId)
    (change : MqttClient → MqttClient) :
    (world.modifyClient client change).brokers = world.brokers := rfl

@[simp] theorem indexer_modifyClient
    (world : World Index Os)
    (client : ClientId)
    (change : MqttClient → MqttClient) :
    (world.modifyClient client change).indexer = world.indexer := rfl

@[simp] theorem next_modifyClient
    (world : World Index Os)
    (client : ClientId)
    (change : MqttClient → MqttClient) :
    (world.modifyClient client change).next = world.next := rfl

@[simp] theorem clients_modifyClient_self
    (world : World Index Os)
    (client : ClientId)
    (change : MqttClient → MqttClient) :
    (world.modifyClient client change).clients client =
      change (world.clients client) := by
  simp [modifyClient]

@[simp] theorem clients_modifyClient_other
    (world : World Index Os)
    {client other : ClientId}
    (change : MqttClient → MqttClient)
    (distinct : other ≠ client) :
    (world.modifyClient client change).clients other =
      world.clients other := by
  simp [modifyClient, distinct]

@[simp] theorem device_modifyBroker
    (world : World Index Os)
    (broker : BrokerId)
    (change : MqttBroker → MqttBroker) :
    (world.modifyBroker broker change).device = world.device := rfl

@[simp] theorem trace_modifyBroker
    (world : World Index Os)
    (broker : BrokerId)
    (change : MqttBroker → MqttBroker) :
    (world.modifyBroker broker change).trace = world.trace := rfl

@[simp] theorem clients_modifyBroker
    (world : World Index Os)
    (broker : BrokerId)
    (change : MqttBroker → MqttBroker) :
    (world.modifyBroker broker change).clients = world.clients := rfl

@[simp] theorem indexer_modifyBroker
    (world : World Index Os)
    (broker : BrokerId)
    (change : MqttBroker → MqttBroker) :
    (world.modifyBroker broker change).indexer = world.indexer := rfl

@[simp] theorem next_modifyBroker
    (world : World Index Os)
    (broker : BrokerId)
    (change : MqttBroker → MqttBroker) :
    (world.modifyBroker broker change).next = world.next := rfl

@[simp] theorem brokers_modifyBroker_self
    (world : World Index Os)
    (broker : BrokerId)
    (change : MqttBroker → MqttBroker) :
    (world.modifyBroker broker change).brokers broker =
      change (world.brokers broker) := by
  simp [modifyBroker]

@[simp] theorem brokers_modifyBroker_other
    (world : World Index Os)
    {broker other : BrokerId}
    (change : MqttBroker → MqttBroker)
    (distinct : other ≠ broker) :
    (world.modifyBroker broker change).brokers other =
      world.brokers other := by
  simp [modifyBroker, distinct]

/-! ## Topics -/

section Topics

variable [Indexer Index]

/-- Construct a `Topic` from a name. -/
def internTopic
    (world : World Index Os)
    (name : List Byte) : Topic × World Index Os :=
  let (topic, indexer) := Indexer.strToIndex world.indexer name
  (topic, { world with indexer := indexer })

/-- Copy a `Topic`. -/
def useTopic
    (world : World Index Os)
    (topic : Topic) : World Index Os :=
  { world with indexer := Indexer.use world.indexer topic }

/-- Destroy a `Topic`. -/
def releaseTopic
    (world : World Index Os)
    (topic : Topic) : World Index Os :=
  { world with indexer := Indexer.release world.indexer topic }

/-- `MqttClient::isSubscribedTo`. -/
def isSubscribedTo
    (world : World Index Os)
    (client : ClientId)
    (topic : Topic) : Bool :=
  (world.clients client).subscriptions.items.any fun subscription =>
    subscription.matchesTopic world.indexer topic

end Topics

/-! ## Messages and sessions -/

variable [Platform Os]

/--
Memory from `&buffer[0]` of a message on: its bytes, the terminator that
`std::string` keeps behind them, and whatever follows.
-/
def memory
    (world : World Index Os)
    (message : MqttMessage) : CharPointer :=
  fun offset =>
    match message.buffer[offset]? with
    | some byte => byte
    | none =>
        if offset = message.buffer.length then
          0
        else
          Platform.memory world.device.os offset

/-- `writeData` on the connection of a client. -/
def writeClient
    (world : World Index Os)
    (client : ClientId)
    (bytes : List Byte) : World Index Os :=
  { world with
    device :=
      (world.device.writeData (world.clients client).connection bytes).2 }

/--
`MqttMessage::sendTo`: the result, and the message with its length encoded.
The result of `writeData` is not looked at.  The length of a message of one or
two bytes is written behind its buffer, of which nothing is sent.
-/
def sendTo
    (world : World Index Os)
    (message : MqttMessage)
    (client : ClientId) :
    (MqttError × MqttMessage) × World Index Os :=
  if message.buffer.length ≠ 0 then
    let message := message.encoded
    let world := world.log (.sentTo client message.buffer)
    ((.ok, message), world.writeClient client message.buffer)
  else
    ((.invalidMessage, message), world)

/-- Send a message built for one client. -/
def sendOwn
    (world : World Index Os)
    (message : MqttMessage)
    (client : ClientId) : World Index Os :=
  (world.sendTo message client).2

/-- `MqttBroker::addClient`. -/
def addClient
    (world : World Index Os)
    (broker : BrokerId)
    (client : ClientId) : World Index Os :=
  (world.modifyClient client fun record =>
      { record with message := record.message.reset }).modifyBroker broker
    fun record => { record with clients := record.clients ++ [client] }

/-- The session deletion of `MqttBroker::removeClient`. -/
def dropSession
    (world : World Index Os)
    (remove : ClientId) : World Index Os :=
  match (world.clients remove).client, (world.clients remove).connection with
  | true, some slot =>
      { world with
        device :=
          (world.device.log
            (.dropped remove slot (world.device.fd slot))).httpdSessDelete
              slot }
  | _, _ => world

/-- `MqttBroker::removeClient`. -/
def removeClient
    (world : World Index Os)
    (broker : BrokerId)
    (remove : ClientId) : World Index Os :=
  (world.dropSession remove).modifyBroker broker
    fun record => { record with clients := record.clients.erase remove }

/-- `MqttClient::close`. -/
def close
    (world : World Index Os)
    (client : ClientId) : World Index Os :=
  let world :=
    (world.log (.closed client)).modifyClient client
      fun record => { record with mqttConnected := false }
  match (world.clients client).parent with
  | some parent =>
      (world.removeClient parent client).modifyClient client
        fun record => { record with parent := none }
  | none => world

/-- `MqttClient::clientAlive`, in 32-bit arithmetic. -/
def clientAlive
    (world : World Index Os)
    (client : ClientId)
    (moreSeconds : Nat) : World Index Os :=
  let millis := world.device.millis
  world.modifyClient client fun record =>
    { record with
      alive :=
        if record.keepAlive ≠ 0 then
          (millis + 1000 * (record.keepAlive + moreSeconds)) % 2 ^ 32
        else
          0 }

/-- `MqttClient::connected`. -/
def connected
    (world : World Index Os)
    (client : ClientId) : Bool :=
  let record := world.clients client
  (record.parent.isSome && !record.client) ||
    (record.client && Platform.tcpConnected world.device.os client)

/-- `broker && broker->connected()` in a broker. -/
def upstreamConnected
    (world : World Index Os)
    (broker : BrokerId) : Bool :=
  match (world.brokers broker).broker with
  | some upstream => world.connected upstream
  | none => false

end World

end SimpleTlsBroker
