import SimpleTlsBroker.Loop

namespace SimpleTlsBroker

/-!
# Construction, attachment and destruction

The calls that make clients, attach them to brokers of the same program and
destroy them again.  Any number of brokers and clients take part, and every
call may come at any time.
-/

namespace World

variable {Index Os : Type}

/-- `new MqttClient(broker, id)`; without a broker nothing lists the client. -/
def newClient
    (world : World Index Os)
    (parent : Option BrokerId)
    (id : List Byte)
    (alive : Nat) : World Index Os :=
  match parent with
  | some broker => world.newLocal broker id alive
  | none =>
      { world with
        next := world.next + 1
        clients :=
          Function.update world.clients world.next
            { MqttClient.initial with
              alive := alive
              clientId := id } }

variable [Platform Os]

/-- `MqttClient::connect` to a broker of this program: no list changes. -/
def connectBroker
    (world : World Index Os)
    (client : ClientId)
    (parentBroker : Option BrokerId) : World Index Os :=
  (world.close client).modifyClient client fun record =>
    { record with parent := parentBroker }

variable [Indexer Index]

/-- The destructor of the set of topics. -/
def releaseSubscriptions
    (world : World Index Os)
    (client : ClientId) : World Index Os :=
  ((world.clients client).subscriptions.items.foldl World.releaseTopic
      world).modifyClient client fun record =>
    { record with subscriptions := .empty }

/--
`MqttClient::~MqttClient`: the body, and the destructor of the topics.  The
memory of a client is not used again.
-/
def destroyClient
    (world : World Index Os)
    (client : ClientId) : Option (World Index Os) :=
  ((world.close client).deleteTcpClient client).map fun world =>
    world.releaseSubscriptions client

/--
The loop of `MqttBroker::~MqttBroker`: nothing when the rounds run out, and
the result of the loop otherwise.
-/
def destroyBroker
    (broker : BrokerId) :
    (rounds : Nat) → World Index Os → Option (Option (World Index Os))
  | 0, _ => none
  | rounds + 1, world =>
      match world.members broker with
      | [] => some (some world)
      | client :: _ =>
          match world.destroyClient client with
          | none => some none
          | some world => destroyBroker broker rounds world

/-- Nothing has been constructed yet. -/
structure Fresh (world : World Index Os) : Prop where
  noMembers : ∀ broker, world.members broker = []
  noUpstream : ∀ broker, (world.brokers broker).broker = none
  noClients : ∀ client, world.clients client = MqttClient.initial

/--
Any call on any broker or client, by the application or by a loop: the clients
whose `client` is deleted, and the state that is left if the call is defined.
-/
inductive LifeStep (world : World Index Os) :
    (ClientId → Prop) → Option (World Index Os) → Prop where
  | newClient (parent : Option BrokerId) (id : List Byte) (alive : Nat) :
      LifeStep world (fun _ => False) (some (world.newClient parent id alive))
  | accept (broker : BrokerId) :
      LifeStep world (fun _ => False) (some (world.accept broker))
  | connectBroker (client : ClientId) (parentBroker : Option BrokerId) :
      LifeStep world (fun _ => False)
        (some (world.connectBroker client parentBroker))
  | connectHost (client : ClientId) (ka : Nat) (established : Bool) :
      LifeStep world (fun deleted => deleted = client)
        (world.connectHost client ka established)
  | connectUpstream (broker : BrokerId) (alive : Nat) (established : Bool) :
      LifeStep world
        (fun deleted => (world.brokers broker).broker = some deleted)
        (world.connectUpstream broker alive established)
  | processMessage (client : ClientId) (mesg : MqttMessage) :
      LifeStep world (fun _ => False)
        (some (world.processMessage client mesg))
  | poll (client : ClientId) :
      LifeStep world (fun _ => False) (some (world.poll client).2)
  | expire (client : ClientId) :
      LifeStep world (fun _ => False) (some (world.expire client))
  | close (client : ClientId) :
      LifeStep world (fun _ => False) (some (world.close client))
  | destroyClient (client : ClientId) :
      LifeStep world (fun deleted => deleted = client)
        (world.destroyClient client)
  | destroyBroker
      (broker : BrokerId)
      (rounds : Nat)
      (outcome : Option (World Index Os))
      (returned : destroyBroker broker rounds world = some outcome) :
      LifeStep world (fun deleted => deleted ∈ world.members broker) outcome
  | setCallback (client : ClientId) :
      LifeStep world (fun _ => False) (some (world.setCallback client))
  | publish
      (client : ClientId)
      (topic : Topic)
      (payload : List Byte)
      (ret : MqttError)
      (after : World Index Os)
      (returned :
        world.clientPublish client topic payload = some (ret, after)) :
      LifeStep world (fun _ => False) (some after)
  | subscribe
      (client : ClientId)
      (topic : Topic)
      (qos : Byte)
      (fuel : Nat)
      (ret : MqttError)
      (after : World Index Os)
      (returned :
        clientSubscribe fuel world client topic qos = some (ret, after)) :
      LifeStep world (fun _ => False) (some after)
  | unsubscribe (client : ClientId) (topic : Topic) :
      LifeStep world (fun _ => False)
        (some (world.clientUnsubscribe client topic).2)
  | internTopic (name : List Byte) :
      LifeStep world (fun _ => False) (some (world.internTopic name).2)
  | releaseTopic (topic : Topic) :
      LifeStep world (fun _ => False) (some (world.releaseTopic topic))
  | environment (os : Os) :
      LifeStep world (fun _ => False)
        (some { world with device := { world.device with os := os } })

/--
Any sequence of such calls, all of them defined, with a condition on the
clients whose `client` is deleted.
-/
abbrev LifeRun
    (condition : World Index Os → ClientId → Prop) :
    World Index Os → World Index Os → Prop :=
  Relation.ReflTransGen fun before after =>
    ∃ deleted,
      LifeStep before deleted (some after) ∧
        ∀ client, deleted client → condition before client

/-- The `client` of any client may be deleted. -/
def freely (_ : World Index Os) (_ : ClientId) : Prop :=
  True

/-- Any call that is defined will do. -/
theorem LifeStep.freely
    {before after : World Index Os}
    {deleted : ClientId → Prop}
    (step : LifeStep before deleted (some after)) :
    ∃ deleted,
      LifeStep before deleted (some after) ∧
        ∀ client, deleted client → World.freely before client :=
  ⟨deleted, step, fun _ _ => trivial⟩

end World

end SimpleTlsBroker
