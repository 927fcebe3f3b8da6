import SimpleTlsBroker.Changes
import SimpleTlsBroker.Scripts

namespace SimpleTlsBroker

/-!
# Peers that have not connected

As long as a peer is not connected, none of its messages reaches anybody else:
it may change its own record, write to its own session and be closed.
-/

open History

namespace Event

/-- The event calls no callback and writes to one connection at most. -/
def StaysWith (connection : Option SlotId) : Event → Prop
  | .callback _ _ _ => False
  | .written slot _ => connection = some slot
  | .sent slot _ _ _ => connection = some slot
  | .deleted slot _ => connection = some slot
  | _ => True

end Event

namespace World

variable {Index Os : Type} [Platform Os]

/-- Only one client and its session were worked on. -/
structure Isolated
    (client : ClientId)
    (before after : World Index Os) : Prop where
  others : ∀ other ≠ client, after.clients other = before.clients other
  members : ∀ broker, ∀ other ≠ client,
    (other ∈ after.members broker ↔ other ∈ before.members broker)
  isClient :
    (after.clients client).client = (before.clients client).client
  connection :
    (after.clients client).connection = (before.clients client).connection
  sessions : ∀ slot, (before.clients client).connection ≠ some slot →
    after.device.hd.hdSd slot = before.device.hd.hdSd slot
  trace :
    Grown (Event.StaysWith (before.clients client).connection)
      before.trace after.trace

namespace Isolated

variable {client : ClientId}
variable {before middle after : World Index Os}

omit [Platform Os] in
theorem refl (client : ClientId) (world : World Index Os) :
    Isolated client world world :=
  ⟨fun _ _ => rfl, fun _ _ _ => .rfl, rfl, rfl, fun _ _ => rfl, .refl _⟩

omit [Platform Os] in
theorem trans
    (first : Isolated client before middle)
    (second : Isolated client middle after) :
    Isolated client before after where
  others other distinct :=
    (second.others other distinct).trans (first.others other distinct)
  members broker other distinct :=
    (second.members broker other distinct).trans
      (first.members broker other distinct)
  isClient := second.isClient.trans first.isClient
  connection := second.connection.trans first.connection
  sessions slot notOwn := by
    rw [second.sessions slot (by rwa [first.connection]),
      first.sessions slot notOwn]
  trace := by
    have later := second.trace
    rw [first.connection] at later
    exact first.trace.trans later

omit [Platform Os] in
/-- A note that no other client sees. -/
theorem log
    (client : ClientId)
    (world : World Index Os)
    {event : Event}
    (stays : event.StaysWith (world.clients client).connection) :
    Isolated client world (world.log event) :=
  ⟨fun _ _ => rfl, fun _ _ _ => .rfl, rfl, rfl, fun _ _ => rfl,
    .single stays⟩

omit [Platform Os] in
/-- A change of the own record. -/
theorem modifyClient
    (client : ClientId)
    (world : World Index Os)
    {change : MqttClient → MqttClient}
    (keeps : KeepsLinks change) :
    Isolated client world (world.modifyClient client change) :=
  ⟨fun other distinct => by simp [distinct], fun _ _ _ => .rfl,
    by simp [keeps.client], by simp [keeps.connection], fun _ _ => rfl,
    .refl _⟩

omit [Platform Os] in
/-- Work on the topics. -/
theorem topics
    (client : ClientId)
    (world : World Index Os)
    (indexer : Index) :
    Isolated client world { world with indexer := indexer } :=
  ⟨fun _ _ => rfl, fun _ _ _ => .rfl, rfl, rfl, fun _ _ => rfl, .refl _⟩

/-- A write to the own session. -/
theorem writeClient
    (client : ClientId)
    (world : World Index Os)
    (bytes : List Byte) :
    Isolated client world (world.writeClient client bytes) := by
  cases connected : (world.clients client).connection with
  | none =>
      rw [writeClient_unconnected connected]
      exact .refl client world
  | some slot =>
      refine ⟨fun _ _ => rfl, fun _ _ _ => .rfl, rfl, rfl, ?_, ?_⟩
      · intro other notOwn
        have distinct : other ≠ slot := by
          rintro rfl
          exact notOwn connected
        simp [World.writeClient, connected, distinct]
      · simp only [World.trace, World.writeClient, connected]
        refine (world.device.trace_writeData slot bytes).weaken ?_
        intro event onSession
        cases event <;> simp_all [Event.OnSession, Event.StaysWith]

/-- The end of the own connection. -/
theorem close
    (client : ClientId)
    (world : World Index Os) :
    Isolated client world (world.close client) := by
  have device := world.device_close client
  have members (broker : BrokerId) (other : ClientId)
      (distinct : other ≠ client) :
      other ∈ (world.close client).members broker ↔
        other ∈ world.members broker := by
    unfold World.members
    rw [brokers_close]
    split
    · exact List.mem_erase_of_ne distinct
    · rfl
  cases session : world.session? client with
  | none =>
      rw [session] at device
      refine ⟨fun other distinct => clients_close_other world distinct,
        members, client_close world client client,
        connection_close world client client, ?_, ?_⟩
      · intro slot _
        rw [device]
        rfl
      · simp only [World.trace, device]
        exact .single trivial
  | some slot =>
      rw [session] at device
      have own := (holds_of_session? session).2
      refine ⟨fun other distinct => clients_close_other world distinct,
        members, client_close world client client,
        connection_close world client client, ?_, ?_⟩
      · intro other notOwn
        have distinct : other ≠ slot := by
          rintro rfl
          exact notOwn own
        rw [device, Device.hdSd_httpdSessDelete_other _ distinct]
        rfl
      · simp only [World.trace, device]
        refine ((Grown.single trivial).cons trivial).trans
          ((Device.trace_httpdSessDelete _ slot).weaken ?_)
        rintro event rfl
        exact own

/-- Setting the own deadline. -/
theorem clientAlive
    (client : ClientId)
    (world : World Index Os)
    (moreSeconds : Nat) :
    Isolated client world (world.clientAlive client moreSeconds) := by
  obtain ⟨change, keeps, result⟩ :=
    clientAlive_eq world client moreSeconds
  rw [result]
  exact .modifyClient client world keeps.toKeepsLinks

end Isolated

/-- What an unconnected peer does with its message. -/
theorem Activity.isolated
    {forward :
      BrokerId → ClientId → Topic → MqttMessage →
        World Index Os → World Index Os}
    {client : ClientId}
    {mesg : MqttMessage}
    {start world : World Index Os}
    (activity : Activity forward client mesg start world)
    (isRemote : (start.clients client).client = true)
    (unconnected : (start.clients client).mqttConnected = false) :
    Isolated client start world := by
  induction activity with
  | start => exact .refl client start
  | note event isReply _ inductionHypothesis =>
      refine inductionHypothesis.trans (.log client _ ?_)
      cases event <;> simp_all [Event.IsReply, Event.StaysWith]
  | record change keeps _ inductionHypothesis =>
      exact inductionHypothesis.trans
        (.modifyClient client _ keeps.toKeepsLinks)
  | topics indexer _ inductionHypothesis =>
      exact inductionHypothesis.trans (.topics client _ indexer)
  | write bytes _ inductionHypothesis =>
      exact inductionHypothesis.trans (.writeClient client _ bytes)
  | @login world parent user password _ _ _ _ _ inductionHypothesis =>
      have noted :
          Isolated client world
            (world.log (.credentials client user password)) :=
        .log client world trivial
      exact (inductionHypothesis.trans noted).trans
        (.modifyClient client _ keepsLinks_connect)
  | connAck _ _ inductionHypothesis =>
      exact inductionHypothesis.trans
        (.modifyClient client _ keepsLinks_connect)
  | forward parent topic _ _ _ connected =>
      rw [unconnected] at connected
      contradiction
  | callback topic payload _ allowed =>
      rcases allowed with connected | isLocal
      · rw [unconnected] at connected
        contradiction
      · rw [isRemote] at isLocal
        contradiction

variable [Indexer Index]

/-- One message of an unconnected peer. -/
theorem processMessage_isolated
    {world : World Index Os}
    {client : ClientId}
    (isRemote : (world.clients client).client = true)
    (unconnected : (world.clients client).mqttConnected = false)
    (mesg : MqttMessage) :
    Isolated client world (world.processMessage client mesg) := by
  obtain ⟨middle, activity, outcome⟩ :=
    processMessageWith_outcome
      (fun broker source topic mesg world =>
        (world.publish broker source topic mesg).2) world client mesg
  have noted :
      Isolated client world (world.log (.processed client mesg)) :=
    .log client world trivial
  have worked : Isolated client world middle :=
    noted.trans (activity.isolated isRemote unconnected)
  refine worked.trans ?_
  unfold processMessage
  generalize world.processMessageWith _ client mesg = after at outcome ⊢
  cases outcome with
  | rejected => exact .close client middle
  | disconnected _ moreSeconds =>
      exact (Isolated.close client middle).trans
        (.clientAlive client _ moreSeconds)
  | taken => exact .clientAlive client middle _

/--
Process messages of a peer, up to the first one after which it is connected or
no longer attached.
-/
def processUntilConnected
    (client : ClientId) :
    List MqttMessage → World Index Os → World Index Os
  | [], world => world
  | mesg :: rest, world =>
      let next := world.processMessage client mesg
      if (next.clients client).mqttConnected ∨
          (next.clients client).parent = none then
        next
      else
        processUntilConnected client rest next

/-- An attached networked client that is not connected. -/
def Waiting
    (world : World Index Os)
    (client : ClientId) : Prop :=
  (world.clients client).Accepted ∧
    (world.clients client).mqttConnected = false

/-- The members of a broker hold distinct session slots. -/
def DistinctSlots
    (world : World Index Os)
    (broker : BrokerId) : Prop :=
  ∀ first ∈ world.members broker, ∀ second ∈ world.members broker,
    (world.clients first).connection ≠ none →
      (world.clients first).connection = (world.clients second).connection →
        first = second

instance (world : World Index Os) (broker : BrokerId) :
    Decidable (world.DistinctSlots broker) :=
  inferInstanceAs
    (Decidable
      (∀ first ∈ world.members broker, ∀ second ∈ world.members broker,
        (world.clients first).connection ≠ none →
          (world.clients first).connection =
              (world.clients second).connection →
            first = second))

/-- Messages of a waiting peer, until it is connected or closed. -/
theorem processUntilConnected_isolated
    {world : World Index Os}
    {client : ClientId}
    (waiting : world.Waiting client)
    (frames : List MqttMessage) :
    Isolated client world (processUntilConnected client frames world) := by
  induction frames generalizing world with
  | nil => exact .refl client world
  | cons mesg rest inductionHypothesis =>
      obtain ⟨⟨_, isRemote⟩, unconnected⟩ := waiting
      have isolated := processMessage_isolated isRemote unconnected mesg
      rw [processUntilConnected]
      split
      · exact isolated
      · rename_i stillWaiting
        obtain ⟨stillUnconnected, attached⟩ := not_or.mp stillWaiting
        refine isolated.trans (inductionHypothesis ⟨⟨attached, ?_⟩, ?_⟩)
        · rw [isolated.isClient]
          exact isRemote
        · simpa using stillUnconnected

/--
Whatever a peer sends before it is connected, the other clients of its broker
keep their records, their sessions and their places in the list, no callback
is called, and nothing is written to a connection of another client.
-/
theorem unconnected_peer_isolated
    {world : World Index Os}
    {broker : BrokerId}
    {client : ClientId}
    (distinct : world.DistinctSlots broker)
    (member : client ∈ world.members broker)
    (waiting : world.Waiting client)
    (frames : List MqttMessage) :
    Isolated client world (processUntilConnected client frames world) ∧
      Grown
        (fun event =>
          ∀ slot bytes, event = .written slot bytes →
            (world.clients client).connection = some slot ∧
              ∀ other ∈ world.members broker, other ≠ client →
                (world.clients other).connection ≠ some slot)
        world.trace (processUntilConnected client frames world).trace := by
  have isolated := processUntilConnected_isolated waiting frames
  refine ⟨isolated, isolated.trace.weaken ?_⟩
  rintro event stays slot bytes rfl
  refine ⟨stays, ?_⟩
  intro other otherMember isOther connected
  refine isOther (distinct other otherMember client member ?_ ?_)
  · simp [connected]
  · exact connected.trans stays.symm

/-- Two peers that have not sent anything yet. -/
def newcomerScript : Script where
  clock := 0
  connections := [5, 6]
  receipts := []
  sendResults := []

/-- Both are accepted. -/
def newcomerRun : World StringIndexer Script :=
  performAll 0 always [.accept, .accept] newcomerScript.setup

/-- A PUBLISH message before the CONNECT message closes its sender only. -/
theorem unconnected_peer_isolated_publish :
    (processUntilConnected 0 [publishMessage [0x61] []]
        newcomerRun).members 0 = [1] ∧
      (processUntilConnected 0 [publishMessage [0x61] []]
        newcomerRun).clients 1 = newcomerRun.clients 1 := by
  refine ⟨by decide, ?_⟩
  have distinct : newcomerRun.DistinctSlots 0 := by decide
  exact (unconnected_peer_isolated distinct (by decide)
    ⟨⟨by decide, by decide⟩, by decide⟩ _).1.others 1 (by decide)

end World

end SimpleTlsBroker
