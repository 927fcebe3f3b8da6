import SimpleTlsBroker.FanOut

namespace SimpleTlsBroker

/-!
# Forwarding to the upstream broker

With a connected upstream broker, `MqttBroker::publish` forwards a message
inside the loop over its own clients.  The link gets one copy for every client
of the list, so the number of copies is the length of the list.
-/

namespace Event

/-- Is an event a call of `sendTo` for a client? -/
def sendsTo (client : ClientId) : Event → Bool
  | .sentTo other _ => other = client
  | _ => false

/-- Sending is a service. -/
theorem isService_of_sendsTo
    {client : ClientId}
    {event : Event}
    (sends : event.sendsTo client = true) :
    event.isService = true := by
  cases event with
  | sentTo other bytes => rfl
  | _ => cases sends

end Event

/-- How often a message was sent to a client. -/
def Trace.sends (trace : Trace) (client : ClientId) : Nat :=
  trace.countP (Event.sendsTo client)

/-- The messages that were sent are among the services. -/
theorem Trace.sends_services (trace : Trace) (client : ClientId) :
    trace.sends client = trace.services.countP (Event.sendsTo client) := by
  unfold sends services
  rw [List.countP_reverse, List.countP_filter]
  apply List.countP_congr
  intro event _
  constructor
  · intro sends
    simp [sends, Event.isService_of_sendsTo sends]
  · intro both
    exact (Bool.and_eq_true_iff.mp both).1

namespace World

variable {Index Os : Type} [Indexer Index] [Platform Os]
variable {world : World Index Os}
variable {broker : BrokerId}
variable {upstream source : ClientId}
variable {topic : Topic}
variable {msg : MqttMessage}

/-- A broker with a connected link to an upstream broker. -/
structure LinkedUpstream
    (world : World Index Os)
    (broker : BrokerId)
    (upstream : ClientId) : Prop where
  isUpstream : (world.brokers broker).broker = some upstream
  hasTcpClient : (world.clients upstream).client = true
  connected : world.connected upstream = true

omit [Indexer Index] in
/-- What a delivery leaves as it was includes the link. -/
theorem LinkedUpstream.undisturbed
    {before after : World Index Os}
    (link : LinkedUpstream before broker upstream)
    (undisturbed : Undisturbed before after) :
    LinkedUpstream after broker upstream where
  isUpstream := by
    rw [undisturbed.brokers]
    exact link.isUpstream
  hasTcpClient := (undisturbed.client upstream).trans link.hasTcpClient
  connected := by
    have connected := link.connected
    unfold World.connected at connected ⊢
    dsimp only at connected ⊢
    rw [undisturbed.parent, undisturbed.client, undisturbed.tcpConnected]
    exact connected

/-- A publication is sent to a subscribed networked client. -/
theorem publishIfSubscribed_forwards
    (subscribed : world.isSubscribedTo upstream topic = true)
    (isRemote : (world.clients upstream).client = true)
    (isPublish : msg.kind? = some .publish) :
    world.publishIfSubscribed upstream topic msg =
      ((.ok, msg), (world.sendTo msg upstream).2) := by
  have complete := complete_of_publish isPublish
  unfold publishIfSubscribed
  rw [if_pos subscribed, if_pos isRemote]
  unfold sendTo
  rw [if_pos (length_ne_zero_of_publish isPublish),
    encoded_complete complete]

omit [Platform Os] in
/-- One service of a subscribed networked client is that it is sent to. -/
theorem countP_service
    (subscribed : world.isSubscribedTo upstream topic = true)
    (isRemote : (world.clients upstream).client = true)
    (payload : List Byte) :
    (world.service topic msg payload upstream).countP
      (Event.sendsTo upstream) = 1 := by
  unfold service
  dsimp only
  rw [if_pos subscribed, if_pos isRemote]
  cases (world.clients upstream).connection with
  | none => simp [Event.sendsTo]
  | some slot => simp [Event.sendsTo]

/-- With a connected link, a round forwards the message. -/
theorem publishStep_forwards
    (apart : SessionsApart Os)
    (link : LinkedUpstream world broker upstream)
    (subscribed : world.isSubscribedTo upstream topic = true)
    (notSource : source ≠ upstream)
    (isPublish : msg.kind? = some .publish)
    (retval : MqttError)
    (client : ClientId) :
    ∃ after,
      publishStep broker source topic ((retval, msg), world) client =
          ((retval, msg), after) ∧
        Undisturbed world after ∧
        after.trace.sends upstream = world.trace.sends upstream + 1 := by
  obtain ⟨_, undisturbed, served⟩ :=
    sendTo_serves apart isPublish subscribed link.hasTcpClient []
  refine ⟨(world.sendTo msg upstream).2, ?_, undisturbed, ?_⟩
  · have sends :=
      publishIfSubscribed_forwards subscribed link.hasTcpClient isPublish
    unfold publishStep
    dsimp only
    rw [link.isUpstream]
    dsimp only
    rw [if_pos ⟨link.connected, notSource⟩, sends]
    rfl
  · rw [Trace.sends_services, Trace.sends_services, served,
      List.countP_append, countP_service subscribed link.hasTcpClient]

/-- With a connected link, the loop forwards the message in every round. -/
theorem publishLoop_forwards
    (apart : SessionsApart Os)
    (link : LinkedUpstream world broker upstream)
    (subscribed : world.isSubscribedTo upstream topic = true)
    (notSource : source ≠ upstream)
    (isPublish : msg.kind? = some .publish)
    (clients : List ClientId)
    (retval : MqttError) :
    (clients.foldl (publishStep broker source topic)
      ((retval, msg), world)).2.trace.sends upstream =
        world.trace.sends upstream + clients.length := by
  induction clients generalizing world with
  | nil => rfl
  | cons client rest inductionHypothesis =>
      obtain ⟨middle, round, undisturbed, sent⟩ :=
        publishStep_forwards apart link subscribed notSource isPublish
          retval client
      have laterSubscribed : middle.isSubscribedTo upstream topic = true :=
        (undisturbed.isSubscribedTo upstream topic).trans subscribed
      have later :=
        inductionHypothesis (link.undisturbed undisturbed) laterSubscribed
      rw [List.foldl_cons, round, later, sent, List.length_cons]
      omega

/-- The upstream link gets one copy for every client of the list. -/
theorem publish_forwards
    (apart : SessionsApart Os)
    (link : LinkedUpstream world broker upstream)
    (subscribed : world.isSubscribedTo upstream topic = true)
    (notSource : source ≠ upstream)
    (isPublish : msg.kind? = some .publish) :
    (world.publish broker source topic msg).2.trace.sends upstream =
      world.trace.sends upstream + (world.members broker).length :=
  publishLoop_forwards apart link subscribed notSource isPublish
    (world.members broker) .ok

/--
A publication is sent to the connected upstream link exactly once if and only
if the broker's list has one client.
-/
theorem publish_forwards_once_iff
    (apart : SessionsApart Os)
    (link : LinkedUpstream world broker upstream)
    (subscribed : world.isSubscribedTo upstream topic = true)
    (notSource : source ≠ upstream)
    (isPublish : msg.kind? = some .publish) :
    (world.publish broker source topic msg).2.trace.sends upstream =
        world.trace.sends upstream + 1 ↔
      (world.members broker).length = 1 := by
  rw [publish_forwards apart link subscribed notSource isPublish]
  omega

end World

/-- A scripted platform on which every `TcpClient` is connected. -/
structure Uplink where
  script : Script

namespace Uplink

instance : Platform Uplink where
  millis uplink := Platform.millis uplink.script
  select uplink fds :=
    let (result, script) := Platform.select uplink.script fds
    (result, { script := script })
  pending uplink fd := Platform.pending uplink.script fd
  recv uplink fd buflen :=
    let (result, script) := Platform.recv uplink.script fd buflen
    (result, { script := script })
  send uplink fd bytes :=
    let (ret, script) := Platform.send uplink.script fd bytes
    (ret, { script := script })
  accept uplink :=
    let (fd, script) := Platform.accept uplink.script
    (fd, { script := script })
  openFn uplink fd :=
    let (succeeded, script) := Platform.openFn uplink.script fd
    (succeeded, { script := script })
  closeFn uplink fd := { script := Platform.closeFn uplink.script fd }
  tcpConnected _ _ := true
  memory uplink offset := Platform.memory uplink.script offset

/-- Writing to a session leaves the links connected. -/
theorem sessionsApart : SessionsApart Uplink :=
  ⟨fun _ _ _ _ => rfl, fun _ _ _ => rfl⟩

/-- A platform without connections, at a time. -/
def silent (clock : Nat) : Uplink where
  script :=
    { clock := clock
      connections := []
      receipts := []
      sendResults := [] }

/-- A broker before its first loop. -/
def setup : World StringIndexer Uplink where
  device := { os := silent 0, hd := Script.table, trace := [] }
  indexer := .empty
  brokers := fun _ =>
    { clients := []
      authUser := .ofList []
      authPassword := .ofList []
      broker := none }
  clients := fun _ => MqttClient.initial
  next := 0

/--
The broker connects to an upstream broker and gets local clients; one of them
subscribes the link and itself to `"a"`.  The link has no parent by then: its
deadline has passed, and with a parent `subscribe` would not return.
-/
def forwardingRun (locals : Nat) : World StringIndexer Uplink :=
  World.performAll 0 World.always
    ([.internTopic [0x61], .connectUpstream 0 true,
        .environment (silent 20000), .expire 0] ++
      List.replicate locals (.newLocal [] 0) ++ [.subscribe 1 ⟨1⟩ 0])
    setup

/-- With one local client the link gets its publication once. -/
theorem forwards_once_alone :
    ((forwardingRun 1).publish 0 1 ⟨1⟩
        (World.publishMessage [0x61] [0x78])).2.trace.sends 0 =
      (forwardingRun 1).trace.sends 0 + 1 := by
  have link : World.LinkedUpstream (forwardingRun 1) 0 0 :=
    ⟨by decide, by decide, by decide⟩
  exact
    (World.publish_forwards_once_iff sessionsApart link (by decide)
      (by decide) (by decide)).mpr (by decide)

/-- With two local clients the link gets a publication twice. -/
theorem forwards_twice :
    World.Run 0 World.always setup (forwardingRun 2) ∧
      World.LinkedUpstream (forwardingRun 2) 0 0 ∧
      (forwardingRun 2).isSubscribedTo 0 ⟨1⟩ = true ∧
      ((forwardingRun 2).publish 0 1 ⟨1⟩
          (World.publishMessage [0x61] [0x78])).2.trace.sends 0 =
        (forwardingRun 2).trace.sends 0 + 2 :=
  ⟨World.run_performAll 0 World.always _ setup,
    ⟨by decide, by decide, by decide⟩, by decide, by decide⟩

end Uplink

end SimpleTlsBroker
