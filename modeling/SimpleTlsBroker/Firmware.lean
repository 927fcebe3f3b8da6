import SimpleTlsBroker.Application
import SimpleTlsBroker.CallbackCopy
import SimpleTlsBroker.LiftSafety
import SimpleTlsBroker.ServiceRefinement

namespace SimpleTlsBroker

/-!
# The broker and its application

`setup` adds a local client to the broker, and `loop` calls `loop_Client` and
the loop of the broker in turn.  The callback of the client publishes in the
middle of a publication: `MqttBroker::publish`, `publishIfSubscribed`,
`processMessage`, `mqttCallback`, `MQTTpublish`, `MqttClient::publish` and
`MqttBroker::publish` again form a circle.  It is cut at the callback, which
takes fuel and returns nothing when it runs out.
-/

/-- Whose callback was called, and with which topic and payload. -/
def Event.callbackCall? : Event → Option (ClientId × Topic × List Byte)
  | .callback client topic payload => some (client, topic, payload)
  | _ => none

/-- The calls of callbacks, oldest first. -/
def Trace.callbackCalls (trace : Trace) : List (ClientId × Topic × List Byte) :=
  (trace.filterMap Event.callbackCall?).reverse

/-- A call of `mqttCallback` or of `loop_Client`, and what `millis()` was then. -/
inductive AppCall where
  /-- The topic, and what is handed over with its name. -/
  | mqttCallback (now : Nat) (topic : Topic) (delivery : Delivery)
  | loopClient (now : Nat)

namespace AppCall

/-- The step that the lift takes. -/
def step : AppCall → Nat × LiftStep
  | .mqttCallback now _ delivery => (now, .message delivery)
  | .loopClient now => (now, .tick)

/-- The call of a callback, when it is the one of a client. -/
def callbackCall? (client : ClientId) :
    AppCall → Option (ClientId × Topic × List Byte)
  | .mqttCallback _ topic delivery => some (client, topic, delivery.payload)
  | .loopClient _ => none

/-- The time of a call of `loop_Client`. -/
def loopTime? : AppCall → Option Nat
  | .mqttCallback _ _ _ => none
  | .loopClient now => some now

end AppCall

/-- The broker, `MQTTclient`, and the variables of the lift. -/
structure Program (Os : Type) where
  world : World StringIndexer Os
  mqttClient : ClientId
  lift : Lift
  /-- What the application was called for, oldest first. -/
  history : List AppCall

/-- The topic of what the application publishes. -/
def Notice.topic : Notice → String
  | .connected => "r2d-fx/connected"
  | .info => "r2d-fx/info"
  | .estimated _ _ _ | .default | .stopped => "r2d-fx/event/state"
  | .speak => "tts/speak"

/--
What the application uses of its libraries, and what its local variables hold
before they are set.
-/
structure Surroundings (Os : Type) where
  sscanf : Sscanf
  /-- `WiFi.localIP().toString()`. -/
  localIp : List Byte
  /-- `String` of a `float`. -/
  decimals : ℚ → List Byte
  stack : Program Os → Nat → Byte
  h : Program Os → ℚ

namespace Surroundings

variable {Os : Type}

/-- What the application publishes under the topic. -/
def text (surroundings : Surroundings Os) : Notice → List Byte
  | .connected => ascii "1"
  | .info =>
      (ascii Lift.sketchVersion ++ cString surroundings.localIp).take
        (Lift.msgSize - 1)
  | .estimated sitdown standup time =>
      ascii "### estimated hs=" ++ surroundings.decimals sitdown ++
        (ascii " hu=" ++ surroundings.decimals standup) ++
        -- An `unsigned long`.
        (ascii " t=" ++ ascii (toString (time % 2 ^ 32)))
  | .speak => ascii "ich stelle mich auf sie ein."
  | .default => ascii "Go back to default"
  | .stopped => ascii "stopped"

end Surroundings

namespace Program

open MqttClient

variable {Os : Type} [Platform Os]

/-- What calling the callback of a client with a topic and a payload does. -/
abbrev Callback (Os : Type) :=
  ClientId → Topic → List Byte → Program Os → Option (Program Os)

/-- What `parent->publish` does. -/
abbrev Forward (Os : Type) :=
  BrokerId → ClientId → Topic → MqttMessage →
    Program Os → Option (Program Os)

/-! ## Messages and publications -/

/-- The PUBLISH case of `processMessage`, with `bclose`. -/
def processPublish
    (forward : Forward Os)
    (callback : Callback Os)
    (program : Program Os)
    (client : ClientId)
    (mesg : MqttMessage) : Option (Bool × Program Os) :=
  let record := program.world.clients client
  if record.mqttConnected ∨ record.client = false then
    let fields :=
      (parsePublish mesg.vheader mesg.buffer.length mesg.flags).run
        (program.world.memory mesg)
    let (published, world) := program.world.internTopic fields.name
    let program := { program with world := world }
    let handled :=
      match record.parent, record.client with
      | some parent, true => forward parent client published mesg program
      | _, _ =>
          if record.callback ∧ world.isSubscribedTo client published then
            callback client published fields.payload
              { program with
                world :=
                  world.log (.callback client published fields.payload) }
          else
            some program
    handled.map fun program =>
      (false, { program with world := program.world.releaseTopic published })
  else
    some (true, program)

/--
`MqttClient::processMessage`.  Its other cases call neither the broker nor the
application.
-/
def processMessageWith
    (forward : Forward Os)
    (callback : Callback Os)
    (program : Program Os)
    (client : ClientId)
    (mesg : MqttMessage) : Option (Program Os) :=
  let program :=
    { program with world := program.world.log (.processed client mesg) }
  let handled :=
    if mesg.kind? = some .publish then
      program.processPublish forward callback client mesg
    else
      let (bclose, world) :=
        program.world.processKind (fun _ _ _ _ world => world) client mesg
      some (bclose, { program with world := world })
  handled.map fun (bclose, program) =>
    { program with world := World.finish client (bclose, program.world) }

/-- `MqttClient::publishIfSubscribed`. -/
def publishIfSubscribed
    (callback : Callback Os)
    (program : Program Os)
    (client : ClientId)
    (topic : Topic)
    (msg : MqttMessage) :
    Option ((MqttError × MqttMessage) × Program Os) :=
  if program.world.isSubscribedTo client topic then
    if (program.world.clients client).client then
      let (sent, world) := program.world.sendTo msg client
      some (sent, { program with world := world })
    else
      -- A local client does not come to the branch that calls the broker.
      (program.processMessageWith (fun _ _ _ _ program => some program)
        callback client msg).map fun program => ((.ok, msg), program)
  else
    some ((.ok, msg), program)

/-- One round of the loop of `MqttBroker::publish`. -/
def publishStep
    (callback : Callback Os)
    (broker : BrokerId)
    (source : ClientId)
    (topic : Topic)
    (state : (MqttError × MqttMessage) × Program Os)
    (client : ClientId) :
    Option ((MqttError × MqttMessage) × Program Os) :=
  let ((retval, msg), program) := state
  match (program.world.brokers broker).broker with
  | some upstream =>
      if program.world.connected upstream ∧ source ≠ upstream then
        (program.publishIfSubscribed callback upstream topic msg).map
          fun ((ret, msg), program) =>
            ((if ret ≠ .ok then ret else retval, msg), program)
      else
        program.publishIfSubscribed callback client topic msg
  | none => program.publishIfSubscribed callback client topic msg

/-- `MqttBroker::publish`. -/
def publish
    (callback : Callback Os)
    (program : Program Os)
    (broker : BrokerId)
    (source : ClientId)
    (topic : Topic)
    (msg : MqttMessage) :
    Option ((MqttError × MqttMessage) × Program Os) :=
  (program.world.members broker).foldlM
    (publishStep callback broker source topic) ((.ok, msg), program)

/--
`MqttClient::publish`.  What the application publishes is far too short for
`complete` to leave the buffer.
-/
def clientPublish
    (callback : Callback Os)
    (program : Program Os)
    (client : ClientId)
    (topic : Topic)
    (payload : List Byte) : Option (MqttError × Program Os) :=
  let msg :=
    World.publishMessage (program.world.indexer.str topic) payload
  let record := program.world.clients client
  match record.parent, record.client with
  | some parent, _ =>
      (program.publish callback parent client topic msg).map
        fun ((ret, _), program) => (ret, program)
  | none, true =>
      let ((ret, _), world) := program.world.sendTo msg client
      some (ret, { program with world := world })
  | none, false => some (.nowhereToSend, program)

/-! ## The application -/

/-- `MQTTpublish`: the topic is a temporary. -/
def mqttPublish
    (surroundings : Surroundings Os)
    (callback : Callback Os)
    (notice : Notice)
    (program : Program Os) : Option (Program Os) :=
  let (topic, world) := program.world.internTopic (ascii notice.topic)
  (clientPublish callback
      { program with
        world := world
        lift := program.lift.publish notice }
      program.mqttClient topic (cString (surroundings.text notice))).map
    fun (_, program) =>
      { program with world := program.world.releaseTopic topic }

/-- The variables of `app.cpp`, and its `MQTTpublish`. -/
def host
    (surroundings : Surroundings Os)
    (callback : Callback Os) : Host (Program Os) where
  lift := Program.lift
  setLift program lift := { program with lift := lift }
  publish := mqttPublish surroundings callback

/-- Note a call. -/
def note (program : Program Os) (call : AppCall) : Program Os :=
  { program with history := program.history ++ [call] }

/-- What `mqttCallback` is called with, and finds in its local variables. -/
def delivery
    (surroundings : Surroundings Os)
    (program : Program Os)
    (topic : Topic)
    (payload : List Byte) : Delivery where
  topic := program.world.indexer.str topic
  payload := payload
  stack := surroundings.stack program
  h := surroundings.h program

/-- `mqttCallback`, the only callback of the program. -/
def callback (surroundings : Surroundings Os) : (fuel : Nat) → Callback Os
  | 0, _, _, _, _ => none
  | fuel + 1, _, topic, payload, program =>
      let now := program.world.device.millis
      let delivery := program.delivery surroundings topic payload
      (host surroundings (callback surroundings fuel)).mqttCallback
        surroundings.sscanf delivery.stack delivery.h delivery.topic
        delivery.payload now (program.note (.mqttCallback now topic delivery))

/-- `MqttClient::processMessage` of a client that the broker polls. -/
def processMessage
    (callback : Callback Os)
    (program : Program Os)
    (client : ClientId)
    (mesg : MqttMessage) : Option (Program Os) :=
  program.processMessageWith
    (fun broker source topic mesg program =>
      (program.publish callback broker source topic mesg).map Prod.snd)
    callback client mesg

/--
One evaluation of the condition of the read loop, and the body if it holds.  A
round that completes no message is one of the broker alone.
-/
def poll
    (callback : Callback Os)
    (program : Program Os)
    (client : ClientId) : Option (Program Os) :=
  match program.world.arriving? client with
  | some (world, mesg) =>
      (processMessage callback { program with world := world } client
        mesg).map fun program =>
          { program with
            world :=
              program.world.modifyClient client fun record =>
                { record with message := record.message.reset } }
  | none => some { program with world := (program.world.poll client).2 }

/-- `loop_Client`. -/
def loopClient
    (surroundings : Surroundings Os)
    (callback : Callback Os)
    (program : Program Os) : Option (Program Os) :=
  let now := program.world.device.millis
  (host surroundings callback).loopClient now (program.note (.loopClient now))

/-! ## The setup -/

/-- The topics that `connectMqtt` subscribes to, in its order. -/
def commandTopics : List String :=
  ["presence/event/present", "r2d-fx/query", "r2d-fx/command",
    "r2d-fx/estimate", "presence/event/status"]

/-- `MQTTclient->subscribe(name)`: the topic is a temporary. -/
def subscribeTo
    (fuel : Nat)
    (program : Program Os)
    (name : String) : Option (Program Os) :=
  let (topic, world) := program.world.internTopic (ascii name)
  (World.clientSubscribe fuel world program.mqttClient topic 0).map
    fun (_, world) => { program with world := world.releaseTopic topic }

/-- `connectMqtt`. -/
def connectMqtt
    (surroundings : Surroundings Os)
    (fuel : Nat)
    (program : Program Os) : Option (Program Os) :=
  (commandTopics.foldlM (subscribeTo fuel) program).bind
    (mqttPublish surroundings (callback surroundings fuel) .connected)

/-- `setup_Client`; the constructor of the client leaves `alive` open. -/
def setupClient
    (surroundings : Surroundings Os)
    (fuel : Nat)
    (world : World StringIndexer Os)
    (broker : BrokerId)
    (alive : Nat) : Option (Program Os) :=
  connectMqtt surroundings fuel
    { world :=
        (world.newLocal broker (ascii "r2d-fx") alive).setCallback world.next
      mqttClient := world.next
      lift := { Lift.setupClient with trace := [] }
      history := [] }

/-! ## Runs -/

/-- What happens in one step of the program. -/
inductive Action (Os : Type) where
  | loopClient
  | accept
  | expire (client : ClientId)
  | poll (client : ClientId)
  | environment (os : Os)

/-- Perform one action. -/
def perform
    (surroundings : Surroundings Os)
    (broker : BrokerId)
    (fuel : Nat)
    (program : Program Os) : Action Os → Option (Program Os)
  | .loopClient =>
      program.loopClient surroundings (callback surroundings fuel)
  | .accept => some { program with world := program.world.accept broker }
  | .expire client =>
      some { program with world := program.world.expire client }
  | .poll client => program.poll (callback surroundings fuel) client
  | .environment os =>
      some
        { program with
          world :=
            { program.world with
              device := { program.world.device with os := os } } }

/-- The broker loops over its clients. -/
def Permits
    (broker : BrokerId)
    (program : Program Os) : Action Os → Prop
  | .expire client | .poll client => program.world.Polled broker client
  | .loopClient | .accept | .environment _ => True

/-- No topic has more holders than the counters have room for. -/
def Spacious (program : Program Os) : Prop :=
  ∀ topic, program.world.holders topic ≤ 250

/-- No message that is too long for `msg` came to the callback. -/
def FitsMsg (program : Program Os) : Prop :=
  ∀ call ∈ program.world.trace.callbackCalls,
    call.2.2.length < Lift.msgSize

/-- The time of a step, if it is a call of `loop_Client`. -/
def loopTime? : Nat × Action Os → Option Nat
  | (now, .loopClient) => some now
  | _ => none

/--
The states of the program in runs whose states meet a condition, with what was
done and when.  In a step the callback may be called.
-/
inductive Reachable
    (surroundings : Surroundings Os)
    (broker : BrokerId)
    (condition : Program Os → Prop) :
    List (Nat × Action Os) → Program Os → Prop where
  | setup
      (fuel alive : Nat)
      (world : World StringIndexer Os)
      (after : Program Os)
      (initial : World.Initial world broker)
      (noTopics : world.indexer = .empty)
      (returned :
        setupClient surroundings fuel world broker alive = some after) :
      Reachable surroundings broker condition [] after
  | step
      (fuel : Nat)
      (action : Action Os)
      (performed : List (Nat × Action Os))
      (before after : Program Os)
      (reachable :
        Reachable surroundings broker condition performed before)
      (permitted : before.Permits broker action)
      (returned :
        before.perform surroundings broker (fuel + 1) action = some after)
      (holds : condition after) :
      Reachable surroundings broker condition
        (performed ++ [(before.world.device.millis, action)]) after

end Program

end SimpleTlsBroker
