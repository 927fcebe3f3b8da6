import SimpleTlsBroker.Loop

namespace SimpleTlsBroker

/-!
# Scripted runs

Actions are functions of the state, so a run can be computed from a list of
actions and a script of what the platform answers.  Counterexamples are stated
about such runs.
-/

namespace World

variable {Index Os : Type} [Indexer Index] [Platform Os]

/-- Perform one action. -/
def perform
    (broker : BrokerId)
    (world : World Index Os) : Action Os → World Index Os
  | .accept => world.accept broker
  | .expire client => world.expire client
  | .poll client => (world.poll client).2
  | .newLocal id alive => world.newLocal broker id alive
  | .setCallback client => world.setCallback client
  | .publish client topic payload =>
      match world.clientPublish client topic payload with
      | some (_, after) => after
      | none => world
  | .subscribe client topic qos =>
      match clientSubscribe 2 world client topic qos with
      | some (_, after) => after
      | none => world
  | .unsubscribe client topic => (world.clientUnsubscribe client topic).2
  | .connectUpstream alive established =>
      (world.connectUpstream broker alive established).getD world
  | .internTopic name => (world.internTopic name).2
  | .releaseTopic topic => world.releaseTopic topic
  | .environment os => { world with device := { world.device with os := os } }

/-- May an action be performed? -/
def allows
    (broker : BrokerId)
    (world : World Index Os) : Action Os → Bool
  | .expire client | .poll client =>
      client ∈ world.members broker ||
        (world.brokers broker).broker == some client
  | .setCallback client | .unsubscribe client _ =>
      !(world.clients client).client
  | .publish client topic payload =>
      !(world.clients client).client &&
        (world.clientPublish client topic payload).isSome
  | .subscribe client topic qos =>
      !(world.clients client).client &&
        (clientSubscribe 2 world client topic qos).isSome
  | .connectUpstream alive established =>
      (world.connectUpstream broker alive established).isSome
  | _ => true

/-- Performing an action that is allowed is a step. -/
theorem step_perform
    {broker : BrokerId}
    {world : World Index Os}
    {action : Action Os}
    (allowed : world.allows broker action = true) :
    Step broker world action (world.perform broker action) := by
  cases action with
  | accept => exact .accept
  | expire client => exact .expire client (by simpa [allows, Polled] using allowed)
  | poll client => exact .poll client (by simpa [allows, Polled] using allowed)
  | newLocal id alive => exact .newLocal id alive
  | setCallback client =>
      exact .setCallback client (by simpa [allows] using allowed)
  | publish client topic payload =>
      simp only [allows, Bool.and_eq_true, Bool.not_eq_true'] at allowed
      obtain ⟨isLocal, returns⟩ := allowed
      obtain ⟨⟨ret, after⟩, returned⟩ := Option.isSome_iff_exists.mp returns
      simp only [perform, returned]
      exact .publish client topic payload isLocal ret after returned
  | subscribe client topic qos =>
      simp only [allows, Bool.and_eq_true, Bool.not_eq_true'] at allowed
      obtain ⟨isLocal, returns⟩ := allowed
      obtain ⟨⟨ret, after⟩, returned⟩ := Option.isSome_iff_exists.mp returns
      simp only [perform, returned]
      exact .subscribe client topic qos isLocal 2 ret after returned
  | unsubscribe client topic =>
      exact .unsubscribe client topic (by simpa [allows] using allowed)
  | connectUpstream alive established =>
      obtain ⟨after, returned⟩ := Option.isSome_iff_exists.mp allowed
      simp only [perform, returned, Option.getD_some]
      exact .connectUpstream alive established after returned
  | internTopic name => exact .internTopic name
  | releaseTopic topic => exact .releaseTopic topic
  | environment os => exact .environment os

/-- Perform a list of actions until one is not allowed. -/
def performAll
    (broker : BrokerId)
    (condition : World Index Os → Action Os → Prop)
    [∀ world action, Decidable (condition world action)] :
    List (Action Os) → World Index Os → World Index Os
  | [], world => world
  | action :: rest, world =>
      if world.allows broker action ∧ condition world action then
        performAll broker condition rest (world.perform broker action)
      else
        world

/-- Performing actions is a run. -/
theorem run_performAll
    (broker : BrokerId)
    (condition : World Index Os → Action Os → Prop)
    [∀ world action, Decidable (condition world action)]
    (actions : List (Action Os))
    (world : World Index Os) :
    Run broker condition world
      (performAll broker condition actions world) := by
  induction actions generalizing world with
  | nil => exact .refl
  | cons action rest inductionHypothesis =>
      rw [performAll]
      split
      · rename_i permitted
        exact .head
          ⟨action, step_perform permitted.1, permitted.2⟩
          (inductionHypothesis (world.perform broker action))
      · exact .refl

instance (world : World Index Os) (action : Action Os) :
    Decidable (always world action) :=
  .isTrue trivial

end World

/-! ## A platform that follows a script -/

/-- The answers of a platform; a list that has run out gives no more. -/
structure Script where
  clock : Nat
  /-- The descriptors that `accept` returns. -/
  connections : List Int
  /-- The results of `recv_fn`. -/
  receipts : List (Int × List Byte)
  /-- The results of `send_fn`; without one everything is sent. -/
  sendResults : List Int

namespace Script

/-- The listening socket. -/
def listenFd : Int := 0

instance : Platform Script where
  millis script := script.clock
  select script _ :=
    ((1, fun fd =>
      if fd = listenFd then
        !script.connections.isEmpty
      else
        !script.receipts.isEmpty), script)
  pending _ _ := false
  recv script _ _ :=
    match script.receipts with
    | [] => ((0, []), script)
    | receipt :: rest => (receipt, { script with receipts := rest })
  send script _ bytes :=
    match script.sendResults with
    | [] => (bytes.length, script)
    | result :: rest => (result, { script with sendResults := rest })
  accept script :=
    match script.connections with
    | [] => (-1, script)
    | fd :: rest => (fd, { script with connections := rest })
  openFn script _ := (true, script)
  closeFn script _ := script
  tcpConnected _ _ := false
  memory _ _ := 0

/-- The session table of a server with four sockets. -/
def table : HttpdData where
  maxOpenSockets := 4
  lruPurgeEnable := false
  listenFd := listenFd
  hdSd := fun _ => HttpdData.initialSlot
  hdSdActiveCount := 0
  lruCounter := 0

/-- A broker with the credentials `"u"` and `"p"`, before its first loop. -/
def setup (script : Script) : World StringIndexer Script where
  device := { os := script, hd := table, trace := [] }
  indexer := .empty
  brokers := fun _ =>
    { clients := []
      authUser := .ofList [0x75]
      authPassword := .ofList [0x70]
      broker := none }
  clients := fun _ => MqttClient.initial
  next := 0

/-- The set-up broker is in its initial state. -/
theorem initial_setup (script : Script) :
    World.Initial script.setup 0 where
  noMembers _ := rfl
  noUpstream := rfl
  noClients _ := rfl
  slotsFree _ := rfl
  noEvents := rfl

/-- Bytes that arrive one by one. -/
def receive (bytes : List Byte) : List (Int × List Byte) :=
  bytes.map fun byte => (1, [byte])

/-- A CONNECT message with user `"u"` and password `"p"`. -/
def connectPacket : List Byte :=
  [0x10, 0x13, 0x00, 0x04, 0x4D, 0x51, 0x54, 0x54, 0x04, 0xC2,
    0x00, 0x3C, 0x00, 0x01, 0x61, 0x00, 0x01, 0x75, 0x00, 0x01, 0x70]

/-- A SUBSCRIBE message for the topic `"a"`. -/
def subscribePacket : List Byte :=
  [0x82, 0x06, 0x00, 0x01, 0x00, 0x01, 0x61, 0x00]

end Script

end SimpleTlsBroker
