import SimpleTlsBroker.CallDepth

namespace SimpleTlsBroker

/-!
# The setup of the application

`setup` makes the application the first client of the broker.  The table of
topics is empty until then, so the five topics of the application get their own
names, and `setup` comes to its end.
-/

open World

/-- The names of the application, and others that the table can tell apart. -/
def Vocabulary.Commands (vocabulary : Vocabulary) : Prop :=
  ∀ name ∈ commandNames, name ∈ vocabulary.names

namespace Program

variable {Os : Type}
variable {vocabulary : Vocabulary}
variable {surroundings : Surroundings Os}
variable {broker : BrokerId}
variable {program before after : Program Os}
variable {names : List String}

/-! ## While the application subscribes -/

/-- The application is the only client, and nobody else is subscribed. -/
structure Preparing
    (vocabulary : Vocabulary)
    (broker : BrokerId)
    (program : Program Os) : Prop where
  linked : Linked broker program.world
  filed : Filed vocabulary (fun _ => 0) program.world
  noUpstream : (program.world.brokers broker).broker = none
  isLocal : (program.world.clients program.mqttClient).client = false
  born : program.mqttClient < program.world.next
  attached :
    (program.world.clients program.mqttClient).parent = some broker
  called : (program.world.clients program.mqttClient).callback = true
  members : program.world.members broker = [program.mqttClient]
  others :
    ∀ client ≠ program.mqttClient,
      (program.world.clients client).subscriptions = .empty
  noCalls : program.world.trace.callbackCalls = []
  noHistory : program.history = []

namespace Preparing

/-- So no topic has more than one holder. -/
theorem held_le
    (preparing : Preparing vocabulary broker program)
    (topic : Topic) :
    program.world.held (fun _ => 0) topic ≤ 1 := by
  have counted : program.world.holders topic ≤ 1 := by
    unfold holders
    apply Shares.count_le_one
    intro client member
    by_contra distinct
    rw [preparing.others client distinct] at member
    exact TopicSet.not_mem_empty topic member
  exact counted

/-- There is enough space. -/
theorem spacious (preparing : Preparing vocabulary broker program) :
    program.world.Spacious fun _ => 0 :=
  fun topic => Nat.le_trans (preparing.held_le topic) (by decide)

variable [Platform Os]

/-- `subscribe`, at the broker without upstream broker. -/
theorem subscribeTo_eq
    (preparing : Preparing vocabulary broker program)
    (fuel : Nat)
    (name : String) :
    subscribeTo (fuel + 1) program name =
      some
        { program with
          world :=
            (processFilter true program.mqttClient ([], program.world)
              (ascii name, 0)).2 } := by
  let topic := (program.world.internTopic (ascii name)).1
  let interned := (program.world.internTopic (ascii name)).2
  have attached :
      ((interned.insertSubscription program.mqttClient topic).clients
        program.mqttClient).parent = some broker := by
    have attachedBefore :
        (interned.clients program.mqttClient).parent = some broker :=
      preparing.attached
    unfold insertSubscription
    split <;> simpa [useTopic] using attachedBefore
  have noUpstream :
      ((interned.insertSubscription program.mqttClient topic).brokers
        broker).broker = none := by
    unfold insertSubscription
    split <;> exact preparing.noUpstream
  have returned :
      clientSubscribe (fuel + 1) interned program.mqttClient topic 0 =
        some (.nowhereToSend,
          interned.insertSubscription program.mqttClient topic) := by
    rw [clientSubscribe]
    rw [attached]
    dsimp only
    rw [noUpstream]
  unfold subscribeTo
  change
    (clientSubscribe (fuel + 1) interned program.mqttClient topic 0).map _ = _
  rw [returned]
  rfl

/-- It adds the name to those that the application is subscribed to. -/
theorem subscribeTo
    (preparing : Preparing vocabulary broker before)
    {name : String}
    (known : ascii name ∈ vocabulary.names) :
    ∃ after,
      (∀ fuel, Program.subscribeTo (fuel + 1) before name = some after) ∧
        after.mqttClient = before.mqttClient ∧ after.lift = before.lift ∧
          Preparing vocabulary broker after ∧
            after.world.subscribedNames before.mqttClient =
              before.world.subscribedNames before.mqttClient ∪
                {ascii name} := by
  have files :
      Files vocabulary (fun _ => 0) broker
        (topicRequest true before.mqttClient {ascii name}) before.world
        (processFilter true before.mqttClient ([], before.world)
          (ascii name, 0)).2 :=
    @Files.subscribeRound _ vocabulary _ broker before.world
      before.mqttClient preparing.filed preparing.spacious preparing.born []
      (ascii name, 0) known
  have kept :
      LinksKept before.world
        (processFilter true before.mqttClient ([], before.world)
          (ascii name, 0)).2 := by
    rw [processFilter_subscribe]
    exact (LinksKept.indexer before.world _).trans
      (.modifyClient _ before.mqttClient
        (keepsReception_subscriptions fun set =>
          set.insert _).toKeepsLinks)
  have record :
      ((processFilter true before.mqttClient ([], before.world)
        (ascii name, 0)).2.clients before.mqttClient).callback = true := by
    rw [processFilter_subscribe]
    simpa using preparing.called
  have others (client : ClientId) (distinct : client ≠ before.mqttClient) :
      (processFilter true before.mqttClient ([], before.world)
        (ascii name, 0)).2.clients client =
          before.world.clients client := by
    rw [processFilter_subscribe]
    dsimp only
    rw [clients_modifyClient_other _ _ distinct]
  have trace :
      (processFilter true before.mqttClient ([], before.world)
        (ascii name, 0)).2.trace = before.world.trace := by
    rw [processFilter_subscribe]
    rfl
  have subscribed := congrArg PubSub.State.subscribed files.view
  rw [next_topicRequest] at subscribed
  refine ⟨_, fun fuel => preparing.subscribeTo_eq fuel name, rfl, rfl, ?_, ?_⟩
  · constructor
    case linked => exact preparing.linked.kept kept
    case filed => exact files.filed
    case noUpstream =>
      dsimp only
      rw [kept.brokers]
      exact preparing.noUpstream
    case isLocal => exact (kept.client _).trans preparing.isLocal
    case born =>
      dsimp only
      rw [kept.next]
      exact preparing.born
    case attached => exact (kept.parent _).trans preparing.attached
    case called => exact record
    case members =>
      dsimp only
      unfold World.members
      rw [kept.brokers]
      exact preparing.members
    case others =>
      intro client distinct
      exact (congrArg MqttClient.subscriptions
        (others client distinct)).trans (preparing.others client distinct)
    case noCalls =>
      exact (congrArg Trace.callbackCalls trace).trans preparing.noCalls
    case noHistory => exact preparing.noHistory
  · refine (congrFun subscribed before.mqttClient).trans ?_
    exact Function.update_self _ _ _

/-- And so it goes on. -/
theorem foldlM_subscribeTo
    (preparing : Preparing vocabulary broker before)
    (known : ∀ name ∈ names, ascii name ∈ vocabulary.names) :
    ∃ after,
      (∀ fuel,
        names.foldlM (Program.subscribeTo (fuel + 1)) before = some after) ∧
        after.mqttClient = before.mqttClient ∧ after.lift = before.lift ∧
          Preparing vocabulary broker after ∧
            after.world.subscribedNames before.mqttClient =
              before.world.subscribedNames before.mqttClient ∪
                { name | name ∈ names.map ascii } := by
  induction names generalizing before with
  | nil =>
      exact ⟨before, fun _ => rfl, rfl, rfl, preparing, by simp⟩
  | cons name rest inductionHypothesis =>
      obtain ⟨middle, first, sameClient, sameLift, preparingNow, added⟩ :=
        preparing.subscribeTo (known name List.mem_cons_self)
      obtain ⟨after, later, laterClient, laterLift, preparingAfter,
        addedLater⟩ :=
        inductionHypothesis preparingNow fun other inRest =>
          known other (List.mem_cons_of_mem _ inRest)
      refine ⟨after, ?_, laterClient.trans sameClient,
        laterLift.trans sameLift, preparingAfter, ?_⟩
      · intro fuel
        rw [List.foldlM_cons, first]
        exact later fuel
      · rw [sameClient, added] at addedLater
        rw [addedLater, Set.union_assoc]
        congr 1
        ext other
        simp

end Preparing

/-! ## The whole setup -/

/-- The program before it subscribes. -/
def created
    (world : World StringIndexer Os)
    (broker : BrokerId)
    (alive : Nat) : Program Os where
  world :=
    (world.newLocal broker (ascii "r2d-fx") alive).setCallback world.next
  mqttClient := world.next
  lift := { Lift.setupClient with trace := [] }
  history := []

variable [Platform Os]

/-- A new broker with a local client that has a callback. -/
theorem preparing_created
    {world : World StringIndexer Os}
    (initial : Initial world broker)
    (noTopics : world.indexer = .empty)
    (alive : Nat) :
    Preparing vocabulary broker (created world broker alive) ∧
      (created world broker alive).world.subscribedNames world.next = ∅ := by
  have made :=
    created_newLocal world broker (ascii "r2d-fx") alive
  have self :
      ((created world broker alive).world.clients world.next) =
        { localRecord broker (ascii "r2d-fx") alive with
          message :=
            (localRecord broker (ascii "r2d-fx") alive).message.reset
          callback := true } := by
    unfold created setCallback
    dsimp only
    rw [clients_modifyClient_self, made.self]
  have other (client : ClientId) (distinct : client ≠ world.next) :
      (created world broker alive).world.clients client =
        MqttClient.initial := by
    unfold created setCallback
    dsimp only
    rw [clients_modifyClient_other _ _ distinct, made.other client distinct,
      initial.noClients client]
  have unsubscribed (client : ClientId) :
      ((created world broker alive).world.clients client).subscriptions =
        .empty := by
    by_cases isNew : client = world.next
    · subst isNew
      rw [self]
      rfl
    · rw [other client isNew]
      rfl
  have subscriptions (client : ClientId) :
      ((created world broker alive).world.clients client).subscriptions =
        (world.clients client).subscriptions := by
    rw [unsubscribed, initial.noClients client]
    rfl
  have isLocal :
      ((world.newLocal broker (ascii "r2d-fx") alive).clients
        world.next).client = false := by
    rw [made.self]
    rfl
  have start :
      Registry.Start broker { world := world, owned := fun _ => 0 } :=
    ⟨initial, noTopics, fun _ => rfl⟩
  have indexer :
      (created world broker alive).world.indexer = world.indexer := rfl
  have next : (created world broker alive).world.next = world.next + 1 :=
    made.next
  have accounted :=
    start.ledger.2.of_same indexer subscriptions
      (next ▸ Nat.le_succ world.next)
  refine ⟨⟨?_, ⟨accounted.ledger, ?_, ?_, ?_⟩, ?_, ?_, ?_, ?_, ?_, ?_, ?_,
    ?_, rfl⟩, ?_⟩
  · exact (start.ledger.1.step (.newLocal (ascii "r2d-fx") alive)).step
      (.setCallback world.next isLocal)
  · rw [indexer, noTopics]
    exact .start
  · intro client topic member
    rw [unsubscribed] at member
    exact absurd member (TopicSet.not_mem_empty topic)
  · intro topic owns
    exact absurd owns (Nat.lt_irrefl 0)
  · exact (congrArg MqttBroker.broker (made.brokers broker) :).trans
      initial.noUpstream
  · exact (congrArg MqttClient.client self)
  · rw [next]
    exact Nat.lt_succ_self world.next
  · exact congrArg MqttClient.parent self
  · exact congrArg MqttClient.callback self
  · exact made.members.trans (by rw [initial.noMembers]; rfl)
  · exact fun client _ => unsubscribed client
  · exact congrArg Trace.callbackCalls initial.noEvents
  · unfold World.subscribedNames
    rw [unsubscribed]
    ext name
    simp [TopicSet.names]

/-- The application has subscribed, and has published nothing yet. -/
structure Subscribed
    (vocabulary : Vocabulary)
    (broker : BrokerId)
    (program : Program Os) : Prop
    extends Preparing vocabulary broker program where
  names :
    program.world.subscribedNames program.mqttClient =
      { name | name ∈ commandNames }
  lift : program.lift = { Lift.setupClient with trace := [] }

omit [Platform Os] in
/-- Then it is attentive. -/
theorem Subscribed.attentive
    (subscribed : Subscribed vocabulary broker program) :
    Attentive broker program.mqttClient 2 program.world where
  linked := subscribed.linked
  noUpstream := subscribed.noUpstream
  isLocal := subscribed.isLocal
  remote client member distinct := by
    rw [subscribed.members] at member
    exact absurd (List.mem_singleton.mp member) distinct
  commands topic member := by
    have isName :
        program.world.indexer.str topic ∈
          program.world.subscribedNames program.mqttClient :=
      ⟨topic, member, rfl⟩
    rw [subscribed.names] at isName
    exact isName
  booked :=
    ⟨_, subscribed.filed.ledger.booked, fun topic =>
      Nat.le_trans (Nat.add_le_add_right (subscribed.held_le topic) 2)
        (by decide)⟩

/-- The program after the application has reported that it is connected. -/
def reported
    (surroundings : Surroundings Os)
    (program : Program Os) : Program Os :=
  { program with
    world :=
      announce surroundings program.mqttClient program.world .connected
    lift := program.lift.publish .connected }

/-- `setup_Client` returns. -/
theorem setupClient_returns
    {world : World StringIndexer Os}
    (initial : Initial world broker)
    (noTopics : world.indexer = .empty)
    (commands : vocabulary.Commands)
    (surroundings : Surroundings Os)
    (alive : Nat) :
    ∃ before : Program Os,
      Subscribed vocabulary broker before ∧
        ∀ fuel,
          setupClient surroundings (fuel + 1) world broker alive =
            some (before.reported surroundings) := by
  obtain ⟨preparing, unsubscribed⟩ :=
    @preparing_created _ vocabulary broker _ world initial noTopics alive
  obtain ⟨before, returned, sameClient, sameLift, preparingNow, names⟩ :=
    @Preparing.foldlM_subscribeTo _ _ _ _ commandTopics _ preparing
      fun name member => commands _ (List.mem_map_of_mem member)
  have isNew : (created world broker alive).mqttClient = world.next := rfl
  rw [isNew, unsubscribed, Set.empty_union] at names
  have subscribed : Subscribed vocabulary broker before :=
    { preparingNow with
      names := by
        rw [sameClient, isNew]
        exact names
      lift := sameLift }
  refine ⟨before, subscribed, fun fuel => ?_⟩
  unfold setupClient connectMqtt
  change
    (commandTopics.foldlM (subscribeTo (fuel + 1))
      (created world broker alive)).bind _ = _
  rw [returned]
  exact (mqttPublish_eq subscribed.attentive surroundings _ .connected).2

end Program

end SimpleTlsBroker
