import SimpleTlsBroker.Answers
import SimpleTlsBroker.ClientLists
import SimpleTlsBroker.Forwarding
import SimpleTlsBroker.StepTransitions
import SimpleTlsBroker.Library.Chains

namespace SimpleTlsBroker

/-!
# The recursion of `subscribe`

`MqttClient::subscribe` hands the topic to its broker, which hands it to its
upstream link, a client again.  `MqttBroker::connect` makes the broker the
parent of its own upstream link, so that a connected link hands the topic back
to itself.
-/

namespace World

variable {Index Os : Type}

/-! ## The chain of calls -/

variable [Platform Os]

/-- The client that `MqttClient::subscribe` is called for next. -/
def hop?
    (world : World Index Os)
    (client : ClientId) : Option ClientId :=
  match (world.clients client).parent with
  | none => none
  | some parent =>
      match (world.brokers parent).broker with
      | some upstream =>
          if world.connected upstream then some upstream else none
      | none => none

variable {broker : BrokerId}
variable {client : ClientId}
variable {before after world : World Index Os}

/-- The chain is a matter of the links and of the platform. -/
theorem LinksKept.hop?
    (kept : LinksKept before after)
    (sameOs : after.device.os = before.device.os) :
    after.hop? = before.hop? := by
  have connected (client : ClientId) :
      after.connected client = before.connected client := by
    simp only [World.connected, kept.parent, kept.client, sameOs]
  funext client
  simp only [World.hop?, kept.parent, kept.brokers, connected]

variable [Indexer Index]

/-- Keeping a subscription does not reach the platform. -/
theorem hop?_insertSubscription
    (world : World Index Os)
    (client : ClientId)
    (topic : Topic) :
    (world.insertSubscription client topic).hop? = world.hop? := by
  refine (insertSubscription_kept world client topic).hop? ?_
  unfold insertSubscription
  dsimp only
  split <;> rfl

/-- `MqttClient::subscribe` returns when the fuel is enough for its chain. -/
theorem isSome_clientSubscribe
    (fuel : Nat)
    (world : World Index Os)
    (client : ClientId)
    (topic : Topic)
    (qos : Byte) :
    (clientSubscribe fuel world client topic qos).isSome =
      Chains.walks world.hop? fuel client := by
  induction fuel generalizing world client with
  | zero => rfl
  | succ fuel inductionHypothesis =>
      have sameChain := hop?_insertSubscription world client topic
      rw [clientSubscribe, Chains.walks, ← sameChain, hop?]
      cases (((world.insertSubscription client topic).clients
          client).parent) with
      | none => rfl
      | some parent =>
          dsimp only
          cases ((world.insertSubscription client topic).brokers
              parent).broker with
          | none => rfl
          | some upstream =>
              dsimp only
              split
              · rw [inductionHypothesis]
              · rfl

omit [Platform Os] in
/-- A subscription that was kept stays when another client keeps it. -/
theorem mem_insertSubscription
    {topic : Topic}
    (subscribed : topic ∈ (world.clients client).subscriptions)
    (other : ClientId) :
    topic ∈
      ((world.insertSubscription other topic).clients
        client).subscriptions := by
  have sameRecords :
      (if topic ∈ (world.clients other).subscriptions then
        world
      else
        world.useTopic topic).clients = world.clients := by
    split <;> rfl
  unfold insertSubscription
  by_cases same : client = other
  · subst same
    simp [subscribed]
  · rw [clients_modifyClient_other _ _ same, sameRecords]
    exact subscribed

/-- `MqttClient::sendTopic` changes no client. -/
theorem clients_sendTopic
    (world : World Index Os)
    (client : ClientId)
    (topic : Topic)
    (type qos : Byte) :
    (world.sendTopic client topic type qos).2.clients = world.clients :=
  clients_sendOwn world _ client

/-- When `MqttClient::subscribe` returns, its client is subscribed. -/
theorem mem_clientSubscribe
    {fuel : Nat}
    {topic : Topic}
    {qos : Byte}
    {ret : MqttError}
    (returned :
      clientSubscribe fuel world client topic qos = some (ret, after)) :
    topic ∈ (after.clients client).subscriptions := by
  let keeps (first second : World Index Os) : Prop :=
    topic ∈ (first.clients client).subscriptions →
      topic ∈ (second.clients client).subscriptions
  have inserted :
      topic ∈
        ((world.insertSubscription client topic).clients
          client).subscriptions := by
    unfold insertSubscription
    simp
  have keepsAll {fuel : Nat} {first second : World Index Os} {ret : MqttError}
      {other : ClientId}
      (returned :
        clientSubscribe fuel first other topic qos = some (ret, second)) :
      keeps first second :=
    clientSubscribe_relates (fun first second subscribed =>
        second (first subscribed))
      (fun world other subscribed => mem_insertSubscription subscribed other)
      (fun world other type subscribed =>
        clients_sendTopic world other topic type qos ▸ subscribed)
      returned
  cases fuel with
  | zero => simp [clientSubscribe] at returned
  | succ fuel =>
      rw [clientSubscribe] at returned
      split at returned
      · have sent :
            ((world.insertSubscription client topic).sendTopic client topic
              MqttType.subscribe.code qos).2 = after :=
          congrArg Prod.snd (Option.some.inj returned)
        rw [← sent, clients_sendTopic]
        exact inserted
      · split at returned
        · split at returned
          · exact keepsAll returned inserted
          · obtain ⟨_, rfl⟩ := Prod.mk.inj (Option.some.inj returned)
            exact inserted
        · obtain ⟨_, rfl⟩ := Prod.mk.inj (Option.some.inj returned)
          exact inserted

/-! ## Which links there are -/

/-- A client that the application has constructed, not a broker. -/
def IsOwn
    (world : World Index Os)
    (client : ClientId) : Prop :=
  client < world.next ∧
    ∀ broker, (world.brokers broker).broker ≠ some client

/--
Any call of the application that constructs or connects something, for any
number of brokers.  Between these calls it may do whatever leaves the links
alone: keep subscriptions, set callbacks, wait.
-/
inductive LinkStep (world : World Index Os) : World Index Os → Prop where
  | newClient (parent : Option BrokerId) (id : List Byte) (alive : Nat) :
      LinkStep world (world.newClient parent id alive)
  | connectBroker
      (client : ClientId)
      (parentBroker : Option BrokerId)
      (isOwn : world.IsOwn client) :
      LinkStep world (world.connectBroker client parentBroker)
  | connectHost
      (client : ClientId)
      (ka : Nat)
      (established : Bool)
      (isOwn : world.IsOwn client)
      (after : World Index Os)
      (returned : world.connectHost client ka established = some after) :
      LinkStep world after
  | connectUpstream
      (broker : BrokerId)
      (alive : Nat)
      (established : Bool)
      (after : World Index Os)
      (returned :
        world.connectUpstream broker alive established = some after) :
      LinkStep world after
  | other
      (after : World Index Os)
      (kept : LinksKept world after) :
      LinkStep world after

/-- Any sequence of such calls. -/
abbrev LinkRun : World Index Os → World Index Os → Prop :=
  Relation.ReflTransGen LinkStep

/-- Every broker is the parent of its own upstream link. -/
structure UpstreamsLinked (world : World Index Os) : Prop where
  parent :
    ∀ broker upstream, (world.brokers broker).broker = some upstream →
      (world.clients upstream).parent = some broker
  born :
    ∀ broker upstream, (world.brokers broker).broker = some upstream →
      upstream < world.next

namespace UpstreamsLinked

omit [Platform Os] [Indexer Index] in
/-- The same upstream links, with the same parents. -/
theorem keep
    (linked : UpstreamsLinked before)
    (upstream :
      ∀ broker, (after.brokers broker).broker = (before.brokers broker).broker)
    (parent :
      ∀ broker upstream, (before.brokers broker).broker = some upstream →
        (after.clients upstream).parent = (before.clients upstream).parent)
    (next : before.next ≤ after.next) :
    UpstreamsLinked after where
  parent broker link isUpstream := by
    rw [upstream] at isUpstream
    rw [parent broker link isUpstream]
    exact linked.parent broker link isUpstream
  born broker link isUpstream := by
    rw [upstream] at isUpstream
    exact Nat.lt_of_lt_of_le (linked.born broker link isUpstream) next

end UpstreamsLinked

omit [Indexer Index] in
/-- Connecting a client to a host sets its own pointers only. -/
theorem hosted_links
    (world : World Index Os)
    (client : ClientId)
    (ka : Nat)
    (established : Bool) :
    (∀ broker,
        ((world.hosted client ka established).brokers broker).broker =
          (world.brokers broker).broker) ∧
      (∀ other ≠ client,
        ((world.hosted client ka established).clients other).parent =
          (world.clients other).parent) ∧
      (world.hosted client ka established).next = world.next := by
  let opened : World Index Os :=
    ((world.modifyClient client fun record =>
        { record with keepAlive := ka }).close client).modifyClient client
      fun record => { record with client := true }
  have kept : LinksKept opened (world.hosted client ka established) := by
    unfold hosted
    dsimp only
    split
    · exact (LinksKept.sendTo _ _ client).trans (.clientAlive _ client 0)
    · exact .refl opened
  refine ⟨fun broker => ?_, fun other distinct => ?_, ?_⟩
  · rw [kept.brokers]
    exact upstream_close _ client broker
  · rw [kept.parent]
    simp [opened, distinct]
  · rw [kept.next]
    simp [opened]

omit [Platform Os] [Indexer Index] in
/-- The upstream link of a broker is nobody else's. -/
theorem UpstreamsLinked.upstreamLink
    (linked : UpstreamsLinked world)
    (broker : BrokerId)
    (alive : Nat) :
    (world.upstreamLink broker alive).1 <
        (world.upstreamLink broker alive).2.next ∧
      ∀ other upstream, other ≠ broker →
        ((world.upstreamLink broker alive).2.brokers other).broker =
          some upstream →
        upstream ≠ (world.upstreamLink broker alive).1 ∧
          ((world.upstreamLink broker alive).2.clients upstream).parent =
            some other ∧
          upstream < (world.upstreamLink broker alive).2.next := by
  cases isLink : (world.brokers broker).broker with
  | some link =>
      simp only [World.upstreamLink, isLink]
      refine ⟨linked.born broker link isLink, ?_⟩
      intro other upstream distinct isUpstream
      have parent := linked.parent other upstream isUpstream
      refine ⟨?_, parent, linked.born other upstream isUpstream⟩
      rintro rfl
      rw [linked.parent broker upstream isLink] at parent
      exact distinct (Option.some.inj parent).symm
  | none =>
      simp only [World.upstreamLink, isLink, next_modifyBroker,
        clients_modifyBroker]
      refine ⟨Nat.lt_succ_self _, ?_⟩
      intro other upstream distinct isUpstream
      rw [brokers_modifyBroker_other _ _ distinct] at isUpstream
      have born := linked.born other upstream isUpstream
      refine ⟨Nat.ne_of_lt born, ?_, Nat.lt_succ_of_lt born⟩
      rw [Function.update_of_ne (Nat.ne_of_lt born)]
      exact linked.parent other upstream isUpstream

omit [Indexer Index] in
/-- `MqttBroker::connect` keeps every broker the parent of its link. -/
theorem UpstreamsLinked.uplinked
    (linked : UpstreamsLinked world)
    (broker : BrokerId)
    (alive : Nat)
    (established : Bool) :
    UpstreamsLinked (world.uplinked broker alive established) := by
  obtain ⟨linkBorn, others⟩ := linked.upstreamLink broker alive
  obtain ⟨upstreams, parents, next⟩ :=
    hosted_links (world.upstreamLink broker alive).2
      (world.upstreamLink broker alive).1 10 established
  have isLink := broker_upstreamLink world broker alive
  have each (other : BrokerId) (upstream : ClientId)
      (isUpstream :
        ((world.uplinked broker alive established).brokers
          other).broker = some upstream) :
      ((world.uplinked broker alive established).clients
          upstream).parent = some other ∧
        upstream <
          (world.uplinked broker alive established).next := by
    unfold World.uplinked at isUpstream ⊢
    dsimp only at isUpstream ⊢
    rw [brokers_modifyClient, upstreams] at isUpstream
    rw [next_modifyClient, next]
    by_cases same : other = broker
    · subst same
      rw [isLink] at isUpstream
      obtain rfl := Option.some.inj isUpstream
      exact ⟨by rw [clients_modifyClient_self], linkBorn⟩
    · obtain ⟨distinct, parent, born⟩ :=
        others other upstream same isUpstream
      rw [clients_modifyClient_other _ _ distinct, parents upstream distinct]
      exact ⟨parent, born⟩
  exact ⟨fun other upstream isUpstream => (each other upstream isUpstream).1,
    fun other upstream isUpstream => (each other upstream isUpstream).2⟩

omit [Platform Os] [Indexer Index] in
/-- A client that the application constructs is nobody's link. -/
theorem UpstreamsLinked.newClient
    (linked : UpstreamsLinked world)
    (parent : Option BrokerId)
    (id : List Byte)
    (alive : Nat) :
    UpstreamsLinked (world.newClient parent id alive) := by
  cases parent with
  | none =>
      refine linked.keep (fun _ => rfl) (fun broker upstream isUpstream => ?_)
        (Nat.le_succ _)
      have born := linked.born broker upstream isUpstream
      simp [World.newClient, Nat.ne_of_lt born]
  | some parent =>
      refine linked.keep (fun broker => ?_) (fun broker upstream isUpstream => ?_)
        (Nat.le_succ _)
      · by_cases same : broker = parent
        · subst same
          simp [World.newClient, newLocal, addClient]
        · simp [World.newClient, newLocal, addClient, same]
      · have born := linked.born broker upstream isUpstream
        rw [World.newClient,
          (created_newLocal world parent id alive).other upstream
            (Nat.ne_of_lt born)]

omit [Indexer Index] in
/-- Every call keeps every broker the parent of its link. -/
theorem UpstreamsLinked.step
    (linked : UpstreamsLinked before)
    (step : LinkStep before after) :
    UpstreamsLinked after := by
  cases step with
  | newClient parent id alive => exact linked.newClient parent id alive
  | connectBroker client parentBroker isOwn =>
      refine linked.keep (fun broker => upstream_close before client broker)
        (fun broker upstream isUpstream => ?_) ?_
      · have distinct : upstream ≠ client := by
          rintro rfl
          exact isOwn.2 broker isUpstream
        unfold World.connectBroker
        simp [distinct]
      · exact Nat.le_of_eq (next_close before client).symm
  | connectHost client ka established isOwn _ returned =>
      rw [eq_hosted returned]
      obtain ⟨upstreams, parents, next⟩ :=
        hosted_links before client ka established
      refine linked.keep upstreams (fun broker upstream isUpstream => ?_)
        (Nat.le_of_eq next.symm)
      refine parents upstream ?_
      rintro rfl
      exact isOwn.2 broker isUpstream
  | connectUpstream broker alive established _ returned =>
      rw [eq_uplinked returned]
      exact linked.uplinked broker alive established
  | other _ kept =>
      refine linked.keep (fun broker => by rw [kept.brokers])
        (fun _ upstream _ => kept.parent upstream)
        (Nat.le_of_eq kept.next.symm)

omit [Indexer Index] in
/-- In every reachable state a broker is the parent of its link. -/
theorem LinkRun.upstreamsLinked
    (fresh : Fresh before)
    (run : LinkRun before after) :
    UpstreamsLinked after := by
  have start : UpstreamsLinked before := by
    constructor
    · intro broker upstream isUpstream
      rw [fresh.noUpstream] at isUpstream
      contradiction
    · intro broker upstream isUpstream
      rw [fresh.noUpstream] at isUpstream
      contradiction
  induction run with
  | refl => exact start
  | tail _ last inductionHypothesis => exact inductionHypothesis.step last

omit [Indexer Index] in
/-- A chain ends exactly when the broker has no connected upstream link. -/
theorem ends_iff
    (linked : UpstreamsLinked world)
    (attached : (world.clients client).parent = some broker) :
    Chains.Ends world.hop? client ↔ world.upstreamConnected broker = false := by
  cases isUpstream : (world.brokers broker).broker with
  | none =>
      have last : world.hop? client = none := by
        simp [hop?, attached, isUpstream]
      have idle : world.upstreamConnected broker = false := by
        simp [upstreamConnected, isUpstream]
      exact iff_of_true (.stop last) idle
  | some upstream =>
      cases connected : world.connected upstream with
      | false =>
          have last : world.hop? client = none := by
            simp [hop?, attached, isUpstream, connected]
          have idle : world.upstreamConnected broker = false := by
            simp [upstreamConnected, isUpstream, connected]
          exact iff_of_true (.stop last) idle
      | true =>
          have busy : ¬ world.upstreamConnected broker = false := by
            simp [upstreamConnected, isUpstream, connected]
          refine iff_of_false ?_ busy
          -- The link is attached to the same broker, and so are all that follow.
          have stays (other : ClientId)
              (isInside : (world.clients other).parent = some broker) :
              ∃ following, world.hop? other = some following ∧
                (world.clients following).parent = some broker := by
            refine ⟨upstream, ?_, linked.parent broker upstream isUpstream⟩
            rw [hop?, isInside]
            simp [isUpstream, connected]
          exact Chains.not_ends stays attached

/-- A connected upstream link makes `MqttClient::subscribe` go on for ever. -/
theorem clientSubscribe_eq_none
    (linked : UpstreamsLinked world)
    (attached : (world.clients client).parent = some broker)
    (connected : world.upstreamConnected broker = true)
    (fuel : Nat)
    (topic : Topic)
    (qos : Byte) :
    clientSubscribe fuel world client topic qos = none := by
  rw [← Option.not_isSome_iff_eq_none, isSome_clientSubscribe]
  intro enough
  have ends : Chains.Ends world.hop? client :=
    Chains.ends_iff_walks.mpr ⟨fuel, enough⟩
  rw [ends_iff linked attached, connected] at ends
  contradiction

/--
In every state that constructions and connections lead to, a client that is
attached to a broker may call `subscribe`: the call returns with the topic
among the subscriptions of the client, if and only if the broker has no
connected upstream link.
-/
theorem subscribe_returns_iff
    (fresh : Fresh before)
    (run : LinkRun before world)
    (attached : (world.clients client).parent = some broker)
    (topic : Topic)
    (qos : Byte) :
    (∃ fuel ret after,
        clientSubscribe fuel world client topic qos = some (ret, after) ∧
          topic ∈ (after.clients client).subscriptions) ↔
      world.upstreamConnected broker = false := by
  rw [← ends_iff (run.upstreamsLinked fresh) attached, Chains.ends_iff_walks]
  constructor
  · rintro ⟨fuel, ret, after, returned, _⟩
    refine ⟨fuel, ?_⟩
    rw [← isSome_clientSubscribe fuel world client topic qos, returned]
    rfl
  · rintro ⟨fuel, enough⟩
    rw [← isSome_clientSubscribe fuel world client topic qos,
      Option.isSome_iff_exists] at enough
    obtain ⟨⟨ret, after⟩, returned⟩ := enough
    exact ⟨fuel, ret, after, returned, mem_clientSubscribe returned⟩

/-- A client of a broker without upstream link. -/
def onlyClient : World StringIndexer Script :=
  (Script.mk 0 [] [] []).setup.newClient (some 0) [] 0

/-- Its calls of `subscribe` return. -/
theorem subscribe_returns_only :
    ∃ fuel ret after,
      clientSubscribe fuel onlyClient 0 ⟨1⟩ 0 = some (ret, after) ∧
        ⟨1⟩ ∈ (after.clients 0).subscriptions := by
  have run : LinkRun (Script.mk 0 [] [] []).setup onlyClient :=
    .single (.newClient (some 0) [] 0)
  have attached : (onlyClient.clients 0).parent = some 0 := by decide
  exact (subscribe_returns_iff (fresh_setup (Script.mk 0 [] [] [])) run
    attached ⟨1⟩ 0).mpr (by decide)

/-- A client of a broker that is connected to an upstream broker. -/
def bridgedClient : World StringIndexer Uplink :=
  (Uplink.setup.uplinked 0 0 true).newClient (some 0) [] 0

/-- Its calls of `subscribe` never return. -/
theorem subscribe_not_returns_bridged :
    Fresh Uplink.setup ∧
      LinkRun Uplink.setup bridgedClient ∧
      (bridgedClient.clients 1).parent = some 0 ∧
      bridgedClient.upstreamConnected 0 = true ∧
      ∀ fuel topic qos,
        clientSubscribe fuel bridgedClient 1 topic qos = none := by
  have fresh : Fresh Uplink.setup :=
    ⟨fun _ => rfl, fun _ => rfl, fun _ => rfl⟩
  have run : LinkRun Uplink.setup bridgedClient :=
    Relation.ReflTransGen.refl.tail (.connectUpstream 0 0 true _ rfl)
      |>.tail (.newClient (some 0) [] 0)
  have attached : (bridgedClient.clients 1).parent = some 0 := by decide
  have connected : bridgedClient.upstreamConnected 0 = true := by decide
  exact ⟨fresh, run, attached, connected,
    clientSubscribe_eq_none (run.upstreamsLinked fresh) attached connected⟩

end World

end SimpleTlsBroker
