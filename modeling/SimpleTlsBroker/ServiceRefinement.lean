import SimpleTlsBroker.FrameBounds
import SimpleTlsBroker.LocalPublish
import SimpleTlsBroker.LoopRefinement
import SimpleTlsBroker.MessageRequests
import SimpleTlsBroker.TopicDelivery

namespace SimpleTlsBroker

/-!
# The broker refines the service

Each step of the program is a request to the service, and what the step sends
and calls is what the service delivers.  So a run of the program is a list of
requests, and every client gets exactly the publications that it is subscribed
to at the time, once and in order.
-/

open History

/-- Received messages are within the buffer limit. -/
theorem MqttMessage.length_incoming_le_limit
    (message : MqttMessage)
    (byte : Byte) :
    (message.incoming byte).buffer.length ≤ maxBufferLength := by
  unfold incoming
  dsimp only
  split
  · exact Nat.zero_le _
  · exact Nat.le_of_not_lt ‹_›

namespace World

variable {Os : Type} [Platform Os]
variable {vocabulary : Vocabulary}
variable {owned owned' : Topic → Nat}
variable {broker : BrokerId}
variable {before middle after world : World StringIndexer Os}
variable {client : ClientId}
variable {topic : Topic}
variable {name payload : List Byte}

/-! ## The message that a round of the read loop completes -/

/-- What a round of the read loop asks for. -/
def pollAsks
    (world : World StringIndexer Os)
    (client : ClientId) : BrokerRequest :=
  match world.arriving? client with
  | some (world, mesg) => world.asks client mesg
  | none => .idle

/-- A round of the read loop serves the message that it completes. -/
theorem poll_serves
    (apart : SessionsApart Os)
    (linked : Linked broker before)
    (filed : Filed vocabulary owned before)
    (noUpstream : (before.brokers broker).broker = none)
    (member : client ∈ before.members broker)
    (speaks : ∀ middle mesg,
      before.arriving? client = some (middle, mesg) →
        Speaks vocabulary middle client mesg)
    (spacious : before.Spacious owned)
    (spaciousAfter : (before.poll client).2.Spacious owned)
    (ledger : Ledger owned (before.poll client).2) :
    Filed vocabulary owned (before.poll client).2 ∧
      Serves broker before (before.poll client).2
        (before.pollAsks client) := by
  have viaUnnoticed
      (unnoticed : Unnoticed before (before.poll client).2)
      (silent : before.arriving? client = none) :
      Filed vocabulary owned (before.poll client).2 ∧
        Serves broker before (before.poll client).2
          (before.pollAsks client) := by
    unfold pollAsks
    rw [silent]
    exact ⟨filed.of_same unnoticed.indexer unnoticed.subscriptions ledger,
      unnoticed.serves broker⟩
  obtain ⟨device, work, ⟨nothing, result⟩ |
    ⟨slot, byte, connected, fetched, result⟩⟩ := before.poll_fetch client
  · have worked : Unnoticed before { before with device := device } :=
      .sessionWork before work
    refine viaUnnoticed (result ▸ worked) ?_
    unfold arriving?
    rw [nothing]
  · have worked : Unnoticed before
        (({ before with device := device }.log
          (.fed client slot byte)).takeByte client byte) := by
      refine (Unnoticed.sessionWork before work).trans
        ((Unnoticed.log _ rfl).trans (.modifyClient _ client ?_))
      exact fun _ => ⟨rfl, rfl⟩
    have read : KeepsBooks 0 before
        (({ before with device := device }.log
          (.fed client slot byte)).takeByte client byte) := by
      refine (KeepsBooks.device before device).trans
        ((KeepsBooks.log _ _).trans (.modifyClient _ client ?_))
      exact fun _ => rfl
    have attached := linked.memberParent client member
    have isRemote := linked.remote client slot connected
    have born := linked.member_lt_next member
    rcases ({ before with device := device }.log
        (.fed client slot byte)).feed_cases client byte with
      ⟨incomplete, taken⟩ | ⟨complete, processed⟩
    · rw [taken] at result
      refine viaUnnoticed (result ▸ worked) ?_
      unfold arriving?
      rw [fetched]
      exact if_neg (not_not.mpr incomplete)
    · rw [processed] at result
      have arrived :
          before.arriving? client =
            some
              (({ before with device := device }.log
                (.fed client slot byte)).takeByte client byte,
              (before.clients client).message.incoming byte) := by
        unfold arriving?
        rw [fetched]
        exact if_pos complete
      have speaksHere := speaks _ _ arrived
      have short :=
        (before.clients client).message.length_incoming_le_limit byte
      have filedHere :=
        filed.of_same worked.indexer worked.subscriptions
          (filed.ledger.keeps read (spacious.fits (Nat.zero_le 2))).ledger
      have attachedHere :
          ((({ before with device := device }.log
            (.fed client slot byte)).takeByte client byte).clients
              client).parent = some broker := by
        simpa [takeByte] using attached
      have remoteHere :
          ((({ before with device := device }.log
            (.fed client slot byte)).takeByte client byte).clients
              client).client = true := by
        simpa [takeByte] using isRemote
      have reset (world : World StringIndexer Os) :
          KeepsBooks 0 world
            (world.modifyClient client fun record =>
              { record with message := record.message.reset }) := by
        refine .modifyClient world client ?_
        exact fun _ => rfl
      have resetUnnoticed (world : World StringIndexer Os) :
          Unnoticed world
            (world.modifyClient client fun record =>
              { record with message := record.message.reset }) := by
        refine .modifyClient world client ?_
        exact fun _ => ⟨rfl, rfl⟩
      unfold pollAsks
      rw [arrived]
      rw [result] at spaciousAfter ledger ⊢
      obtain ⟨filedAfter, serves⟩ :=
        processMessage_serves apart filedHere noUpstream born attachedHere
          remoteHere short speaksHere (spacious.later read)
          (spaciousAfter.earlier (reset _))
      have quiet := resetUnnoticed
        ((({ before with device := device }.log
          (.fed client slot byte)).takeByte client byte).processMessage client
            ((before.clients client).message.incoming byte))
      exact ⟨filedAfter.of_same quiet.indexer quiet.subscriptions ledger,
        worked.andServes (quiet.afterServes serves)⟩

/-! ## The other steps -/

omit [Platform Os] in
/-- A new client joins. -/
theorem created_serves
    {record : MqttClient}
    (ledger : Ledger owned before)
    (created : Created broker record before after)
    (indexer : after.indexer = before.indexer)
    (posts : after.trace.posts = before.trace.posts)
    (unsubscribed : record.subscriptions = .empty) :
    Handled broker before after (.join before.next record.reach) := by
  have subscriptions (client : ClientId) :
      (after.clients client).subscriptions =
        (before.clients client).subscriptions := by
    by_cases isNew : client = before.next
    · subst isNew
      rw [created.self, ledger.unborn before.next (Nat.le_refl _)]
      exact unsubscribed
    · rw [created.other client isNew]
  refine ⟨indexer, subscriptions, .silent ?_ posts (by simp)⟩
  have names :
      after.subscribedNames =
        Function.update before.subscribedNames before.next ∅ := by
    funext client
    unfold subscribedNames
    rw [subscriptions, indexer]
    by_cases isNew : client = before.next
    · subst isNew
      rw [Function.update_self, ledger.unborn before.next (Nat.le_refl _)]
      ext name
      simp [TopicSet.names]
    · rw [Function.update_of_ne isNew]
  have reach :
      (fun client => (after.clients client).reach) =
        Function.update (fun client => (before.clients client).reach)
          before.next record.reach := by
    funext client
    by_cases isNew : client = before.next
    · subst isNew
      rw [Function.update_self, created.self]
      rfl
    · rw [Function.update_of_ne isNew, created.other client isNew]
  unfold World.view PubSub.State.next
  dsimp only
  rw [created.members, names, reach]

/-- What the accept part asks for. -/
def acceptAsks (world : World StringIndexer Os) : BrokerRequest :=
  match world.device.checkAvail.1 with
  | some _ => .join world.next Content.byFrame
  | none => .idle

/-- The accept part of the loop. -/
theorem accept_serves
    (ledger : Ledger owned before)
    (broker : BrokerId) :
    Handled broker before (before.accept broker) before.acceptAsks := by
  have posts :
      (before.accept broker).trace.posts = before.trace.posts := by
    apply Trace.posts_grown (trace_accept before broker)
    rintro event (isDeletion | ⟨slot, rfl⟩)
    · cases event <;> simp_all [Event.isPost, Event.IsDeletion]
    · rfl
  unfold acceptAsks
  cases found : before.device.checkAvail.1 with
  | none =>
      have unchanged := accept_none broker found
      rw [unchanged] at posts ⊢
      exact (Unnoticed.device before posts).handled broker
  | some slot =>
      have indexer :
          (before.accept broker).indexer = before.indexer := by
        unfold World.accept
        dsimp only
        split <;> rfl
      exact created_serves ledger (created_accept broker found).1 indexer
        posts rfl

/-- What the timeout check asks for. -/
def expireAsks
    (world : World StringIndexer Os)
    (client : ClientId) : BrokerRequest :=
  let record := world.clients client
  if record.alive ≠ 0 ∧ world.device.millis > record.alive then
    .leave client
  else
    .idle

/-- The timeout check of a client of the list. -/
theorem expire_serves
    (attached : (before.clients client).parent = some broker) :
    Handled broker before (before.expire client)
      (before.expireAsks client) := by
  unfold World.expire expireAsks
  dsimp only
  split
  · rw [attached]
    exact close_handled attached
  · exact (Unnoticed.refl before).handled broker

omit [Platform Os] in
/-- Setting the callback of a local client. -/
theorem setCallback_serves
    (isLocal : (before.clients client).client = false) :
    Handled broker before (before.setCallback client)
      (.attend client Content.byCall) := by
  have subscriptions (other : ClientId) :
      ((before.setCallback client).clients other).subscriptions =
        (before.clients other).subscriptions := by
    unfold World.setCallback
    by_cases same : other = client
    · subst same
      rw [clients_modifyClient_self]
    · rw [clients_modifyClient_other _ _ same]
  have reach :
      (fun other => ((before.setCallback client).clients other).reach) =
        Function.update (fun other => (before.clients other).reach) client
          Content.byCall := by
    funext other
    unfold World.setCallback
    by_cases same : other = client
    · subst same
      rw [Function.update_self, clients_modifyClient_self]
      unfold MqttClient.reach
      rw [isLocal]
      rfl
    · rw [Function.update_of_ne same, clients_modifyClient_other _ _ same]
  refine ⟨rfl, subscriptions, .silent ?_ rfl (by simp)⟩
  unfold World.view PubSub.State.next subscribedNames
  dsimp only
  rw [reach]
  simp only [subscriptions]
  rfl

/-- A publication that fits is a frame with its name and payload. -/
theorem publishFrame_publishMessage
    (world : World StringIndexer Os)
    (short : name.length ≤ 255)
    (fits : name.length + payload.length ≤ 4091) :
    PublishFrame world (publishMessage name payload) name payload := by
  have bounded : (stringField name ++ payload).length ≤ 4093 := by
    rw [List.length_append, length_stringField]
    omega
  have collected :=
    MqttMessage.foldl_incoming_create (stringField name ++ payload)
      (MqttMessage.ofType MqttType.publish.code 0) rfl
      (by simp only [MqttMessage.ofType, MqttMessage.create, List.length_cons,
            List.length_nil, MqttMessage.maxBufferLength]; omega)
  rw [← MqttMessage.publishBuilder_eq_foldl] at collected
  have built :=
    MqttMessage.encoded_built MqttType.publish.code
      (stringField name ++ payload) collected.2 (collected.1.trans rfl)
      (by omega)
  have isMessage :
      (publishBuilder name payload).encoded =
        publishMessage name payload := rfl
  rw [isMessage] at built
  have isPublication := (MqttMessage.publishBuilder_fitting fits).2
  have noFlags : (publishMessage name payload).flags = 0 := by
    rw [built]
    change MqttType.publish.code &&& 0x0F = 0
    decide
  have stands := world.rest_body (publishMessage name payload)
  rw [isPublication.body] at stands
  have ending := stands.length
  rw [List.length_append, length_stringField] at ending
  have bodyFits :
      MqttClient.PublishFits 0 (fun _ => true)
        (stringField name ++ payload) := by
    have length := Parse.word_of_bytes (by omega : name.length < 65536)
    have fits :
        word (UInt8.ofNat (name.length >>> 8))
            (UInt8.ofNat (name.length &&& 0xFF)) ≤
          (name ++ payload).length := by
      rw [word, length, List.length_append]
      exact Nat.le_add_right _ _
    exact ⟨(Nat.mod_le _ _).trans fits, fun _ => fits⟩
  refine ⟨isPublication.kind, ?_, ?_⟩
  · have inside :=
      ((MqttClient.inside_accessPublish stands 0 fun _ => true).mpr
        bodyFits).1
    rw [Parse.Inside, MqttClient.reads_accessPublish rfl] at inside
    rw [noFlags]
    exact fun offset member => (inside offset member).2
  · have whole :
        (publishMessage name payload).buffer.length =
          (publishMessage name payload).vheader +
            (name.length + 2 + payload.length) := by
      omega
    rw [noFlags, whole]
    exact
      MqttClient.run_parsePublish_plain stands.holds short (by omega)

omit [Platform Os] in
/-- Constructing and destroying topics asks for nothing. -/
theorem Accounted.serves
    (ledger : Ledger owned before)
    (accounted : Accounted owned owned' before after)
    (clients : after.clients = before.clients)
    (brokers : after.brokers = before.brokers)
    (device : after.device = before.device) :
    Serves broker before after .idle := by
  have names : after.subscribedNames = before.subscribedNames := by
    funext client
    exact subscribedNames_of_same ledger accounted (by rw [clients])
  refine .silent ?_ (by unfold World.trace; rw [device]) (by simp)
  change after.view broker = before.view broker
  unfold World.view members
  rw [names, clients, brokers]

omit [Platform Os] in
/-- The application constructs a topic with a name of the vocabulary. -/
theorem Filed.internTopic
    (filed : Filed vocabulary owned before)
    (known : name ∈ vocabulary.names)
    (ledger :
      Ledger (more owned (before.internTopic name).1)
        (before.internTopic name).2) :
    Filed vocabulary (more owned (before.internTopic name).1)
      (before.internTopic name).2 := by
  obtain ⟨catalog, counter, found, _⟩ := filed.catalog.strToIndex known
  refine ⟨ledger, catalog, filed.subscribedIndex, ?_⟩
  intro topic owns
  by_cases same : topic = (before.internTopic name).1
  · subst same
    exact ledger.balanced.index_ne_zero found
  · rw [more, Function.update_of_ne same] at owns
    exact filed.ownedIndex topic owns

omit [Platform Os] in
/-- The application destroys a topic. -/
theorem Filed.releaseTopic
    (filed : Filed vocabulary owned before)
    (ledger : Ledger (fewer owned topic) (before.releaseTopic topic)) :
    Filed vocabulary (fewer owned topic) (before.releaseTopic topic) := by
  refine ⟨ledger, filed.catalog.release topic, filed.subscribedIndex, ?_⟩
  intro other owns
  by_cases same : other = topic
  · subst same
    rw [fewer, Function.update_self] at owns
    exact filed.ownedIndex other (by omega)
  · rw [fewer, Function.update_of_ne same] at owns
    exact filed.ownedIndex other owns

/-- A step sets up an upstream link, or there is none afterwards either. -/
theorem Step.noUpstream
    {action : Action Os}
    (linked : Linked broker before)
    (noUpstream : (before.brokers broker).broker = none)
    (step : Step broker before action after)
    (notConnecting :
      ∀ alive established, action ≠ .connectUpstream alive established) :
    (after.brokers broker).broker = none := by
  have viaChanges
      (changes : Changes (fun _ _ => True) (fun _ => True) before after) :
      (after.brokers broker).broker = none := by
    rw [changes.upstream broker]
    exact noUpstream
  have viaCreated
      {record : MqttClient}
      (created : Created broker record before after) :
      (after.brokers broker).broker = none := by
    have same := congrArg MqttBroker.broker (created.brokers broker)
    exact same.trans noUpstream
  cases step with
  | accept =>
      cases found : before.device.checkAvail.1 with
      | none =>
          rw [accept_none broker found]
          exact noUpstream
      | some slot => exact viaCreated (created_accept broker found).1
  | expire client polled =>
      exact viaChanges (expire_changes trivial fun _ => trivial)
  | poll client polled =>
      cases connected : (before.clients client).connection with
      | none =>
          rw [poll_unconnected connected]
          exact noUpstream
      | some slot =>
          obtain ⟨read, kept, changes⟩ :=
            poll_only linked polled (linked.remote client slot connected)
          rw [changes.upstream broker, kept.brokers]
          exact noUpstream
  | newLocal id alive => exact viaCreated (created_newLocal _ broker id alive)
  | setCallback client isLocal => exact noUpstream
  | publish client topic payload isLocal ret _ returned =>
      obtain rfl := eq_published returned
      exact viaChanges
        (publishBuilt_changes linked (fun _ _ => trivial) isLocal topic
          payload fun _ _ _ _ => trivial)
  | subscribe client topic qos isLocal fuel ret _ returned =>
      exact viaChanges
        (clientSubscribe_changes linked trivial (fun _ _ => trivial)
          (linked.unconnected_of_local isLocal) returned)
  | unsubscribe client topic isLocal =>
      exact viaChanges
        (clientUnsubscribe_changes trivial
          (linked.unconnected_of_local isLocal) topic)
  | connectUpstream alive established _ _ =>
      exact absurd rfl (notConnecting alive established)
  | internTopic name => exact noUpstream
  | releaseTopic topic => exact noUpstream
  | environment os => exact noUpstream

omit [Platform Os] in
/-- A request for subscriptions lets no client join. -/
theorem topicRequest_ne_join
    (subscribe : Bool)
    (other : ClientId)
    (names : Set (List Byte))
    {reach : List Byte → Post → Option Content} :
    topicRequest subscribe other names ≠ .join client reach := by
  cases subscribe <;> simp [topicRequest]

/-- A message lets no client join. -/
theorem asks_ne_join
    (world : World StringIndexer Os)
    (other : ClientId)
    (mesg : MqttMessage)
    {reach : List Byte → Post → Option Content} :
    world.asks other mesg ≠ .join client reach := by
  unfold asks
  cases mesg.kind? with
  | none => simp
  | some kind =>
      cases kind <;> dsimp only <;> (try split) <;>
        first
        | exact topicRequest_ne_join _ other _
        | simp

end World

/-! ## Runs as conversations -/

namespace Registry

open World

variable {Os : Type} [Platform Os]
variable {vocabulary : Vocabulary}
variable {broker : BrokerId}
variable {start before middle after : Registry Os}
variable {topic : Topic}

/-- What an action asks the service for. -/
def asks (registry : Registry Os) : Action Os → BrokerRequest
  | .accept => registry.world.acceptAsks
  | .expire client => registry.world.expireAsks client
  | .poll client => registry.world.pollAsks client
  | .newLocal _ _ => .join registry.world.next Content.unreached
  | .setCallback client => .attend client Content.byCall
  | .publish client topic payload =>
      if (registry.world.clients client).parent.isSome then
        .publish (registry.str topic)
          ⟨(publishMessage (registry.str topic) payload).buffer, payload⟩
      else
        .idle
  | .subscribe client topic _ =>
      topicRequest true client {registry.str topic}
  | .unsubscribe client topic =>
      topicRequest false client {registry.str topic}
  | .connectUpstream _ _ | .internTopic _ | .releaseTopic _
  | .environment _ => .idle

/--
Peers and the application use names of the vocabulary, the application uses
topics that it has constructed and publishes what fits into a message, and the
broker stays without upstream link.
-/
def Speaks
    (vocabulary : Vocabulary)
    (registry : Registry Os) : Action Os → Prop
  | .poll client =>
      ∀ middle mesg,
        registry.world.arriving? client = some (middle, mesg) →
          middle.Speaks vocabulary client mesg
  | .publish _ topic payload =>
      0 < registry.owned topic ∧
        (registry.str topic).length + payload.length ≤ 4091
  | .unsubscribe _ topic => 0 < registry.owned topic
  | .internTopic name => name ∈ vocabulary.names
  | .connectUpstream _ _ => False
  | _ => True

/-- One step of the program in which only names of the vocabulary occur. -/
structure Serving
    (vocabulary : Vocabulary)
    (broker : BrokerId)
    (action : Action Os)
    (before after : Registry Os) : Prop where
  step : Step broker before.world action after.world
  permitted : before.Permits action
  owned : after.owned = before.ownedAfter action
  speaks : before.Speaks vocabulary action
  spacious : before.Spacious
  spaciousAfter : after.Spacious

/-- A run, with the requests that it makes and what it delivers. -/
inductive Conversation
    (vocabulary : Vocabulary)
    (broker : BrokerId)
    (start : Registry Os) :
    List BrokerRequest → List (ClientId × Content) → Registry Os → Prop where
  | start : Conversation vocabulary broker start [] [] start
  | next
      (requests : List BrokerRequest)
      (delivered : List (ClientId × Content))
      (action : Action Os)
      (before after : Registry Os)
      (earlier :
        Conversation vocabulary broker start requests delivered before)
      (serving : Serving vocabulary broker action before after) :
      Conversation vocabulary broker start
        (requests ++ [before.asks action])
        (delivered ++ before.world.delivered after.world) after

/-- Topics stand for names, and there is no upstream link. -/
structure InService
    (vocabulary : Vocabulary)
    (broker : BrokerId)
    (registry : Registry Os) : Prop where
  linked : Linked broker registry.world
  filed : Filed vocabulary registry.owned registry.world
  noUpstream : (registry.world.brokers broker).broker = none

omit [Platform Os] in
/-- The set-up broker is in service. -/
theorem Start.inService
    [Platform Os]
    (start : Start broker before)
    (vocabulary : Vocabulary) :
    InService vocabulary broker before where
  linked := start.ledger.1
  filed :=
    { ledger := start.ledger.2
      catalog := by
        rw [start.noTopics]
        exact .start
      subscribedIndex := by
        intro client topic member
        rw [start.initial.noClients client] at member
        exact absurd member (TopicSet.not_mem_empty topic)
      ownedIndex := by
        intro topic owns
        rw [start.noneOwned topic] at owns
        exact absurd owns (Nat.lt_irrefl 0) }
  noUpstream := start.initial.noUpstream

/-- Every step serves the request that it makes. -/
theorem Serving.serves
    {action : Action Os}
    (apart : SessionsApart Os)
    (serving : Serving vocabulary broker action before after)
    (inService : InService vocabulary broker before) :
    InService vocabulary broker after ∧
      World.Serves broker before.world after.world (before.asks action) := by
  obtain ⟨linked, filed, noUpstream⟩ := inService
  obtain ⟨step, permitted, owned, speaks, spacious, spaciousAfter⟩ := serving
  have accounted :=
    Next.accounted ⟨action, step, permitted, owned⟩ linked filed.ledger
      spacious spaciousAfter
  have linkedAfter := linked.step step
  have noUpstreamAfter :
      (after.world.brokers broker).broker = none := by
    apply step.noUpstream linked noUpstream
    rintro alive established rfl
    exact speaks
  have viaHandled
      (sameOwned : after.owned = before.owned)
      (handled :
        Handled broker before.world after.world (before.asks action)) :
      InService vocabulary broker after ∧
        World.Serves broker before.world after.world
          (before.asks action) := by
    rw [sameOwned] at accounted
    refine ⟨⟨linkedAfter, ?_, noUpstreamAfter⟩, handled.serves⟩
    rw [sameOwned]
    exact handled.filed filed accounted.ledger
  have memberOfPolled {client : ClientId}
      (polled : before.world.Polled broker client) :
      client ∈ before.world.members broker := by
    rcases polled with member | isUpstream
    · exact member
    · rw [noUpstream] at isUpstream
      contradiction
  obtain ⟨world, owned'⟩ := after
  dsimp only at *
  cases step with
  | accept => exact viaHandled owned (accept_serves filed.ledger broker)
  | expire client polled =>
      exact viaHandled owned
        (expire_serves (linked.memberParent client (memberOfPolled polled)))
  | poll client polled =>
      subst owned
      obtain ⟨filedAfter, serves⟩ :=
        poll_serves apart linked filed noUpstream (memberOfPolled polled)
          speaks spacious spaciousAfter accounted.ledger
      exact ⟨⟨linkedAfter, filedAfter, noUpstreamAfter⟩, serves⟩
  | newLocal id alive =>
      exact viaHandled owned
        (created_serves filed.ledger (created_newLocal _ broker id alive) rfl
          rfl rfl)
  | setCallback client isLocal =>
      exact viaHandled owned (setCallback_serves isLocal)
  | publish client topic payload isLocal ret _ returned =>
      obtain ⟨owns, fits⟩ := speaks
      obtain ⟨_, _, _, known⟩ := filed.ownedEntry owns
      have short := vocabulary.short _ known
      have frame :=
        publishFrame_publishMessage before.world short fits
      refine viaHandled owned ?_
      rw [eq_published returned]
      change Handled broker before.world
        (before.world.publishBuilt client topic payload).2
        (if (before.world.clients client).parent.isSome then
          .publish (before.str topic)
            ⟨(publishMessage (before.str topic) payload).buffer, payload⟩
        else
          .idle)
      cases attached : (before.world.clients client).parent with
      | none =>
          have refused :
              before.world.publishBuilt client topic payload =
                (.nowhereToSend, before.world) := by
            unfold publishBuilt
            dsimp only
            rw [attached, isLocal]
          rw [refused]
          exact (Unnoticed.refl before.world).handled broker
      | some parent =>
          have isAttached : (before.world.clients client).parent ≠ none := by
            rw [attached]
            exact Option.some_ne_none parent
          exact publishBuilt_handled apart filed linked noUpstream spacious
            owns frame isAttached
  | subscribe client topic qos isLocal fuel ret _ returned =>
      subst owned
      have files :=
        clientSubscribe_files filed linked noUpstream spacious permitted.1
          permitted.2 accounted returned
      exact ⟨⟨linkedAfter, files.filed, noUpstreamAfter⟩, files.serves⟩
  | unsubscribe client topic isLocal =>
      subst owned
      have files : Files vocabulary before.owned broker
          (topicRequest false client {before.world.indexer.str topic})
          before.world (before.world.clientUnsubscribe client topic).2 :=
        clientUnsubscribe_files filed spacious permitted speaks
      exact ⟨⟨linkedAfter, files.filed, noUpstreamAfter⟩, files.serves⟩
  | connectUpstream alive established _ _ => exact speaks.elim
  | internTopic name =>
      subst owned
      exact ⟨⟨linkedAfter, filed.internTopic speaks accounted.ledger,
        noUpstreamAfter⟩, accounted.serves filed.ledger rfl rfl rfl⟩
  | releaseTopic topic =>
      subst owned
      exact ⟨⟨linkedAfter, filed.releaseTopic accounted.ledger,
        noUpstreamAfter⟩, accounted.serves filed.ledger rfl rfl rfl⟩
  | environment os =>
      refine viaHandled owned (Unnoticed.handled ?_ broker)
      exact ⟨rfl, rfl, fun _ => rfl, fun _ => rfl, rfl⟩

/-- Only clients that are not members yet join. -/
theorem asks_join
    {action : Action Os}
    {client : ClientId}
    {reach : List Byte → Post → Option Content}
    (linked : Linked broker before.world)
    (joins : before.asks action = .join client reach) :
    client ∉ (before.world.view broker).members := by
  have newcomer (same : before.world.next = client) :
      client ∉ (before.world.view broker).members := by
    intro member
    have born := linked.member_lt_next member
    rw [same] at born
    exact Nat.lt_irrefl _ born
  cases action with
  | accept =>
      change before.world.acceptAsks = _ at joins
      unfold acceptAsks at joins
      split at joins
      · exact newcomer (PubSub.Request.join.inj joins).1
      · contradiction
  | newLocal id alive => exact newcomer (PubSub.Request.join.inj joins).1
  | expire other =>
      change before.world.expireAsks other = _ at joins
      unfold expireAsks at joins
      dsimp only at joins
      split at joins <;> contradiction
  | poll other =>
      change before.world.pollAsks other = _ at joins
      unfold pollAsks at joins
      split at joins
      · exact absurd joins (asks_ne_join _ other _)
      · contradiction
  | publish other topic payload =>
      change (if _ then _ else _) = _ at joins
      split at joins <;> contradiction
  | subscribe other topic qos =>
      exact absurd joins (topicRequest_ne_join true other _)
  | unsubscribe other topic =>
      exact absurd joins (topicRequest_ne_join false other _)
  | setCallback other => contradiction
  | connectUpstream alive established => contradiction
  | internTopic name => contradiction
  | releaseTopic topic => contradiction
  | environment os => contradiction

/-- A conversation is a run of the service. -/
theorem Conversation.refines
    {requests : List BrokerRequest}
    {delivered : List (ClientId × Content)}
    (apart : SessionsApart Os)
    (inService : InService vocabulary broker start)
    (conversation :
      Conversation vocabulary broker start requests delivered after) :
    InService vocabulary broker after ∧
      after.world.view broker = (start.world.view broker).run requests ∧
        delivered =
            PubSub.State.allDeliveries requests (start.world.view broker) ∧
          PubSub.State.Admissible requests (start.world.view broker) := by
  induction conversation with
  | start => exact ⟨inService, rfl, rfl, trivial⟩
  | next requests delivered action before after earlier serving
      inductionHypothesis =>
      obtain ⟨inServiceBefore, view, deliveries, admissible⟩ :=
        inductionHypothesis
      obtain ⟨inServiceAfter, serves⟩ := serving.serves apart inServiceBefore
      refine ⟨inServiceAfter, ?_, ?_, ?_⟩
      · rw [PubSub.State.run_concat, ← view]
        exact serves.view
      · rw [PubSub.State.allDeliveries_concat, ← view, ← serves.delivered,
          deliveries]
      · apply PubSub.State.admissible_concat admissible
        intro client reach joins
        rw [← view]
        exact asks_join inServiceBefore.linked joins

/-! ## A conversation -/

instance
    (registry : Registry Os)
    (action : Action Os) : Decidable (registry.Speaks vocabulary action) :=
  match action with
  | .poll client =>
      decidable_of_iff
        (∀ found ∈ registry.world.arriving? client,
          found.1.Speaks vocabulary client found.2)
        ⟨fun speaks middle mesg found => speaks (middle, mesg) found,
          fun speaks found isFound => speaks found.1 found.2 isFound⟩
  | .publish _ _ _ => inferInstanceAs (Decidable (_ ∧ _))
  | .unsubscribe _ _ => inferInstanceAs (Decidable (_ < _))
  | .internTopic _ => inferInstanceAs (Decidable (_ ∈ _))
  | .connectUpstream _ _ => .isFalse id
  | .accept | .expire _ | .newLocal _ _ | .setCallback _ | .subscribe _ _ _
  | .releaseTopic _ | .environment _ => .isTrue trivial

/-- Do these actions speak of names of the vocabulary only? -/
def speaksAll
    (vocabulary : Vocabulary)
    (broker : BrokerId) : Registry Os → List (Action Os) → Bool
  | _, [] => true
  | registry, action :: rest =>
      decide (registry.Speaks vocabulary action) &&
        speaksAll vocabulary broker (registry.perform broker action) rest

/-- The requests that actions make, one after the other. -/
def allAsks
    (broker : BrokerId) :
    Registry Os → List (Action Os) → List BrokerRequest
  | _, [] => []
  | registry, action :: rest =>
      registry.asks action ::
        allAsks broker (registry.perform broker action) rest

/-- What they deliver. -/
def allDelivered
    (broker : BrokerId) :
    Registry Os → List (Action Os) → List (ClientId × Content)
  | _, [] => []
  | registry, action :: rest =>
      registry.world.delivered (registry.perform broker action).world ++
        allDelivered broker (registry.perform broker action) rest

/-- Performing actions continues a conversation. -/
theorem Conversation.foldl
    {requests : List BrokerRequest}
    {delivered : List (ClientId × Content)}
    {registry : Registry Os}
    {actions : List (Action Os)}
    {owned : Nat}
    (earlier :
      Conversation vocabulary broker start requests delivered registry)
    (few : ∀ topic, registry.owned topic ≤ owned)
    (allowed : allowsAll broker owned registry actions = true)
    (speaks : speaksAll vocabulary broker registry actions = true) :
    Conversation vocabulary broker start
      (requests ++ allAsks broker registry actions)
      (delivered ++ allDelivered broker registry actions)
      (actions.foldl (perform broker) registry) := by
  induction actions generalizing registry requests delivered owned with
  | nil =>
      rw [allAsks, allDelivered, List.append_nil, List.append_nil]
      exact earlier
  | cons action rest inductionHypothesis =>
      simp only [allowsAll, Bool.and_eq_true, decide_eq_true_eq] at allowed
      obtain ⟨⟨⟨⟨isAllowed, permitted⟩, small⟩, smallAfter⟩, later⟩ := allowed
      simp only [speaksAll, Bool.and_eq_true, decide_eq_true_eq] at speaks
      have fewAfter (topic : Topic) :
          (registry.perform broker action).owned topic ≤ owned + 1 :=
        Nat.le_trans (registry.ownedAfter_le action topic)
          (Nat.succ_le_succ (few topic))
      have serving :
          Serving vocabulary broker action registry
            (registry.perform broker action) :=
        { step := step_perform isAllowed
          permitted
          owned := rfl
          speaks := speaks.1
          spacious := spacious_of_small few small
          spaciousAfter := spacious_of_small fewAfter smallAfter }
      have longer :=
        inductionHypothesis (.next _ _ _ _ _ earlier serving) fewAfter later
          speaks.2
      rw [allAsks, allDelivered, List.append_cons, ← List.append_assoc]
      exact longer

/-- The names `"a"` and `"b"`. -/
def twoNames : Vocabulary where
  names := {[0x61], [0x62]}
  noNul := by decide
  beginsIs := by decide
  short := by decide
  enough := by decide

/-- A peer that logs in, subscribes to `"a"` and publishes under it. -/
def speakingScript : Script where
  clock := 0
  connections := [5]
  receipts :=
    Script.receive
      (Script.connectPacket ++ Script.subscribePacket ++
        [0x30, 0x04, 0x00, 0x01, 0x61, 0x07])
  sendResults := []

/-- The set-up broker of this peer. -/
def silent : Registry Script where
  world := speakingScript.setup
  owned := fun _ => 0

/-- It is at its start. -/
theorem start_silent : Start 0 silent where
  initial := speakingScript.initial_setup
  noTopics := rfl
  noneOwned _ := rfl

/--
A local client subscribes to `"a"`.  The peer comes and subscribes, both
publish, and the local client leaves the topic between these publications.
-/
def exchange : List (Action Script) :=
  [.internTopic [0x61], .newLocal [0x63] 0, .setCallback 0,
    .subscribe 0 ⟨1⟩ 0, .accept] ++ List.replicate 29 (.poll 1) ++
    [.publish 0 ⟨1⟩ [0x09], .unsubscribe 0 ⟨1⟩] ++
    List.replicate 6 (.poll 1)

/-- The exchange is a conversation. -/
theorem conversation_exchange :
    Conversation twoNames 0 silent (allAsks 0 silent exchange)
      (allDelivered 0 silent exchange)
      (exchange.foldl (perform 0) silent) := by
  have few (topic : Topic) : silent.owned topic ≤ 0 := Nat.le_refl 0
  have allowed : allowsAll 0 0 silent exchange = true := by decide +kernel
  have speaks : speaksAll twoNames 0 silent exchange = true := by
    decide +kernel
  have exchanged := Conversation.start.foldl few allowed speaks
  rw [List.nil_append, List.nil_append] at exchanged
  exact exchanged

/-! ## The program as a service -/

/--
While only names are used of which none is the beginning of another, at most
255 of them, no topic has more than 253 holders and there is no upstream
broker, the program is a publish and subscribe service: its state stands for
the state of the service, and it sends and calls what the service delivers.
-/
theorem conversation_refines_service
    {requests : List BrokerRequest}
    {delivered : List (ClientId × Content)}
    (apart : SessionsApart Os)
    (isStart : Start broker start)
    (conversation :
      Conversation vocabulary broker start requests delivered after) :
    after.world.view broker = (start.world.view broker).run requests ∧
      delivered =
        PubSub.State.allDeliveries requests (start.world.view broker) := by
  obtain ⟨_, view, deliveries, _⟩ :=
    conversation.refines apart (isStart.inService vocabulary)
  exact ⟨view, deliveries⟩

/-- The service delivers the first publication to both, and the second to the peer. -/
theorem conversation_refines_service_exchange :
    PubSub.State.allDeliveries (allAsks 0 silent exchange)
        (silent.world.view 0) =
      [(0, .call [0x61] [0x09]),
        (1, .frame [0x30, 0x04, 0x00, 0x01, 0x61, 0x09]),
        (1, .frame [0x30, 0x04, 0x00, 0x01, 0x61, 0x07])] := by
  obtain ⟨_, deliveries⟩ :=
    conversation_refines_service World.sessionsApart_script start_silent
      conversation_exchange
  rw [← deliveries]
  decide +kernel

/--
So each client receives exactly the publications under names that it was
subscribed to when they were made, each once and in their order.
-/
theorem client_receives_inbox
    {requests : List BrokerRequest}
    {delivered : List (ClientId × Content)}
    (apart : SessionsApart Os)
    (isStart : Start broker start)
    (conversation :
      Conversation vocabulary broker start requests delivered after)
    (client : ClientId) :
    PubSub.received client delivered =
      PubSub.State.inbox client requests (start.world.view broker) := by
  obtain ⟨_, _, deliveries, admissible⟩ :=
    conversation.refines apart (isStart.inService vocabulary)
  have nodup : (start.world.view broker).members.Nodup := by
    change (start.world.members broker).Nodup
    rw [isStart.initial.noMembers broker]
    exact List.nodup_nil
  rw [deliveries]
  exact PubSub.State.received_allDeliveries nodup admissible client

/-- The local client gets what was published before it left the topic. -/
theorem client_receives_inbox_exchange :
    PubSub.State.inbox 0 (allAsks 0 silent exchange) (silent.world.view 0) =
      [.call [0x61] [0x09]] := by
  rw [← client_receives_inbox World.sessionsApart_script start_silent
    conversation_exchange 0]
  decide +kernel

end Registry

end SimpleTlsBroker
