import SimpleTlsBroker.BrokerView
import SimpleTlsBroker.SubscriptionRequests

namespace SimpleTlsBroker

/-!
# Subscriptions as requests to the service

As long as only names of a vocabulary are interned, topics and names are the
same thing: inserting a topic adds its name to what a client is subscribed to,
and erasing it removes this name only.
-/

namespace World

variable {Os : Type}

/-- The books are right, and topics stand for names of the vocabulary. -/
structure Filed
    (vocabulary : Vocabulary)
    (owned : Topic → Nat)
    (world : World StringIndexer Os) : Prop where
  ledger : Ledger owned world
  catalog : Catalog vocabulary world.indexer
  subscribedIndex :
    ∀ client, ∀ topic ∈ (world.clients client).subscriptions, topic.index ≠ 0
  ownedIndex : ∀ topic, 0 < owned topic → topic.index ≠ 0

variable {vocabulary : Vocabulary}
variable {owned owned' : Topic → Nat}
variable {broker : BrokerId}
variable {before middle after world : World StringIndexer Os}
variable {client : ClientId}
variable {topic : Topic}
variable {name : List Byte}

namespace Filed

/-- A topic with a holder has an entry. -/
theorem entry
    (filed : Filed vocabulary owned world)
    (isIndex : topic.index ≠ 0)
    (isHeld : 0 < world.held owned topic) :
    ∃ counter, world.indexer.entry topic = some counter ∧
      counter.str = world.indexer.str topic ∧
        world.indexer.str topic ∈ vocabulary.names :=
  filed.catalog.entry_of_held filed.ledger.balanced isIndex isHeld

/-- So has a topic that somebody is subscribed to. -/
theorem subscribedEntry
    (filed : Filed vocabulary owned world)
    (member : topic ∈ (world.clients client).subscriptions) :
    ∃ counter, world.indexer.entry topic = some counter ∧
      counter.str = world.indexer.str topic ∧
        world.indexer.str topic ∈ vocabulary.names :=
  filed.entry (filed.subscribedIndex client topic member)
    (filed.ledger.booked.subscribed client topic member)

/-- So has a topic of the application. -/
theorem ownedEntry
    (filed : Filed vocabulary owned world)
    (owns : 0 < owned topic) :
    ∃ counter, world.indexer.entry topic = some counter ∧
      counter.str = world.indexer.str topic ∧
        world.indexer.str topic ∈ vocabulary.names :=
  filed.entry (filed.ownedIndex topic owns) (Nat.add_pos_right _ owns)

/-- Interning the name of an entry finds its topic. -/
theorem internTopic_eq
    (filed : Filed vocabulary owned world)
    {counter : StringCounter}
    (found : world.indexer.entry topic = some counter) :
    (world.internTopic counter.str).1 = topic := by
  have looked := filed.catalog.lookup?_of_entry found
  rw [← Topic.cut_eq_self (filed.catalog.short found)] at looked
  have interned := StringIndexer.strToIndex_of_lookup? looked
  change (world.indexer.strToIndex counter.str).1 = topic
  rw [interned]

/-- The topic that a client is subscribed to under a name. -/
theorem str_eq_iff
    (filed : Filed vocabulary owned world)
    (known : name ∈ vocabulary.names)
    (member : topic ∈ (world.clients client).subscriptions) :
    world.indexer.str topic = name ↔ topic = (world.internTopic name).1 := by
  obtain ⟨counter, found, isName, _⟩ := filed.subscribedEntry member
  rw [← isName]
  constructor
  · rintro rfl
    exact (filed.internTopic_eq found).symm
  · intro same
    have taken :=
      StringIndexer.taken_strToIndex world.indexer name
        filed.ledger.balanced.unindexed
    obtain ⟨_, stored, isStored, named⟩ := filed.catalog.strToIndex known
    obtain ⟨kept, isKept, sameStr⟩ := taken.str found
    change topic = (world.indexer.strToIndex name).1 at same
    rw [← same, isKept] at isStored
    obtain rfl := Option.some.inj isStored
    exact sameStr.symm.trans named

/-- What leaves the subscriptions and the table alone. -/
theorem of_same
    (filed : Filed vocabulary owned before)
    (indexer : after.indexer = before.indexer)
    (subscriptions : ∀ client,
      (after.clients client).subscriptions =
        (before.clients client).subscriptions)
    (ledger : Ledger owned after) :
    Filed vocabulary owned after where
  ledger := ledger
  catalog := indexer ▸ filed.catalog
  subscribedIndex client topic member := by
    rw [subscriptions] at member
    exact filed.subscribedIndex client topic member
  ownedIndex := filed.ownedIndex

end Filed

/-! ## Names and what happens to them -/

/-- Whose topics stay is subscribed to the same names. -/
theorem subscribedNames_of_same
    (ledger : Ledger owned before)
    (accounted : Accounted owned owned' before after)
    (same :
      (after.clients client).subscriptions =
        (before.clients client).subscriptions) :
    after.subscribedNames client = before.subscribedNames client := by
  have kept :
      ∀ topic ∈ (before.clients client).subscriptions,
        after.indexer.str topic = before.indexer.str topic := by
    intro topic member
    apply accounted.names topic
    · exact ledger.booked.subscribed client topic member
    · apply accounted.ledger.booked.subscribed client
      rw [same]
      exact member
  ext name
  unfold subscribedNames
  rw [same]
  constructor
  · rintro ⟨topic, member, rfl⟩
    exact ⟨topic, member, (kept topic member).symm⟩
  · rintro ⟨topic, member, rfl⟩
    exact ⟨topic, member, kept topic member⟩

/-- Only the subscriptions of one client have changed. -/
structure Resubscribed
    (client : ClientId)
    (before after : World StringIndexer Os) : Prop where
  brokers : after.brokers = before.brokers
  others : ∀ other ≠ client,
    (after.clients other).subscriptions =
      (before.clients other).subscriptions
  reach : ∀ other,
    (after.clients other).reach = (before.clients other).reach
  posts : after.trace.posts = before.trace.posts

/-- What a request for subscriptions makes of the set of names. -/
def topicRequest
    (subscribe : Bool)
    (client : ClientId)
    (names : Set (List Byte)) : BrokerRequest :=
  if subscribe then .subscribe client names else .unsubscribe client names

/-- The view after such a request. -/
theorem next_topicRequest
    (subscribe : Bool)
    (client : ClientId)
    (names : Set (List Byte))
    (state : PubSub.State ClientId (List Byte) Post Content) :
    state.next (topicRequest subscribe client names) =
      { state with
        subscribed :=
          Function.update state.subscribed client
            (FilterList.changed subscribe (state.subscribed client)
              names) } := by
  cases subscribe <;> rfl

/-- Two requests are one. -/
theorem next_next_topicRequest
    (subscribe : Bool)
    (client : ClientId)
    (first second : Set (List Byte))
    (state : PubSub.State ClientId (List Byte) Post Content) :
    (state.next (topicRequest subscribe client first)).next
        (topicRequest subscribe client second) =
      state.next (topicRequest subscribe client (first ∪ second)) := by
  rw [next_topicRequest, next_topicRequest, next_topicRequest]
  simp only [Function.update_self, Function.update_idem,
    FilterList.changed_changed]

namespace Resubscribed

/-- The view, when the names of the client are known. -/
theorem view
    (resubscribed : Resubscribed client before after)
    (ledger : Ledger owned before)
    (accounted : Accounted owned owned' before after)
    {names : Set (List Byte)}
    (own : after.subscribedNames client = names) :
    after.view broker =
      { before.view broker with
        subscribed :=
          Function.update (before.view broker).subscribed client names } := by
  have reach :
      (fun client => (after.clients client).reach) =
        fun client => (before.clients client).reach :=
    funext resubscribed.reach
  have subscribed :
      after.subscribedNames =
        Function.update before.subscribedNames client names := by
    funext other
    by_cases same : other = client
    · subst same
      rw [own, Function.update_self]
    · rw [Function.update_of_ne same]
      exact subscribedNames_of_same ledger accounted
        (resubscribed.others other same)
  unfold World.view members
  rw [resubscribed.brokers, reach, subscribed]

/-- A topic was inserted. -/
theorem insert
    (resubscribed : Resubscribed client before after)
    (ledger : Ledger owned before)
    (accounted : Accounted owned owned' before after)
    (inserted :
      (after.clients client).subscriptions =
        (before.clients client).subscriptions.insert topic)
    (isName : after.indexer.str topic = name) :
    after.view broker =
      (before.view broker).next (topicRequest true client {name}) := by
  rw [next_topicRequest]
  apply resubscribed.view ledger accounted
  have added :
      ((before.clients client).subscriptions.insert topic).names
          after.indexer =
        Insert.insert name
          ((before.clients client).subscriptions.names before.indexer) := by
    apply TopicSet.names_insert _ isName
    intro item member
    apply accounted.names item
    · exact ledger.booked.subscribed client item member
    · apply accounted.ledger.booked.subscribed client
      rw [inserted]
      exact TopicSet.mem_insert.mpr (.inr member)
  unfold subscribedNames
  rw [inserted, added]
  exact Set.union_singleton.symm

/-- A topic was erased. -/
theorem erase
    (resubscribed : Resubscribed client before after)
    (ledger : Ledger owned before)
    (accounted : Accounted owned owned' before after)
    (erased :
      (after.clients client).subscriptions =
        (before.clients client).subscriptions.erase topic)
    (isNamed :
      ∀ item ∈ (before.clients client).subscriptions,
        before.indexer.str item = name ↔ item = topic) :
    after.view broker =
      (before.view broker).next (topicRequest false client {name}) := by
  rw [next_topicRequest]
  apply resubscribed.view ledger accounted
  have removed :
      ((before.clients client).subscriptions.erase topic).names
          after.indexer =
        (before.clients client).subscriptions.names before.indexer \
          {name} := by
    apply TopicSet.names_erase _ isNamed
    intro item member distinct
    apply accounted.names item
    · exact ledger.booked.subscribed client item member
    · apply accounted.ledger.booked.subscribed client
      rw [erased]
      exact TopicSet.mem_erase.mpr ⟨member, distinct⟩
  unfold subscribedNames
  rw [erased, removed]
  rfl

end Resubscribed

/-! ## The topic loop -/

/-- The topic loop, or a part of it, as the service sees it. -/
structure Files
    (vocabulary : Vocabulary)
    (owned : Topic → Nat)
    (broker : BrokerId)
    (request : BrokerRequest)
    (before after : World StringIndexer Os) : Prop where
  filed : Filed vocabulary owned after
  view : after.view broker = (before.view broker).next request
  posts : after.trace.posts = before.trace.posts

/-- The topic of a SUBSCRIBE round has its name afterwards. -/
theorem str_subscribeRound
    {held : Topic → Nat}
    (filed : Filed vocabulary owned world)
    (known : name ∈ vocabulary.names)
    (set : TopicSet)
    (balanced :
      (ExactInterning.subscribeRound world.indexer set name).2.Balanced held)
    (isHeld :
      0 < held (ExactInterning.subscribeRound world.indexer set name).1) :
    let round := ExactInterning.subscribeRound world.indexer set name
    round.1.index ≠ 0 ∧ Catalog vocabulary round.2 ∧
      round.2.str round.1 = name := by
  have unindexed :=
    (StringIndexer.taken_strToIndex world.indexer name
      filed.ledger.balanced.unindexed).unindexed
        filed.ledger.balanced.unindexed
  obtain ⟨catalog, counter, found, isName⟩ := filed.catalog.strToIndex known
  have isRound :
      ExactInterning.subscribeRound world.indexer set name =
        ((world.indexer.strToIndex name).1,
          (if (world.indexer.strToIndex name).1 ∈ set then
            (world.indexer.strToIndex name).2
          else
            (world.indexer.strToIndex name).2.use
              (world.indexer.strToIndex name).1).release
            (world.indexer.strToIndex name).1) := rfl
  rw [isRound] at balanced isHeld ⊢
  generalize world.indexer.strToIndex name = interned at *
  obtain ⟨topic, table⟩ := interned
  dsimp only at catalog found balanced isHeld unindexed ⊢
  have isIndex : topic.index ≠ 0 := by
    intro isZero
    unfold StringIndexer.entry at found
    rw [isZero, unindexed] at found
    contradiction
  have copied :
      ∃ counter',
        (if topic ∈ set then table else table.use topic).entry topic =
            some counter' ∧
          counter'.str = counter.str ∧
            Catalog vocabulary
              (if topic ∈ set then table else table.use topic) := by
    by_cases present : topic ∈ set
    · rw [if_pos present]
      exact ⟨counter, found, rfl, catalog⟩
    · rw [if_neg present]
      have used :=
        StringIndexer.entry_set table topic
          (some { counter with used := (counter.used + 1) % 256 })
      rw [← StringIndexer.use_of_entry found] at used
      exact ⟨_, used, rfl, catalog.use topic⟩
  generalize (if topic ∈ set then table else table.use topic) = copy
    at balanced copied ⊢
  obtain ⟨counter', found', sameStr, catalog'⟩ := copied
  obtain ⟨last, isLast⟩ := balanced.entered topic isIndex isHeld
  have released := StringIndexer.str_release found' isLast
  refine ⟨isIndex, catalog'.release topic, ?_⟩
  rw [StringIndexer.str_of_entry isLast, released, sameStr, isName]

/-- A round of the topic loop with SUBSCRIBE. -/
theorem Files.subscribeRound
    (filed : Filed vocabulary owned before)
    (spacious : before.Spacious owned)
    (born : client < before.next)
    (qoss : List Byte)
    {filter : List Byte × Byte}
    (known : filter.1 ∈ vocabulary.names) :
    Files vocabulary owned broker (topicRequest true client {filter.1}) before
      (processFilter true client (qoss, before) filter).2 := by
  have accounted :=
    filed.ledger.processFilter_subscribe spacious born qoss filter
  rw [World.processFilter_subscribe] at accounted ⊢
  dsimp only at accounted ⊢
  generalize isRound :
    ExactInterning.subscribeRound before.indexer
      (before.clients client).subscriptions filter.1 = round at accounted ⊢
  let after : World StringIndexer Os :=
    { before with indexer := round.2 }.modifyClient client fun record =>
      { record with subscriptions := record.subscriptions.insert round.1 }
  have inserted :
      (after.clients client).subscriptions =
        (before.clients client).subscriptions.insert round.1 := by
    simp [after]
  have others (other : ClientId) (distinct : other ≠ client) :
      after.clients other = before.clients other := by
    simp [after, distinct]
  have isHeld : 0 < after.held owned round.1 := by
    apply accounted.ledger.booked.subscribed client
    rw [inserted]
    exact TopicSet.mem_insert.mpr (.inl rfl)
  have isNamed :=
    str_subscribeRound filed known (before.clients client).subscriptions
      (isRound ▸ accounted.ledger.balanced) (isRound ▸ isHeld)
  rw [isRound] at isNamed
  obtain ⟨isIndex, catalog, isName⟩ := isNamed
  have resubscribed : Resubscribed client before after := by
    refine ⟨rfl, fun other distinct => by rw [others other distinct], ?_, rfl⟩
    intro other
    by_cases same : other = client
    · subst same
      simp only [after, clients_modifyClient_self]
      rfl
    · rw [others other same]
  refine ⟨⟨accounted.ledger, catalog, ?_, filed.ownedIndex⟩,
    resubscribed.insert filed.ledger accounted inserted isName, rfl⟩
  intro other topic member
  by_cases same : other = client
  · subst same
    change topic ∈ (after.clients other).subscriptions at member
    rw [inserted] at member
    rcases TopicSet.mem_insert.mp member with rfl | isOld
    · exact isIndex
    · exact filed.subscribedIndex other topic isOld
  · change topic ∈ (after.clients other).subscriptions at member
    rw [others other same] at member
    exact filed.subscribedIndex other topic member

/-- A round with UNSUBSCRIBE. -/
theorem Files.unsubscribeRound
    (filed : Filed vocabulary owned before)
    (spacious : before.Spacious owned)
    (born : client < before.next)
    (qoss : List Byte)
    {filter : List Byte × Byte}
    (known : filter.1 ∈ vocabulary.names) :
    Files vocabulary owned broker (topicRequest false client {filter.1})
      before (processFilter false client (qoss, before) filter).2 := by
  have accounted :=
    filed.ledger.processFilter_unsubscribe spacious born qoss filter
  have catalog :
      Catalog vocabulary
        (ExactInterning.unsubscribeRound before.indexer
          (before.clients client).subscriptions filter.1).2 := by
    have interned := (filed.catalog.strToIndex known).1
    unfold ExactInterning.unsubscribeRound
    dsimp only
    apply Catalog.release
    split
    · exact interned.release _
    · exact interned
  have isNamed (item : Topic)
      (member : item ∈ (before.clients client).subscriptions) :
      before.indexer.str item = filter.1 ↔
        item =
          (ExactInterning.unsubscribeRound before.indexer
            (before.clients client).subscriptions filter.1).1 :=
    filed.str_eq_iff known member
  rw [World.processFilter_unsubscribe] at accounted ⊢
  dsimp only at accounted ⊢
  generalize
    ExactInterning.unsubscribeRound before.indexer
      (before.clients client).subscriptions filter.1 = round
    at accounted catalog isNamed ⊢
  let after : World StringIndexer Os :=
    { before with indexer := round.2 }.modifyClient client fun record =>
      { record with subscriptions := record.subscriptions.erase round.1 }
  have erased :
      (after.clients client).subscriptions =
        (before.clients client).subscriptions.erase round.1 := by
    simp [after]
  have others (other : ClientId) (distinct : other ≠ client) :
      after.clients other = before.clients other := by
    simp [after, distinct]
  have resubscribed : Resubscribed client before after := by
    refine ⟨rfl, fun other distinct => by rw [others other distinct], ?_, rfl⟩
    intro other
    by_cases same : other = client
    · subst same
      simp only [after, clients_modifyClient_self]
      rfl
    · rw [others other same]
  refine ⟨⟨accounted.ledger, catalog, ?_, filed.ownedIndex⟩,
    resubscribed.erase filed.ledger accounted erased isNamed, rfl⟩
  intro other topic member
  by_cases same : other = client
  · subst same
    change topic ∈ (after.clients other).subscriptions at member
    rw [erased] at member
    exact filed.subscribedIndex other topic
      (TopicSet.mem_erase.mp member).1
  · change topic ∈ (after.clients other).subscriptions at member
    rw [others other same] at member
    exact filed.subscribedIndex other topic member

/-- No filters ask for nothing. -/
theorem next_topicRequest_empty
    (subscribe : Bool)
    (client : ClientId)
    (state : PubSub.State ClientId (List Byte) Post Content) :
    state.next (topicRequest subscribe client ∅) = state := by
  have same :
      FilterList.changed subscribe (state.subscribed client) ∅ =
        state.subscribed client := by
    cases subscribe with
    | true => exact Set.union_empty _
    | false => exact Set.sdiff_empty
  rw [next_topicRequest, same, Function.update_eq_self]

/-- The topic loop asks for the names of its filters. -/
theorem Files.foldl
    (subscribe : Bool)
    (filters : List (List Byte × Byte))
    (qoss : List Byte)
    (filed : Filed vocabulary owned before)
    (born : client < before.next)
    (known : ∀ filter ∈ filters, filter.1 ∈ vocabulary.names)
    (spacious : before.Spacious owned)
    (spaciousAfter :
      (filters.foldl (processFilter subscribe client)
        (qoss, before)).2.Spacious owned) :
    Files vocabulary owned broker
      (topicRequest subscribe client (FilterList.names filters)) before
      (filters.foldl (processFilter subscribe client) (qoss, before)).2 := by
  induction filters generalizing qoss before with
  | nil =>
      have none : FilterList.names [] = ∅ := by
        ext name
        simp [FilterList.names]
      refine ⟨filed, ?_, rfl⟩
      rw [none, next_topicRequest_empty]
      rfl
  | cons filter rest inductionHypothesis =>
      have knownHere := known filter List.mem_cons_self
      have knownLater (other : List Byte × Byte) (member : other ∈ rest) :=
        known other (List.mem_cons_of_mem filter member)
      rw [List.foldl_cons] at spaciousAfter ⊢
      have round :
          Files vocabulary owned broker
              (topicRequest subscribe client {filter.1}) before
              (processFilter subscribe client (qoss, before) filter).2 ∧
            (processFilter subscribe client (qoss, before) filter).2.next =
                before.next ∧
              (processFilter subscribe client
                (qoss, before) filter).2.Spacious owned := by
        cases subscribe with
        | true =>
            have extended :=
              Extends.processFilter_subscribe before client qoss filter
            have later :=
              Extends.foldl_subscribe client rest
                (processFilter true client (qoss, before) filter).1
                (processFilter true client (qoss, before) filter).2
            exact ⟨.subscribeRound filed spacious born qoss knownHere,
              extended.next, fun topic =>
                Nat.le_trans (later.held_le owned topic)
                  (spaciousAfter topic)⟩
        | false =>
            have extended :=
              Extends.processFilter_unsubscribe before client qoss filter
            exact ⟨.unsubscribeRound filed spacious born qoss knownHere,
              extended.next.symm, fun topic =>
                Nat.le_trans (extended.held_le owned topic)
                  (spacious topic)⟩
      obtain ⟨first, next, spaciousHere⟩ := round
      have later :=
        inductionHypothesis _ first.filed (next ▸ born) knownLater
          spaciousHere spaciousAfter
      refine ⟨later.filed, ?_, later.posts.trans first.posts⟩
      rw [FilterList.names_cons, ← next_next_topicRequest, ← first.view]
      exact later.view

/-- Something unnoticed after the request. -/
theorem Files.unnoticed
    {request : BrokerRequest}
    (files : Files vocabulary owned broker request before middle)
    (unnoticed : Unnoticed middle after)
    (ledger : Ledger owned after) :
    Files vocabulary owned broker request before after where
  filed :=
    files.filed.of_same unnoticed.indexer unnoticed.subscriptions ledger
  view := (unnoticed.view broker).trans files.view
  posts := unnoticed.posts.trans files.posts

section Messages

variable [Platform Os]

/-- The filters of a message are known names. -/
def Known
    (vocabulary : Vocabulary)
    (world : World StringIndexer Os)
    (subscribe : Bool)
    (mesg : MqttMessage) : Prop :=
  ∀ filter ∈ (world.topicLoop subscribe mesg).1,
    filter.1 ∈ vocabulary.names

/-- A message that was built within the limit, other than PUBLISH. -/
theorem Unnoticed.sendBuilt
    (world : World StringIndexer Os)
    (client : ClientId)
    {type flags : Byte}
    {added : List Byte}
    (short : added.length ≤ 4093)
    (noPublish : (type ||| flags) &&& 0xF0 ≠ MqttType.publish.code) :
    Unnoticed world
      (world.sendOwn
        (added.foldl MqttMessage.incoming (MqttMessage.ofType type flags))
        client) := by
  have collected :=
    MqttMessage.foldl_incoming_create added (MqttMessage.ofType type flags)
      rfl
      (by simp only [MqttMessage.ofType, MqttMessage.create, List.length_cons,
            List.length_nil, MqttMessage.maxBufferLength]; omega)
  exact .sendTo world client (collected.1.trans rfl) noPublish

omit [Platform Os] in
/-- Every filter has one return code at most. -/
theorem length_codes_le
    (subscribe : Bool)
    (client : ClientId)
    (filters : List (List Byte × Byte))
    (state : List Byte × World StringIndexer Os) :
    (filters.foldl (processFilter subscribe client) state).1.length ≤
      state.1.length + filters.length := by
  induction filters generalizing state with
  | nil => exact Nat.le_refl _
  | cons filter rest inductionHypothesis =>
      have later :=
        inductionHypothesis (processFilter subscribe client state filter)
      have round :
          (processFilter subscribe client state filter).1.length ≤
            state.1.length + 1 := by
        cases subscribe <;> simp [processFilter]
      rw [List.foldl_cons, List.length_cons]
      omega

/-- The SUBSCRIBE and UNSUBSCRIBE case sends an acknowledgement. -/
theorem processSubscribe_eq
    (subscribe : Bool)
    (mesg : MqttMessage)
    (connected : (world.clients client).mqttConnected = true) :
    let loop :=
      (world.topicLoop subscribe mesg).1.foldl
        (processFilter subscribe client) ([], world)
    ∃ type first second,
      type &&& 0xF0 ≠ MqttType.publish.code ∧
        world.processSubscribe subscribe client mesg =
          (false,
            loop.2.sendOwn
              ((first :: second :: loop.1).foldl MqttMessage.incoming
                (MqttMessage.ofType type 0)) client) := by
  refine
    ⟨if mesg.type = MqttType.subscribe.code then
        MqttType.subAck.code
      else
        MqttType.unSuback.code,
      world.memory mesg mesg.vheader, world.memory mesg (mesg.vheader + 1),
      ?_, ?_⟩
  · split <;> decide
  · unfold World.processSubscribe
    rw [if_pos connected]
    rfl

/-- The SUBSCRIBE and UNSUBSCRIBE case of a client that is logged in. -/
theorem processSubscribe_files
    (subscribe : Bool)
    {mesg : MqttMessage}
    (filed : Filed vocabulary owned before)
    (born : client < before.next)
    (connected : (before.clients client).mqttConnected = true)
    (short : mesg.buffer.length ≤ MqttMessage.maxBufferLength)
    (known : Known vocabulary before subscribe mesg)
    (spacious : before.Spacious owned)
    (spaciousAfter :
      (before.processSubscribe subscribe client mesg).2.Spacious owned) :
    (before.processSubscribe subscribe client mesg).1 = false ∧
      Files vocabulary owned broker
        (topicRequest subscribe client
          (FilterList.names (before.topicLoop subscribe mesg).1))
        before (before.processSubscribe subscribe client mesg).2 := by
  obtain ⟨type, first, second, noPublish, result⟩ :=
    processSubscribe_eq subscribe mesg connected
  have counted :
      2 * (before.topicLoop subscribe mesg).1.length ≤
        mesg.buffer.length + 1 - (mesg.vheader + 2) :=
    MqttClient.length_parseFilters_le subscribe mesg.buffer.length
      mesg.buffer.length (mesg.vheader + 2) (before.memory mesg)
  have codes :=
    length_codes_le subscribe client (before.topicLoop subscribe mesg).1
      ([], before)
  rw [MqttMessage.maxBufferLength] at short
  rw [List.length_nil] at codes
  rw [result] at spaciousAfter ⊢
  dsimp only at spaciousAfter ⊢
  have sent (ack : MqttMessage) :
      KeepsBooks 0
        ((before.topicLoop subscribe mesg).1.foldl
          (processFilter subscribe client) ([], before)).2
        (((before.topicLoop subscribe mesg).1.foldl
          (processFilter subscribe client) ([], before)).2.sendOwn ack
            client) :=
    .sendTo _ ack client
  have spaciousHere := spaciousAfter.earlier (sent _)
  have files : Files vocabulary owned broker
      (topicRequest subscribe client
        (FilterList.names (before.topicLoop subscribe mesg).1)) before
      ((before.topicLoop subscribe mesg).1.foldl
        (processFilter subscribe client) ([], before)).2 :=
    .foldl subscribe _ [] filed born known spacious spaciousHere
  refine ⟨rfl, files.unnoticed (.sendBuilt _ client ?_ ?_)
    (files.filed.ledger.keeps (sent _)
      (spaciousHere.fits (Nat.zero_le 2))).ledger⟩
  · rw [List.length_cons, List.length_cons]
    omega
  · rw [UInt8.or_zero]
    exact noPublish

end Messages

/-! ## Subscriptions of the application -/

section Application

variable [Platform Os]

omit [Platform Os] in
/-- A client keeps a copy of a topic of the application. -/
theorem insertSubscription_files
    (filed : Filed vocabulary owned before)
    (room : before.held owned topic < 255)
    (born : client < before.next)
    (owns : 0 < owned topic) :
    Files vocabulary owned broker
      (topicRequest true client {before.indexer.str topic}) before
      (before.insertSubscription client topic) := by
  have isHeld : 0 < before.held owned topic := Nat.add_pos_right _ owns
  have accounted := filed.ledger.insertSubscription room born isHeld
  have catalog :
      Catalog vocabulary (before.insertSubscription client topic).indexer := by
    unfold World.insertSubscription
    split
    · exact filed.catalog
    · exact filed.catalog.use topic
  have clients (other : ClientId) :
      (before.insertSubscription client topic).clients other =
        (before.modifyClient client fun record =>
          { record with
            subscriptions := record.subscriptions.insert topic }).clients
          other := by
    unfold World.insertSubscription
    split <;> rfl
  have brokers :
      (before.insertSubscription client topic).brokers = before.brokers := by
    unfold World.insertSubscription
    split <;> rfl
  have posts :
      (before.insertSubscription client topic).trace.posts =
        before.trace.posts := by
    unfold World.insertSubscription
    split <;> rfl
  generalize before.insertSubscription client topic = after at *
  have inserted :
      (after.clients client).subscriptions =
        (before.clients client).subscriptions.insert topic := by
    rw [clients, clients_modifyClient_self]
  have others (other : ClientId) (distinct : other ≠ client) :
      after.clients other = before.clients other := by
    rw [clients, clients_modifyClient_other _ _ distinct]
  have stillHeld : 0 < after.held owned topic :=
    Nat.add_pos_right _ owns
  have isName := accounted.names topic isHeld stillHeld
  have resubscribed : Resubscribed client before after := by
    refine ⟨brokers, fun other distinct => by rw [others other distinct],
      ?_, posts⟩
    intro other
    by_cases same : other = client
    · subst same
      rw [clients, clients_modifyClient_self]
      rfl
    · rw [others other same]
  refine ⟨⟨accounted.ledger, catalog, ?_, filed.ownedIndex⟩,
    resubscribed.insert filed.ledger accounted inserted isName, posts⟩
  intro other item member
  by_cases same : other = client
  · subst same
    rw [inserted] at member
    rcases TopicSet.mem_insert.mp member with rfl | isOld
    · exact filed.ownedIndex item owns
    · exact filed.subscribedIndex other item isOld
  · rw [others other same] at member
    exact filed.subscribedIndex other item member

/-- Sending one topic with SUBSCRIBE or UNSUBSCRIBE. -/
theorem Unnoticed.sendTopic
    (world : World StringIndexer Os)
    (client : ClientId)
    {topic : Topic}
    {type : Byte}
    (qos : Byte)
    (short : (world.indexer.str topic).length ≤ 255)
    (noPublish : (type ||| 2) &&& 0xF0 ≠ MqttType.publish.code) :
    Unnoticed world (world.sendTopic client topic type qos).2 := by
  have calls :=
    added_requestCalls [(world.indexer.str topic, qos)]
  rw [sendTopic_eq_sendOwn]
  rw [MqttMessage.AddCall.foldl_apply]
  refine .sendBuilt world client ?_ noPublish
  change
    ((requestCalls [(world.indexer.str topic, qos)]).flatMap
      MqttMessage.AddCall.added).length ≤ 4093
  rw [calls]
  simp only [requestBody, FilterList.item, List.flatMap_cons,
    List.flatMap_nil, List.length_cons, List.length_append,
    length_stringField, List.length_nil, if_true]
  omega

/-- `MqttClient::subscribe` without upstream link. -/
theorem clientSubscribe_files
    {fuel : Nat}
    {qos : Byte}
    {ret : MqttError}
    (filed : Filed vocabulary owned before)
    (linked : Linked broker before)
    (noUpstream : (before.brokers broker).broker = none)
    (spacious : before.Spacious owned)
    (born : client < before.next)
    (owns : 0 < owned topic)
    (accounted : Accounted owned owned before after)
    (returned :
      clientSubscribe fuel before client topic qos = some (ret, after)) :
    Files vocabulary owned broker
      (topicRequest true client {before.indexer.str topic}) before after := by
  have room := spacious topic
  have files : Files vocabulary owned broker
      (topicRequest true client {before.indexer.str topic}) before
      (before.insertSubscription client topic) :=
    insertSubscription_files filed (by omega) born owns
  have record :
      ((before.insertSubscription client topic).clients client).parent =
        (before.clients client).parent := by
    unfold World.insertSubscription
    split <;> simp [useTopic]
  have brokers :
      (before.insertSubscription client topic).brokers = before.brokers := by
    unfold World.insertSubscription
    split <;> rfl
  cases fuel with
  | zero => simp [clientSubscribe] at returned
  | succ fuel =>
      rw [clientSubscribe] at returned
      split at returned
      · obtain ⟨_, rfl⟩ := Prod.mk.inj (Option.some.inj returned)
        obtain ⟨_, _, _, known⟩ := files.filed.ownedEntry owns
        exact files.unnoticed
          (.sendTopic _ client qos (vocabulary.short _ known) (by decide))
          accounted.ledger
      · rename_i parent attached
        rw [record] at attached
        rw [linked.parentBroker client parent attached, brokers,
          noUpstream] at returned
        obtain ⟨_, rfl⟩ := Prod.mk.inj (Option.some.inj returned)
        exact files

/-- `MqttClient::unsubscribe`. -/
theorem clientUnsubscribe_files
    (filed : Filed vocabulary owned before)
    (spacious : before.Spacious owned)
    (born : client < before.next)
    (owns : 0 < owned topic) :
    Files vocabulary owned broker
      (topicRequest false client {before.indexer.str topic}) before
      (before.clientUnsubscribe client topic).2 := by
  obtain ⟨counter, found, isName, known⟩ := filed.ownedEntry owns
  have isNamed (item : Topic)
      (member : item ∈ (before.clients client).subscriptions) :
      before.indexer.str item = before.indexer.str topic ↔ item = topic := by
    rw [filed.str_eq_iff known member, ← isName,
      filed.internTopic_eq found]
  by_cases present : topic ∈ (before.clients client).subscriptions
  · have room := spacious topic
    have accounted := filed.ledger.clientUnsubscribe born topic spacious
    have erased :=
      filed.ledger.eraseSubscription (by omega) born present
    let after : World StringIndexer Os :=
      (before.changeSubscriptions client
        fun set => set.erase topic).releaseTopic topic
    have own :
        (after.clients client).subscriptions =
          (before.clients client).subscriptions.erase topic := by
      change
        ((before.changeSubscriptions client
          fun set => set.erase topic).clients client).subscriptions = _
      simp [changeSubscriptions]
    have others (other : ClientId) (distinct : other ≠ client) :
        after.clients other = before.clients other := by
      change
        (before.changeSubscriptions client
          fun set => set.erase topic).clients other = _
      simp [changeSubscriptions, distinct]
    have resubscribed : Resubscribed client before after := by
      refine ⟨rfl, fun other distinct => by rw [others other distinct],
        ?_, rfl⟩
      intro other
      by_cases same : other = client
      · subst same
        change
          ((before.changeSubscriptions other
            fun set => set.erase topic).clients other).reach = _
        simp only [changeSubscriptions, clients_modifyClient_self]
        rfl
      · rw [others other same]
    have files : Files vocabulary owned broker
        (topicRequest false client {before.indexer.str topic}) before
        after := by
      refine ⟨⟨erased.ledger, filed.catalog.release topic, ?_,
        filed.ownedIndex⟩,
        resubscribed.erase filed.ledger erased own isNamed, rfl⟩
      intro other item member
      by_cases same : other = client
      · subst same
        rw [own] at member
        exact filed.subscribedIndex other item
          (TopicSet.mem_erase.mp member).1
      · rw [others other same] at member
        exact filed.subscribedIndex other item member
    have isAfter :
        after =
          (before.modifyClient client fun record =>
            { record with
              subscriptions := record.subscriptions.erase topic }).releaseTopic
            topic := rfl
    have stillNamed :
        after.indexer.str topic = before.indexer.str topic := by
      apply erased.names topic
      · exact Nat.add_pos_right _ owns
      · exact Nat.add_pos_right _ owns
    unfold World.clientUnsubscribe at accounted ⊢
    rw [if_pos present] at accounted ⊢
    rw [← isAfter] at accounted ⊢
    dsimp only at accounted ⊢
    split at accounted
    · refine files.unnoticed (.sendTopic after client 0 ?_ (by decide))
        accounted.ledger
      rw [stillNamed]
      exact vocabulary.short _ known
    · exact files
  · have notSubscribed :
        (before.subscribedNames client) \ {before.indexer.str topic} =
          before.subscribedNames client := by
      apply Set.sdiff_singleton_eq_self
      rintro ⟨item, member, same⟩
      exact present ((isNamed item member).mp same ▸ member)
    unfold World.clientUnsubscribe
    rw [if_neg present]
    refine ⟨filed, ?_, rfl⟩
    rw [next_topicRequest]
    change
      _ =
        { before.view broker with
          subscribed :=
            Function.update before.subscribedNames client
              (before.subscribedNames client \
                {before.indexer.str topic}) }
    rw [notSubscribed, Function.update_eq_self]
    rfl

end Application

end World

end SimpleTlsBroker
