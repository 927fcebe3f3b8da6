import SimpleTlsBroker.TopicRequests

namespace SimpleTlsBroker

/-!
# Publications as requests to the service

The loop of `publish` goes through the members in their order and hands the
message to those that are subscribed.  With names of a vocabulary these are the
clients that the service delivers to, and what they get is what it delivers.
-/

namespace World

variable {Os : Type}
variable {vocabulary : Vocabulary}
variable {owned : Topic → Nat}
variable {broker : BrokerId}
variable {before after world : World StringIndexer Os}
variable {client : ClientId}
variable {topic : Topic}
variable {name payload : List Byte}
variable {msg : MqttMessage}

/-- A client is subscribed to a topic if it is subscribed to its name. -/
theorem isSubscribedTo_iff
    (world : World StringIndexer Os)
    (client : ClientId)
    (topic : Topic) :
    world.isSubscribedTo client topic = true ↔
      world.indexer.str topic ∈ world.subscribedNames client := by
  unfold isSubscribedTo
  rw [List.any_eq_true]
  constructor
  · rintro ⟨item, member, matched⟩
    unfold Topic.matchesTopic at matched
    rw [Bool.or_eq_true, decide_eq_true_eq, decide_eq_true_eq] at matched
    refine ⟨item, member, ?_⟩
    rcases matched with sameIndex | sameStr
    · exact congrArg (world.indexer.str ⟨·⟩) sameIndex
    · exact sameStr
  · rintro ⟨item, member, sameStr⟩
    refine ⟨item, member, ?_⟩
    unfold Topic.matchesTopic
    rw [Bool.or_eq_true, decide_eq_true_eq, decide_eq_true_eq]
    exact .inr sameStr

/-- The first byte of a PUBLISH message. -/
theorem isPost_of_publish
    (isPublish : msg.kind? = some .publish)
    (client : ClientId) :
    (Event.sentTo client msg.buffer).isPost = true := by
  have complete := complete_of_publish isPublish
  have code := MqttType.code_of_ofCode? isPublish
  unfold MqttMessage.type at code
  rw [if_pos complete] at code
  unfold Event.isPost
  dsimp only
  rw [decide_eq_true_eq, code, UInt8.and_assoc]
  rfl

section Deliveries

variable [Platform Os]

omit [Platform Os] in
/-- What a client is due is what the service delivers to it. -/
theorem delivered_service
    {state : PubSub.State ClientId (List Byte) Post Content}
    {table : StringIndexer}
    (isPublish : msg.kind? = some .publish)
    (reach : state.reach client = (world.clients client).reach)
    (subscribed :
      world.isSubscribedTo client topic = true ↔
        name ∈ state.subscribed client)
    (named :
      world.isSubscribedTo client topic = true → table.str topic = name) :
    ((world.service topic msg payload client).filter
        Event.isPost).filterMap (Event.delivered? table) =
      (state.delivery name ⟨msg.buffer, payload⟩ client).toList := by
  have isPost := isPost_of_publish isPublish client
  unfold World.service PubSub.State.delivery
  dsimp only
  rw [reach]
  unfold MqttClient.reach
  by_cases matched : world.isSubscribedTo client topic = true
  · have isName := named matched
    rw [if_pos matched, if_pos (subscribed.mp matched)]
    by_cases isRemote : (world.clients client).client = true
    · rw [if_pos isRemote, if_pos isRemote,
        List.filter_cons_of_pos isPost]
      cases (world.clients client).connection with
      | none => rfl
      | some slot => rfl
    · rw [if_neg isRemote, if_neg isRemote]
      by_cases called : (world.clients client).callback = true
      · have called? :
            (Event.callback client topic payload).isPost = true := rfl
        rw [if_pos called, if_pos called,
          List.filter_cons_of_pos called?]
        simp [Event.delivered?, isName, Content.byCall]
      · rw [if_neg called, if_neg called]
        rfl
  · rw [if_neg matched, if_neg fun member => matched (subscribed.mpr member)]
    rfl

/-- The loop of `publish` delivers what the service delivers. -/
theorem publish_delivers
    (apart : SessionsApart Os)
    {state : PubSub.State ClientId (List Byte) Post Content}
    {table : StringIndexer}
    (noUpstream : world.upstreamConnected broker = false)
    (frame : PublishFrame world msg name payload)
    (exact : Indexer.ExactAt world.indexer name topic)
    (members : state.members = world.members broker)
    (reach : ∀ client, state.reach client = (world.clients client).reach)
    (subscribed : ∀ client,
      world.isSubscribedTo client topic = true ↔
        name ∈ state.subscribed client)
    (named : ∀ client,
      world.isSubscribedTo client topic = true → table.str topic = name)
    (source : ClientId) :
    Undisturbed world (world.publish broker source topic msg).2 ∧
      ∃ posts,
        (world.publish broker source topic msg).2.trace.posts =
            world.trace.posts ++ posts ∧
          posts.filterMap (Event.delivered? table) =
            state.deliveries (.publish name ⟨msg.buffer, payload⟩) := by
  obtain ⟨undisturbed, served⟩ :=
    publish_serves apart frame exact noUpstream source
  refine ⟨undisturbed,
    ((world.members broker).flatMap
      (world.service topic msg payload)).filter Event.isPost, ?_, ?_⟩
  · rw [Trace.posts_eq_filter_services, served, List.filter_append,
      ← Trace.posts_eq_filter_services]
  · change
      _ =
        state.members.filterMap (state.delivery name ⟨msg.buffer, payload⟩)
    rw [members, List.filter_flatMap, List.filterMap_flatMap,
      List.filterMap_eq_flatMap_toList (state.delivery _ _)]
    congr 1
    funext client
    exact delivered_service frame.isPublish (reach client)
      (subscribed client) (named client)

/-- A request that leaves the topics alone, as the service sees it. -/
structure Handled
    (broker : BrokerId)
    (before after : World StringIndexer Os)
    (request : BrokerRequest) : Prop where
  indexer : after.indexer = before.indexer
  subscriptions : ∀ client,
    (after.clients client).subscriptions =
      (before.clients client).subscriptions
  serves : Serves broker before after request

omit [Platform Os] in
/-- New posts that deliver what is due. -/
theorem Handled.of_posts
    {posts : List Event}
    (indexer : after.indexer = before.indexer)
    (brokers : after.brokers = before.brokers)
    (subscriptions : ∀ client,
      (after.clients client).subscriptions =
        (before.clients client).subscriptions)
    (reach : ∀ client,
      (after.clients client).reach = (before.clients client).reach)
    (grown : after.trace.posts = before.trace.posts ++ posts)
    {post : Post}
    (delivers :
      posts.filterMap (Event.delivered? before.indexer) =
        (before.view broker).deliveries (.publish name post)) :
    Handled broker before after (.publish name post) where
  indexer := indexer
  subscriptions := subscriptions
  serves := by
    constructor
    · change after.view broker = before.view broker
      unfold World.view members subscribedNames
      simp only [indexer, brokers, subscriptions, reach]
    · unfold World.delivered
      rw [grown, List.drop_left, indexer]
      exact delivers

/-- A delivery does not change how clients are reached. -/
theorem reach_of_undisturbed
    (undisturbed : Undisturbed before after)
    (client : ClientId) :
    (after.clients client).reach = (before.clients client).reach := by
  unfold MqttClient.reach
  rw [undisturbed.client, undisturbed.callback]

/-- Without upstream link none is connected. -/
theorem upstreamConnected_of_none
    (noUpstream : (world.brokers broker).broker = none) :
    world.upstreamConnected broker = false := by
  unfold upstreamConnected
  rw [noUpstream]

/-- `MqttClient::publish` of a client of the application. -/
theorem publishBuilt_handled
    (apart : SessionsApart Os)
    (filed : Filed vocabulary owned before)
    (linked : Linked broker before)
    (noUpstream : (before.brokers broker).broker = none)
    (spacious : before.Spacious owned)
    (owns : 0 < owned topic)
    (frame :
      PublishFrame before
        (publishMessage (before.indexer.str topic) payload)
        (before.indexer.str topic) payload)
    (attached : (before.clients client).parent ≠ none) :
    Handled broker before (before.publishBuilt client topic payload).2
      (.publish (before.indexer.str topic)
        ⟨(publishMessage (before.indexer.str topic) payload).buffer,
          payload⟩) := by
  obtain ⟨counter, found, isName, known⟩ := filed.ownedEntry owns
  have room := spacious topic
  have exact :=
    filed.catalog.exactAt filed.ledger.balanced (by omega) found
  rw [isName] at exact
  obtain ⟨undisturbed, posts, grown, delivers⟩ :=
    @publish_delivers _ _ before topic _ payload _ _ apart
      (before.view broker) before.indexer
      (upstreamConnected_of_none noUpstream) frame exact rfl (fun _ => rfl)
      (fun client => before.isSubscribedTo_iff client topic)
      (fun _ _ => rfl) client
  have result :
      (before.publishBuilt client topic payload).2 =
        (before.publish broker client topic
          (publishMessage (before.indexer.str topic) payload)).2 := by
    obtain ⟨parent, isParent⟩ := Option.ne_none_iff_exists'.mp attached
    unfold publishBuilt
    dsimp only
    rw [isParent, linked.parentBroker client parent isParent]
    rfl
  rw [result]
  exact .of_posts undisturbed.indexer undisturbed.brokers
    undisturbed.subscriptions (reach_of_undisturbed undisturbed) grown delivers

omit [Platform Os] in
/-- A name that was just interned is interned exactly, and given back whole. -/
theorem internTopic_exact
    (filed : Filed vocabulary owned before)
    (known : name ∈ vocabulary.names)
    (spacious : before.Spacious owned) :
    Indexer.ExactAt (before.internTopic name).2.indexer name
        (before.internTopic name).1 ∧
      (before.internTopic name).2.indexer.str (before.internTopic name).1 =
          name ∧
        (before.internTopic name).2.subscribedNames =
            before.subscribedNames ∧
          (before.internTopic name).2.indexer.release
              (before.internTopic name).1 =
            before.indexer := by
  have room (topic : Topic) : before.held owned topic < 255 :=
    Nat.lt_of_le_of_lt (spacious topic) (by decide)
  have accounted := filed.ledger.internTopic room name
  obtain ⟨catalog, counter, found, isName⟩ := filed.catalog.strToIndex known
  have fits :
      (before.internTopic name).2.held
          (more owned (before.internTopic name).1)
          (before.internTopic name).1 ≤
        255 := by
    have roomHere := room (before.internTopic name).1
    rw [held_internTopic, more, Function.update_self]
    omega
  have exact :=
    catalog.exactAt accounted.ledger.balanced fits found
  rw [isName] at exact
  refine ⟨exact, (StringIndexer.str_of_entry found).trans isName, ?_, ?_⟩
  · funext client
    exact subscribedNames_of_same filed.ledger accounted rfl
  · exact
      filed.catalog.release_strToIndex filed.ledger.balanced
        (fun topic => Nat.le_of_lt (room topic)) known

/-- The PUBLISH case of a networked client that is logged in. -/
theorem processPublish_handled
    (apart : SessionsApart Os)
    (filed : Filed vocabulary owned before)
    (noUpstream : (before.brokers broker).broker = none)
    (spacious : before.Spacious owned)
    (known : name ∈ vocabulary.names)
    (frame : PublishFrame before msg name payload)
    (attached : (before.clients client).parent = some broker)
    (isRemote : (before.clients client).client = true)
    (connected : (before.clients client).mqttConnected = true) :
    ∃ after,
      before.processPublish
          (fun broker source topic mesg world =>
            (world.publish broker source topic mesg).2) client msg =
        (false, after) ∧
      Handled broker before after (.publish name ⟨msg.buffer, payload⟩) := by
  obtain ⟨exact, isName, names, released⟩ :=
    internTopic_exact filed known spacious
  have subscribed (client : ClientId) :
      (before.internTopic name).2.isSubscribedTo client
          (before.internTopic name).1 = true ↔
        name ∈ (before.view broker).subscribed client := by
    rw [isSubscribedTo_iff, isName, names]
    rfl
  have named (client : ClientId)
      (matched :
        (before.internTopic name).2.isSubscribedTo client
          (before.internTopic name).1 = true) :
      before.indexer.str (before.internTopic name).1 = name := by
    obtain ⟨item, member, sameStr⟩ := (subscribed client).mp matched
    have same := (filed.str_eq_iff known member).mp sameStr
    rw [← same]
    exact sameStr
  obtain ⟨undisturbed, posts, grown, delivers⟩ :=
    @publish_delivers _ _ (before.internTopic name).2
      (before.internTopic name).1 name payload msg _ apart
      (before.view broker) before.indexer
      (upstreamConnected_of_none noUpstream) (frame.any _) exact rfl
      (fun _ => rfl) subscribed named client
  have result :
      before.processPublish
          (fun broker source topic mesg world =>
            (world.publish broker source topic mesg).2) client msg =
        (false,
          ((before.internTopic name).2.publish broker client
            (before.internTopic name).1 msg).2.releaseTopic
              (before.internTopic name).1) := by
    unfold processPublish
    dsimp only
    rw [if_pos (.inl connected), frame.fields, attached, isRemote]
  have reach := reach_of_undisturbed undisturbed
  refine ⟨_, result, ?_⟩
  apply @Handled.of_posts _ _ before
  case indexer =>
    unfold releaseTopic
    rw [undisturbed.indexer]
    exact released
  case brokers => exact undisturbed.brokers
  case subscriptions => exact undisturbed.subscriptions
  case reach => exact reach
  case grown => exact grown
  case delivers => exact delivers

end Deliveries

end World

end SimpleTlsBroker
