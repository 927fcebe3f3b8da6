import SimpleTlsBroker.PostRequests

namespace SimpleTlsBroker

/-!
# Messages as requests to the service

Every message that a networked client sends is one request: a client that is
logged in subscribes, unsubscribes or publishes, and whatever the dispatcher
refuses makes the client leave.
-/

namespace World

variable {Os : Type}
variable {vocabulary : Vocabulary}
variable {owned : Topic → Nat}
variable {broker : BrokerId}
variable {before middle after world : World StringIndexer Os}
variable {client : ClientId}
variable {mesg : MqttMessage}
variable {request : BrokerRequest}

/-! ## Requests in a row -/

/-- What goes unnoticed is handled. -/
theorem Unnoticed.handled
    (unnoticed : Unnoticed before after)
    (broker : BrokerId) :
    Handled broker before after .idle :=
  ⟨unnoticed.indexer, unnoticed.subscriptions, unnoticed.serves broker⟩

/-- Something unnoticed before a request. -/
theorem Unnoticed.andHandled
    (unnoticed : Unnoticed before middle)
    (handled : Handled broker middle after request) :
    Handled broker before after request where
  indexer := handled.indexer.trans unnoticed.indexer
  subscriptions client :=
    (handled.subscriptions client).trans (unnoticed.subscriptions client)
  serves := unnoticed.andServes handled.serves

/-- And after it. -/
theorem Unnoticed.afterHandled
    (unnoticed : Unnoticed middle after)
    (handled : Handled broker before middle request) :
    Handled broker before after request where
  indexer := unnoticed.indexer.trans handled.indexer
  subscriptions client :=
    (unnoticed.subscriptions client).trans (handled.subscriptions client)
  serves := unnoticed.afterServes handled.serves

/-- Topics stand for names after a request that leaves them alone. -/
theorem Handled.filed
    (handled : Handled broker before after request)
    (filed : Filed vocabulary owned before)
    (ledger : Ledger owned after) :
    Filed vocabulary owned after :=
  filed.of_same handled.indexer handled.subscriptions ledger

/-- The topic loop serves its request. -/
theorem Files.serves
    {subscribe : Bool}
    {names : Set (List Byte)}
    (files :
      Files vocabulary owned broker (topicRequest subscribe client names)
        before after) :
    Serves broker before after (topicRequest subscribe client names) :=
  .silent files.view files.posts (by cases subscribe <;> simp [topicRequest])

section Messages

variable [Platform Os]

/-- Closing a client of the list makes it leave. -/
theorem close_handled
    (attached : (world.clients client).parent = some broker) :
    Handled broker world (world.close client) (.leave client) := by
  have indexer : (world.close client).indexer = world.indexer := by
    unfold World.close
    dsimp only
    split
    · unfold removeClient dropSession
      split <;> rfl
    · rfl
  have record (other : ClientId) :
      ((world.close client).clients other).subscriptions =
          (world.clients other).subscriptions ∧
        ((world.close client).clients other).reach =
          (world.clients other).reach := by
    by_cases same : other = client
    · subst same
      rw [clients_close_self]
      exact ⟨rfl, rfl⟩
    · rw [clients_close_other world same]
      exact ⟨rfl, rfl⟩
  have members :
      (world.close client).members broker =
        (world.members broker).erase client := by
    unfold World.members
    rw [brokers_close, if_pos attached]
    rfl
  refine ⟨indexer, fun other => (record other).1, .silent ?_ ?_ (by simp)⟩
  · unfold World.view subscribedNames PubSub.State.next
    dsimp only
    simp only [members, indexer, (record _).1, (record _).2]
  · apply Trace.posts_grown (world.trace_close client).1
    intro event isClosing
    exact isClosing.not_isPost

/-- Refusing a message makes its client leave. -/
theorem finish_refused
    (unnoticed : Unnoticed before middle)
    (attached : (middle.clients client).parent = some broker) :
    Handled broker before (finish client (true, middle)) (.leave client) :=
  unnoticed.andHandled (close_handled attached)

/-- A message that is not refused only moves the deadline. -/
theorem finish_accepted
    (handled : Handled broker before middle request) :
    Handled broker before (finish client (false, middle)) request :=
  Unnoticed.afterHandled (.clientAlive middle client _) handled

/-! ## The cases of the dispatcher -/

/-- The fields of a PUBLISH message. -/
def publishFields
    (world : World StringIndexer Os)
    (mesg : MqttMessage) : MqttClient.PublishFields :=
  (MqttClient.parsePublish mesg.vheader mesg.buffer.length mesg.flags).run
    (world.memory mesg)

/-- What a message of a networked client asks for. -/
def asks
    (world : World StringIndexer Os)
    (client : ClientId)
    (mesg : MqttMessage) : BrokerRequest :=
  let connected := (world.clients client).mqttConnected
  match mesg.kind? with
  | some .connect =>
      if world.admits client mesg then .idle else .leave client
  | some .subAck | some .pubAck | some .unSuback | some .pingReq =>
      if connected then .idle else .leave client
  | some .subscribe =>
      if connected then
        topicRequest true client
          (FilterList.names (world.topicLoop true mesg).1)
      else
        .leave client
  | some .unSubscribe =>
      if connected then
        topicRequest false client
          (FilterList.names (world.topicLoop false mesg).1)
      else
        .leave client
  | some .publish =>
      if connected then
        .publish (world.publishFields mesg).name
          ⟨mesg.buffer, (world.publishFields mesg).payload⟩
      else
        .leave client
  | some .connAck | some .pingResp => .idle
  | some .disconnect | some .unknown | none => .leave client

/--
CONNACK is for brokers to send.  A client that is logged in uses names of the
vocabulary, and the fields of what it publishes are inside of the message.
-/
structure Speaks
    (vocabulary : Vocabulary)
    (world : World StringIndexer Os)
    (client : ClientId)
    (mesg : MqttMessage) : Prop where
  noConnAck : mesg.kind? ≠ some .connAck
  subscribes :
    mesg.kind? = some .subscribe →
      (world.clients client).mqttConnected = true →
        Known vocabulary world true mesg
  unsubscribes :
    mesg.kind? = some .unSubscribe →
      (world.clients client).mqttConnected = true →
        Known vocabulary world false mesg
  publishes :
    mesg.kind? = some .publish →
      (world.clients client).mqttConnected = true →
        (world.publishFields mesg).name ∈ vocabulary.names ∧
          PublishFrame world mesg (world.publishFields mesg).name
            (world.publishFields mesg).payload

instance
    (vocabulary : Vocabulary)
    (world : World StringIndexer Os)
    (subscribe : Bool)
    (mesg : MqttMessage) :
    Decidable (Known vocabulary world subscribe mesg) :=
  inferInstanceAs (Decidable (∀ filter ∈ _, _))

instance
    (vocabulary : Vocabulary)
    (world : World StringIndexer Os)
    (client : ClientId)
    (mesg : MqttMessage) : Decidable (world.Speaks vocabulary client mesg) :=
  decidable_of_iff
    (mesg.kind? ≠ some .connAck ∧
      (mesg.kind? = some .subscribe →
        (world.clients client).mqttConnected = true →
          Known vocabulary world true mesg) ∧
      (mesg.kind? = some .unSubscribe →
        (world.clients client).mqttConnected = true →
          Known vocabulary world false mesg) ∧
      (mesg.kind? = some .publish →
        (world.clients client).mqttConnected = true →
          (world.publishFields mesg).name ∈ vocabulary.names ∧
            ∀ offset ∈
                (MqttClient.parsePublish mesg.vheader mesg.buffer.length
                  mesg.flags).reads (world.memory mesg),
              offset < mesg.buffer.length))
    ⟨fun ⟨noConnAck, subscribes, unsubscribes, publishes⟩ =>
        ⟨noConnAck, subscribes, unsubscribes, fun isPublish connected =>
          ⟨(publishes isPublish connected).1, isPublish,
            (publishes isPublish connected).2, rfl⟩⟩,
      fun speaks =>
        ⟨speaks.noConnAck, speaks.subscribes, speaks.unsubscribes,
          fun isPublish connected =>
            ⟨(speaks.publishes isPublish connected).1,
              (speaks.publishes isPublish connected).2.contained⟩⟩⟩

/-- The CONNECT case lets a client in, or refuses it. -/
theorem processConnect_unnoticed
    (attached : (world.clients client).parent = some broker) :
    (world.processConnect client mesg).1 = !world.admits client mesg ∧
      Unnoticed world (world.processConnect client mesg).2 ∧
        ((world.processConnect client mesg).2.clients client).parent =
          some broker := by
  have recorded
      (change : MqttClient → MqttClient)
      (event : Event)
      (noPost : event.isPost = false)
      (keeps :
        ∀ record, (change record).subscriptions = record.subscriptions ∧
          (change record).reach = record.reach) :
      Unnoticed world ((world.modifyClient client change).log event) :=
    (Unnoticed.modifyClient world client keeps).trans (.log _ noPost)
  unfold World.processConnect admits
  dsimp only
  rw [attached]
  cases connected : (world.clients client).mqttConnected with
  | true => exact ⟨rfl, .refl world, attached⟩
  | false =>
      dsimp only
      generalize
        (MqttClient.parseConnect mesg.vheader
            (world.brokers broker).authUser
            (world.brokers broker).authPassword).run
          (world.memory mesg) = fields
      have read :
          Unnoticed world
            ((world.modifyClient client fun record =>
              { record with
                mqttFlags := fields.mqttFlags
                keepAlive := fields.keepAlive
                clientId := fields.clientId.getD record.clientId }).log
              (.credentials client fields.user fields.password)) :=
        recorded _ _ rfl fun _ => ⟨rfl, rfl⟩
      cases accepted : fields.accepted with
      | false => exact ⟨rfl, read, by simpa using attached⟩
      | true =>
          refine ⟨rfl, (read.trans (.modifyClient _ client ?_)).trans
            (.sendTo _ client rfl (by decide)), by simpa using attached⟩
          exact fun _ => ⟨rfl, rfl⟩

/-- The PINGREQ case. -/
theorem processPingReq_unnoticed
    (isRemote : (world.clients client).client = true) :
    (world.processPingReq client).1 =
        !(world.clients client).mqttConnected ∧
      Unnoticed world (world.processPingReq client).2 ∧
        ((world.processPingReq client).2.clients client).parent =
          (world.clients client).parent := by
  unfold World.processPingReq
  dsimp only
  cases connected : (world.clients client).mqttConnected with
  | true =>
      rw [if_pos ⟨rfl, isRemote⟩]
      exact ⟨rfl, .writeClient world client _, rfl⟩
  | false =>
      rw [if_neg fun both => Bool.false_ne_true both.1]
      exact ⟨rfl, .refl world, rfl⟩

/-- The DISCONNECT case makes the client leave, one way or the other. -/
theorem processDisconnect_handled
    (attached : (world.clients client).parent = some broker) :
    Handled broker world (finish client (world.processDisconnect client))
      (.leave client) := by
  unfold World.processDisconnect
  split
  · apply finish_accepted
    refine Unnoticed.andHandled (.modifyClient world client ?_)
      (close_handled (by simpa using attached))
    exact fun _ => ⟨rfl, rfl⟩
  · exact finish_refused (.refl world) attached

/-- A case that is refused, or that goes unnoticed. -/
theorem finish_handled
    {arm : Arm StringIndexer Os}
    {accepted : Bool}
    (result : arm.1 = !accepted)
    (unnoticed : Unnoticed world arm.2)
    (attached : (arm.2.clients client).parent = some broker) :
    Handled broker world (finish client arm)
      (if accepted then .idle else .leave client) := by
  obtain ⟨refused, middle⟩ := arm
  dsimp only at result unnoticed attached
  subst result
  cases accepted with
  | true => exact finish_accepted (unnoticed.handled broker)
  | false => exact finish_refused unnoticed attached

/-- The case of the acknowledgements. -/
theorem processAck_handled
    (attached : (world.clients client).parent = some broker) :
    Handled broker world (finish client (world.processAck client))
      (if (world.clients client).mqttConnected then
        .idle
      else
        .leave client) :=
  finish_handled rfl (.refl world) attached

/-- The SUBSCRIBE and UNSUBSCRIBE case, up to the end of `processMessage`. -/
theorem finish_processSubscribe
    (subscribe : Bool)
    (filed : Filed vocabulary owned before)
    (born : client < before.next)
    (attached : (before.clients client).parent = some broker)
    (short : mesg.buffer.length ≤ MqttMessage.maxBufferLength)
    (known :
      (before.clients client).mqttConnected = true →
        Known vocabulary before subscribe mesg)
    (spacious : before.Spacious owned)
    (spaciousAfter :
      (finish client
        (before.processSubscribe subscribe client mesg)).Spacious owned)
    (ledger :
      Ledger owned
        (finish client (before.processSubscribe subscribe client mesg))) :
    Filed vocabulary owned
        (finish client (before.processSubscribe subscribe client mesg)) ∧
      Serves broker before
        (finish client (before.processSubscribe subscribe client mesg))
        (if (before.clients client).mqttConnected then
          topicRequest subscribe client
            (FilterList.names (before.topicLoop subscribe mesg).1)
        else
          .leave client) := by
  cases connected : (before.clients client).mqttConnected with
  | true =>
      have kept :
          KeepsBooks 0 (before.processSubscribe subscribe client mesg).2
            (finish client
              (before.processSubscribe subscribe client mesg)) :=
        .finish client _
      have spaciousHere := spaciousAfter.earlier kept
      obtain ⟨accepted, files⟩ :=
        @processSubscribe_files _ _ _ broker _ _ _ subscribe mesg filed born
          connected short (known connected) spacious spaciousHere
      have finished :
          Unnoticed (before.processSubscribe subscribe client mesg).2
            (finish client
              (before.processSubscribe subscribe client mesg)) := by
        unfold World.finish
        rw [accepted]
        exact .clientAlive _ client _
      have filesAfter := files.unnoticed finished ledger
      exact ⟨filesAfter.filed, filesAfter.serves⟩
  | false =>
      have refused :
          before.processSubscribe subscribe client mesg = (true, before) := by
        unfold World.processSubscribe
        rw [if_neg (by simp [connected])]
      rw [refused] at ledger ⊢
      have handled := finish_refused (.refl before) attached
      exact ⟨handled.filed filed ledger, handled.serves⟩

/-- The PUBLISH case, up to the end of `processMessage`. -/
theorem finish_processPublish
    (apart : SessionsApart Os)
    (filed : Filed vocabulary owned before)
    (noUpstream : (before.brokers broker).broker = none)
    (spacious : before.Spacious owned)
    (attached : (before.clients client).parent = some broker)
    (isRemote : (before.clients client).client = true)
    (publishes :
      (before.clients client).mqttConnected = true →
        (before.publishFields mesg).name ∈ vocabulary.names ∧
          PublishFrame before mesg (before.publishFields mesg).name
            (before.publishFields mesg).payload) :
    Handled broker before
      (finish client
        (before.processPublish
          (fun broker source topic mesg world =>
            (world.publish broker source topic mesg).2) client mesg))
      (if (before.clients client).mqttConnected then
        .publish (before.publishFields mesg).name
          ⟨mesg.buffer, (before.publishFields mesg).payload⟩
      else
        .leave client) := by
  cases connected : (before.clients client).mqttConnected with
  | true =>
      obtain ⟨known, frame⟩ := publishes connected
      obtain ⟨after, result, handled⟩ :=
        processPublish_handled apart filed noUpstream spacious known frame
          attached isRemote connected
      rw [result]
      exact finish_accepted handled
  | false =>
      have refused :
          before.processPublish
              (fun broker source topic mesg world =>
                (world.publish broker source topic mesg).2) client mesg =
            (true, before) := by
        unfold World.processPublish
        dsimp only
        rw [if_neg (by simp [connected, isRemote])]
      rw [refused]
      exact finish_refused (.refl before) attached

/-- Every message serves the request that it makes. -/
theorem processMessage_serves
    (apart : SessionsApart Os)
    (filed : Filed vocabulary owned before)
    (noUpstream : (before.brokers broker).broker = none)
    (born : client < before.next)
    (attached : (before.clients client).parent = some broker)
    (isRemote : (before.clients client).client = true)
    (short : mesg.buffer.length ≤ MqttMessage.maxBufferLength)
    (speaks : Speaks vocabulary before client mesg)
    (spacious : before.Spacious owned)
    (spaciousAfter : (before.processMessage client mesg).Spacious owned) :
    Filed vocabulary owned (before.processMessage client mesg) ∧
      Serves broker before (before.processMessage client mesg)
        (before.asks client mesg) := by
  have ledger :=
    (filed.ledger.processMessage born mesg spacious spaciousAfter).ledger
  have logged : Unnoticed before (before.log (.processed client mesg)) :=
    .log before rfl
  have noted : KeepsBooks 0 before (before.log (.processed client mesg)) :=
    .log before _
  have filedLogged :=
    filed.of_same logged.indexer logged.subscriptions
      (filed.ledger.keeps noted (spacious.fits (Nat.zero_le 2))).ledger
  have viaHandled
      {arm : Arm StringIndexer Os}
      (result : before.processMessage client mesg = finish client arm)
      {request : BrokerRequest}
      (asked : before.asks client mesg = request)
      (handled :
        Handled broker (before.log (.processed client mesg))
          (finish client arm) request) :
      Filed vocabulary owned (before.processMessage client mesg) ∧
        Serves broker before (before.processMessage client mesg)
          (before.asks client mesg) := by
    have whole := logged.andHandled handled
    rw [result] at ledger ⊢
    rw [asked]
    exact ⟨whole.filed filed ledger, whole.serves⟩
  have viaTopics
      (subscribe : Bool)
      (result :
        before.processMessage client mesg =
          finish client
            ((before.log (.processed client mesg)).processSubscribe subscribe
              client mesg))
      (asked :
        before.asks client mesg =
          if (before.clients client).mqttConnected then
            topicRequest subscribe client
              (FilterList.names (before.topicLoop subscribe mesg).1)
          else
            .leave client)
      (known :
        (before.clients client).mqttConnected = true →
          Known vocabulary before subscribe mesg) :
      Filed vocabulary owned (before.processMessage client mesg) ∧
        Serves broker before (before.processMessage client mesg)
          (before.asks client mesg) := by
    rw [result] at ledger spaciousAfter ⊢
    rw [asked]
    obtain ⟨filedAfter, serves⟩ :=
      finish_processSubscribe subscribe filedLogged born attached short known
        (spacious.later noted) spaciousAfter ledger
    exact ⟨filedAfter, logged.andServes serves⟩
  have result :
      before.processMessage client mesg =
        finish client
          ((before.log (.processed client mesg)).processKind
            (fun broker source topic mesg world =>
              (world.publish broker source topic mesg).2) client mesg) := rfl
  have attachedLogged :
      ((before.log (.processed client mesg)).clients client).parent =
        some broker := attached
  unfold asks at viaHandled viaTopics ⊢
  unfold processKind at result
  cases kind : mesg.kind? with
  | none =>
      rw [kind] at result viaHandled
      exact viaHandled result rfl (finish_refused (.refl _) attachedLogged)
  | some type =>
      rw [kind] at result viaHandled viaTopics
      cases type with
      | unknown =>
          exact viaHandled result rfl
            (finish_refused (.refl _) attachedLogged)
      | connect =>
          obtain ⟨accepted, unnoticed, stillAttached⟩ :=
            @processConnect_unnoticed _ broker _ client mesg _ attachedLogged
          exact viaHandled result rfl
            (finish_handled accepted unnoticed stillAttached)
      | connAck => exact absurd kind speaks.noConnAck
      | publish =>
          refine viaHandled result rfl
            (finish_processPublish apart filedLogged noUpstream
              (spacious.later noted) attachedLogged isRemote ?_)
          intro connected
          obtain ⟨known, frame⟩ := speaks.publishes kind connected
          exact ⟨known, frame.any _⟩
      | pubAck => exact viaHandled result rfl (processAck_handled attachedLogged)
      | subscribe =>
          exact viaTopics true result rfl (speaks.subscribes kind)
      | subAck => exact viaHandled result rfl (processAck_handled attachedLogged)
      | unSubscribe =>
          exact viaTopics false result rfl (speaks.unsubscribes kind)
      | unSuback =>
          exact viaHandled result rfl (processAck_handled attachedLogged)
      | pingReq =>
          obtain ⟨accepted, unnoticed, stillAttached⟩ :=
            @processPingReq_unnoticed _ (before.log (.processed client mesg))
              client _ isRemote
          exact viaHandled result rfl
            (finish_handled accepted unnoticed
              (stillAttached.trans attachedLogged))
      | pingResp =>
          exact viaHandled result rfl
            (finish_accepted ((Unnoticed.refl _).handled broker))
      | disconnect =>
          exact viaHandled result rfl
            (processDisconnect_handled attachedLogged)

end Messages

end World

end SimpleTlsBroker
