import SimpleTlsBroker.Announcements

namespace SimpleTlsBroker

/-!
# How deep the calls go

A publication that comes to the application makes it publish in turn, in the
middle of the loop of the broker.  Its own publications go to peers only, so
the callback is never called while it is running: one call in depth is enough
for every step of the program, whatever the peers have sent.
-/

open World

namespace World

variable {Os : Type} [Platform Os]
variable {closable : World StringIndexer Os → ClientId → Prop}
variable {actors : ClientId → Prop}
variable {broker : BrokerId}
variable {room : Nat}
variable {before after : World StringIndexer Os}

/-- Closing a client only takes it off a list. -/
theorem members_close_subset
    (world : World StringIndexer Os)
    (client : ClientId)
    (broker : BrokerId) :
    (world.close client).members broker ⊆ world.members broker := by
  unfold members
  rw [brokers_close]
  split
  · exact List.erase_subset
  · exact List.Subset.refl _

/-- Nobody becomes local or networked by changes. -/
theorem Changes.client
    (changes : Changes closable actors before after)
    (client : ClientId) :
    (after.clients client).client = (before.clients client).client := by
  induction changes with
  | refl => rfl
  | tail _ last inductionHypothesis =>
      obtain ⟨actor, _, change⟩ := last
      rw [← inductionHypothesis]
      rcases change.quiet_or with quiet | ⟨bytes, _, rfl⟩ | ⟨_, rfl⟩
      · exact quiet.client client
      · rfl
      · exact client_close _ actor client

/-- Nobody joins by changes. -/
theorem Changes.members
    (changes : Changes closable actors before after)
    (broker : BrokerId) :
    after.members broker ⊆ before.members broker := by
  induction changes with
  | refl => exact List.Subset.refl _
  | tail _ last inductionHypothesis =>
      obtain ⟨actor, _, change⟩ := last
      refine List.Subset.trans ?_ inductionHypothesis
      rcases change.quiet_or with quiet | ⟨bytes, _, rfl⟩ | ⟨_, rfl⟩
      · unfold World.members
        rw [quiet.brokers]
        exact List.Subset.refl _
      · exact List.Subset.refl _
      · exact members_close_subset _ actor broker

namespace Follows

/-- Setting a deadline. -/
theorem clientAlive
    (world : World StringIndexer Os)
    (client : ClientId)
    (moreSeconds : Nat) :
    Follows broker room world (world.clientAlive client moreSeconds) :=
  .of_kept (.clientAlive world client moreSeconds)
    (.clientAlive world client moreSeconds)

/-- Sending a message. -/
theorem sendTo
    (world : World StringIndexer Os)
    (message : MqttMessage)
    (client : ClientId) :
    Follows broker room world (world.sendTo message client).2 := by
  unfold World.sendTo
  split
  · exact (log world _).trans (device _ _)
  · exact refl world

/-- Closing a client. -/
theorem close
    (world : World StringIndexer Os)
    (client : ClientId) :
    Follows broker room world (world.close client) where
  books := .close world client
  linked linked := linked.close client
  client := client_close world client
  members := members_close_subset world client broker
  upstream := upstream_close world client broker

/-- The end of `processMessage`. -/
theorem finish
    (client : ClientId)
    (arm : Arm StringIndexer Os) :
    Follows broker room arm.2 (World.finish client arm) := by
  unfold World.finish
  split
  · exact close arm.2 client
  · exact clientAlive arm.2 client _

omit [Platform Os] in
/-- Changing the message of a client. -/
theorem modifyMessage
    (world : World StringIndexer Os)
    (client : ClientId)
    (change : MqttMessage → MqttMessage) :
    Follows broker room world
      (world.modifyClient client fun record =>
        { record with message := change record.message }) := by
  refine .of_kept (.modifyClient world client ?_)
    (.modifyClient world client
      (keepsLogin_message change).toKeepsLinks)
  exact fun _ => rfl

end Follows

namespace Uncalled

/-- Closing a client calls nobody. -/
theorem close
    (world : World StringIndexer Os)
    (client : ClientId) :
    Uncalled world (world.close client) := by
  refine (world.trace_close client).1.weaken ?_
  intro event isClosing
  cases event with
  | callback _ _ _ => exact isClosing.elim
  | _ => rfl

/-- Nor does the end of `processMessage`. -/
theorem finish
    (client : ClientId)
    (arm : Arm StringIndexer Os) :
    Uncalled arm.2 (World.finish client arm) := by
  unfold World.finish
  split
  · exact close arm.2 client
  · exact .refl _

omit [Platform Os] in
/-- Work on sessions calls nobody. -/
theorem sessionWork
    (world : World StringIndexer Os)
    {device : Device Os}
    (work : SessionWork world.device device) :
    Uncalled world { world with device := device } := by
  refine work.trace.weaken ?_
  rintro event ⟨slot, fd, onSession⟩
  cases event with
  | callback _ _ _ => exact onSession.elim
  | _ => rfl

/-- What is done about a message that is no publication. -/
theorem activity
    {forward :
      BrokerId → ClientId → Topic → MqttMessage →
        World StringIndexer Os → World StringIndexer Os}
    {client : ClientId}
    {mesg : MqttMessage}
    {start world : World StringIndexer Os}
    (notPublish : mesg.kind? ≠ some .publish)
    (activity : Activity forward client mesg start world) :
    Uncalled start world := by
  induction activity with
  | start => exact .refl _
  | note event isReply _ inductionHypothesis =>
      refine inductionHypothesis.cons ?_
      cases event with
      | callback _ _ _ => exact isReply.elim
      | _ => rfl
  | record _ _ _ inductionHypothesis => exact inductionHypothesis
  | topics _ _ inductionHypothesis => exact inductionHypothesis
  | write bytes _ inductionHypothesis =>
      exact inductionHypothesis.trans (Uncalled.writeClient _ client bytes)
  | forward _ _ isPublish => exact absurd isPublish notPublish
  | callback _ _ isPublish => exact absurd isPublish notPublish
  | login _ _ _ _ _ _ _ _ inductionHypothesis =>
      exact inductionHypothesis.cons rfl
  | connAck _ _ inductionHypothesis => exact inductionHypothesis

/-- Only a PUBLISH message calls somebody. -/
theorem processMessage
    {world : World StringIndexer Os}
    {client : ClientId}
    {mesg : MqttMessage}
    (notPublish : mesg.kind? ≠ some .publish) :
    Uncalled world (world.processMessage client mesg) := by
  have noted : Uncalled world (world.log (.processed client mesg)) :=
    .single rfl
  obtain ⟨active, acted, outcome⟩ :=
    processMessageWith_outcome
      (fun broker source topic mesg world =>
        (world.publish broker source topic mesg).2) world client mesg
  have uncalled := noted.trans (activity notPublish acted)
  unfold World.processMessage
  generalize
    world.processMessageWith
      (fun broker source topic mesg world =>
        (world.publish broker source topic mesg).2) client mesg = after
    at outcome ⊢
  cases outcome with
  | rejected _ => exact uncalled.trans (close active client)
  | disconnected _ _ => exact uncalled.trans (close active client)
  | taken => exact uncalled

end Uncalled

end World

namespace Program

variable {Os : Type} [Platform Os]
variable {surroundings : Surroundings Os}
variable {broker : BrokerId}
variable {room : Nat}
variable {program : Program Os}
variable {client : ClientId}
variable {topic : Topic}
variable {msg : MqttMessage}

/-! ## One call of the callback -/

/-- The program after a call of the callback. -/
def heard
    (surroundings : Surroundings Os)
    (program : Program Os)
    (topic : Topic)
    (payload : List Byte) : Program Os :=
  let now := program.world.device.millis
  let delivery := program.delivery surroundings topic payload
  (program.note (.mqttCallback now topic delivery)).said surroundings
    ((LiftStep.message delivery).apply surroundings.sscanf now program.lift)

/-- A callback returns with the application having heard what it is called with. -/
def Answers
    (surroundings : Surroundings Os)
    (broker : BrokerId)
    (callback : Callback Os) : Prop :=
  ∀ program client topic payload,
    Attentive broker program.mqttClient 1 program.world →
      callback client topic payload program =
        some (program.heard surroundings topic payload)

/-- If the callback may be called at all, it answers. -/
theorem answers_callback
    (surroundings : Surroundings Os)
    (broker : BrokerId)
    (fuel : Nat) :
    Answers surroundings broker (callback surroundings (fuel + 1)) :=
  fun _ client topic payload attentive =>
    callback_eq attentive surroundings fuel client topic payload

/-- Neither the lift nor a callback has noticed anything. -/
structure Unheard (before after : Program Os) : Prop where
  lift : after.lift = before.lift
  history : after.history = before.history
  calls : after.world.trace.callbackCalls = before.world.trace.callbackCalls

/-- The callback was called once at most, and with a command. -/
inductive Hears
    (surroundings : Surroundings Os)
    (before after : Program Os) : Prop where
  | nothing (unheard : Unheard before after)
  | called
      (now : Nat)
      (topic : Topic)
      (delivery : Delivery)
      (isCommand : delivery.topic ∈ commandNames)
      (lift :
        after.lift =
          (LiftStep.message delivery).apply surroundings.sscanf now
            before.lift)
      (history :
        after.history =
          before.history ++ [.mqttCallback now topic delivery])
      (calls :
        after.world.trace.callbackCalls =
          before.world.trace.callbackCalls ++
            [(before.mqttClient, topic, delivery.payload)])

omit [Platform Os] in
/-- Nothing is heard in what only changes the broker. -/
theorem Unheard.of_uncalled
    {world : World StringIndexer Os}
    (uncalled : Uncalled program.world world) :
    Unheard program { program with world := world } :=
  ⟨rfl, rfl, uncalled.calls⟩

omit [Platform Os] in
theorem Unheard.trans
    {before middle after : Program Os}
    (first : Unheard before middle)
    (second : Unheard middle after) :
    Unheard before after :=
  ⟨second.lift.trans first.lift, second.history.trans first.history,
    second.calls.trans first.calls⟩

omit [Platform Os] in
/-- First nothing, then something. -/
theorem Unheard.thenHears
    {before middle after : Program Os}
    (first : Unheard before middle)
    (sameClient : middle.mqttClient = before.mqttClient)
    (second : Hears surroundings middle after) :
    Hears surroundings before after := by
  cases second with
  | nothing unheard => exact .nothing (first.trans unheard)
  | called now topic delivery isCommand lift history calls =>
      rw [first.lift] at lift
      rw [first.history] at history
      rw [first.calls, sameClient] at calls
      exact .called now topic delivery isCommand lift history calls

omit [Platform Os] in
/-- First something, then nothing. -/
theorem Hears.thenNothing
    {before middle after : Program Os}
    (first : Hears surroundings before middle)
    (second : Unheard middle after) :
    Hears surroundings before after := by
  cases first with
  | nothing unheard => exact .nothing (unheard.trans second)
  | called now topic delivery isCommand lift history calls =>
      exact .called now topic delivery isCommand (second.lift.trans lift)
        (second.history.trans history) (second.calls.trans calls)

/-- Something that returns the same with every callback that answers. -/
structure Settles
    (surroundings : Surroundings Os)
    (broker : BrokerId)
    (room : Nat)
    (program : Program Os)
    (call : Callback Os → Option α)
    (result : α)
    (after : Program Os) : Prop where
  follows : Follows broker room program.world after.world
  mqttClient : after.mqttClient = program.mqttClient
  hears : Hears surroundings program after
  returns :
    ∀ callback, Answers surroundings broker callback →
      call callback = some result

/-! ## What publications come to -/

/-- The name and the payload of a PUBLISH message. -/
def fields
    (program : Program Os)
    (mesg : MqttMessage) : MqttClient.PublishFields :=
  (MqttClient.parsePublish mesg.vheader mesg.buffer.length mesg.flags).run
    (program.world.memory mesg)

/-- The program with the topic of a message. -/
def named
    (program : Program Os)
    (mesg : MqttMessage) : Topic × Program Os :=
  let (topic, world) := program.world.internTopic (program.fields mesg).name
  (topic, { program with world := world })

/-- The program without a topic. -/
def release
    (program : Program Os)
    (topic : Topic) : Program Os :=
  { program with world := program.world.releaseTopic topic }

/-- `processMessage` was called. -/
def noted
    (program : Program Os)
    (client : ClientId)
    (mesg : MqttMessage) : Program Os :=
  { program with world := program.world.log (.processed client mesg) }

/-- The end of `processMessage`. -/
def finished
    (program : Program Os)
    (client : ClientId)
    (bclose : Bool) : Program Os :=
  { program with world := World.finish client (bclose, program.world) }

/-- The callback is called. -/
def told
    (program : Program Os)
    (topic : Topic)
    (payload : List Byte) : Program Os :=
  { program with
    world := program.world.log (.callback program.mqttClient topic payload) }

/-- The PUBLISH case of the application. -/
def taken
    (surroundings : Surroundings Os)
    (program : Program Os)
    (mesg : MqttMessage) : Program Os :=
  let (topic, named) := program.named mesg
  if (program.world.clients program.mqttClient).callback ∧
      named.world.isSubscribedTo program.mqttClient topic then
    ((named.told topic (program.fields mesg).payload).heard surroundings
      topic (program.fields mesg).payload).release topic
  else
    named.release topic

/-- `processMessage` of the application, with a PUBLISH message. -/
def handed
    (surroundings : Surroundings Os)
    (program : Program Os)
    (mesg : MqttMessage) : Program Os :=
  ((program.noted program.mqttClient mesg).taken surroundings mesg).finished
    program.mqttClient false

/-- `publishIfSubscribed`. -/
def deliver
    (surroundings : Surroundings Os)
    (topic : Topic)
    (mesg : MqttMessage)
    (program : Program Os)
    (client : ClientId) : Program Os :=
  if program.world.isSubscribedTo client topic then
    if (program.world.clients client).client then
      { program with world := (program.world.sendTo mesg client).2 }
    else
      program.handed surroundings mesg
  else
    program

/-- `MqttBroker::publish`. -/
def spread
    (surroundings : Surroundings Os)
    (broker : BrokerId)
    (topic : Topic)
    (mesg : MqttMessage)
    (program : Program Os) : Program Os :=
  (program.world.members broker).foldl (deliver surroundings topic mesg)
    program

/-- `processMessage` of a peer, with a PUBLISH message. -/
def published
    (surroundings : Surroundings Os)
    (broker : BrokerId)
    (client : ClientId)
    (mesg : MqttMessage)
    (program : Program Os) : Program Os :=
  let program := program.noted client mesg
  if (program.world.clients client).mqttConnected then
    let (topic, named) := program.named mesg
    ((named.spread surroundings broker topic mesg).release topic).finished
      client false
  else
    program.finished client true

/-! ## Publications -/

/-- The PUBLISH case of a local client. -/
theorem processPublish_of_local
    (isLocal : (program.world.clients client).client = false)
    (forward : Forward Os)
    (callback : Callback Os)
    (mesg : MqttMessage) :
    program.processPublish forward callback client mesg =
      (if (program.world.clients client).callback ∧
          (program.named mesg).2.world.isSubscribedTo client
            (program.named mesg).1 then
        callback client (program.named mesg).1 (program.fields mesg).payload
          { (program.named mesg).2 with
            world :=
              (program.named mesg).2.world.log
                (.callback client (program.named mesg).1
                  (program.fields mesg).payload) }
      else
        some (program.named mesg).2).map fun program' =>
          (false, program'.release (program.named mesg).1) := by
  unfold processPublish
  dsimp only
  rw [if_pos (.inr isLocal), isLocal]
  cases (program.world.clients client).parent <;> rfl

/-- It returns when the callback does. -/
theorem processPublish_settles
    (attentive : Attentive broker program.mqttClient 2 program.world)
    (forward : Forward Os)
    (mesg : MqttMessage) :
    Settles surroundings broker 2 program
      (fun callback =>
        program.processPublish forward callback program.mqttClient mesg)
      (false, program.taken surroundings mesg)
      (program.taken surroundings mesg) := by
  have attentiveNamed := attentive.internTopic (program.fields mesg).name
  unfold taken
  dsimp only
  by_cases called :
      (program.world.clients program.mqttClient).callback ∧
        (program.named mesg).2.world.isSubscribedTo program.mqttClient
          (program.named mesg).1
  · rw [if_pos called]
    let told :=
      (program.named mesg).2.told (program.named mesg).1
        (program.fields mesg).payload
    have logged :
        Follows broker 1 (program.named mesg).2.world told.world :=
      .log _ _
    have attentiveTold : Attentive broker told.mqttClient 1 told.world :=
      attentiveNamed.later logged
    obtain ⟨saidFollows, saidUncalled⟩ :=
      follows_said attentiveTold surroundings
        (told.heard surroundings (program.named mesg).1
          (program.fields mesg).payload).lift
    refine ⟨?_, rfl, ?_, ?_⟩
    · exact .temporary _ (logged.trans saidFollows)
    · refine .called _ (program.named mesg).1
        (told.delivery surroundings (program.named mesg).1
          (program.fields mesg).payload) ?_ rfl rfl ?_
      · obtain ⟨topic, member, sameStr⟩ :=
          (isSubscribedTo_iff _ _ _).mp called.2
        have isCommand := attentiveNamed.commands topic member
        rw [show (program.world.internTopic
              (program.fields mesg).name).2.indexer.str topic =
            (program.named mesg).2.world.indexer.str (program.named mesg).1
          from sameStr] at isCommand
        exact isCommand
      · exact saidUncalled.calls.trans (calls_log _ _)
    · intro callback answers
      rw [processPublish_of_local attentive.isLocal, if_pos called]
      change (callback _ _ _ told).map _ = _
      rw [answers told program.mqttClient _ _ attentiveTold]
      rfl
  · rw [if_neg called]
    refine ⟨.temporary _ (.refl _), rfl, .nothing ⟨rfl, rfl, rfl⟩, ?_⟩
    intro callback answers
    rw [processPublish_of_local attentive.isLocal, if_neg called]
    rfl

/-- The message of a publication, for the application. -/
theorem processMessageWith_settles
    (attentive : Attentive broker program.mqttClient 2 program.world)
    (isPublish : msg.kind? = some .publish)
    (forward : Forward Os) :
    Settles surroundings broker 2 program
      (fun callback =>
        program.processMessageWith forward callback program.mqttClient msg)
      (program.handed surroundings msg)
      (program.handed surroundings msg) := by
  have logged :
      Follows broker 2 program.world
        (program.noted program.mqttClient msg).world := .log _ _
  have quiet : Unheard program (program.noted program.mqttClient msg) :=
    .of_uncalled (.single rfl)
  have settles :=
    @processPublish_settles _ _ surroundings broker
      (program.noted program.mqttClient msg) (attentive.later logged) forward
      msg
  let after :=
    (program.noted program.mqttClient msg).taken surroundings msg
  have finishing : Unheard after (after.finished program.mqttClient false) :=
    .of_uncalled (Uncalled.finish program.mqttClient (false, after.world))
  refine ⟨(logged.trans settles.follows).trans
      (.finish program.mqttClient (false, after.world)),
    settles.mqttClient,
    (quiet.thenHears rfl settles.hears).thenNothing finishing, ?_⟩
  intro callback answers
  have returned := settles.returns callback answers
  unfold noted at returned
  unfold processMessageWith
  dsimp only at returned ⊢
  rw [if_pos isPublish, returned]
  rfl

/-- A delivery; only one to the application is heard. -/
theorem publishIfSubscribed_settles
    (attentive : Attentive broker program.mqttClient 2 program.world)
    (remote :
      client ≠ program.mqttClient →
        (program.world.clients client).client = true)
    (topic : Topic)
    (isPublish : msg.kind? = some .publish) :
    ∃ ret,
      Settles surroundings broker 2 program
          (fun callback =>
            program.publishIfSubscribed callback client topic msg)
          ((ret, msg), program.deliver surroundings topic msg client)
          (program.deliver surroundings topic msg client) ∧
        (client ≠ program.mqttClient →
          Unheard program
            (program.deliver surroundings topic msg client)) := by
  unfold deliver
  by_cases subscribed : program.world.isSubscribedTo client topic = true
  · rw [if_pos subscribed]
    by_cases isRemote : (program.world.clients client).client = true
    · rw [if_pos isRemote]
      have sent :
          (program.world.sendTo msg client).1 =
            ((program.world.sendTo msg client).1.1, msg) :=
        Prod.ext rfl (sendTo_complete (complete_of_publish isPublish))
      have quiet :=
        @Unheard.of_uncalled _ program _
          (Uncalled.sendTo program.world msg client)
      refine ⟨(program.world.sendTo msg client).1.1,
        ⟨.sendTo program.world msg client, rfl, .nothing quiet, ?_⟩,
        fun _ => quiet⟩
      intro callback answers
      unfold publishIfSubscribed
      rw [if_pos subscribed, if_pos isRemote, ← sent]
    · rw [if_neg isRemote]
      have isApp : client = program.mqttClient := by
        by_contra distinct
        exact isRemote (remote distinct)
      subst isApp
      have settles :=
        @processMessageWith_settles _ _ surroundings broker program msg
          attentive isPublish fun _ _ _ _ program => some program
      refine ⟨.ok,
        ⟨settles.follows, settles.mqttClient, settles.hears, ?_⟩,
        fun distinct => absurd rfl distinct⟩
      intro callback answers
      unfold publishIfSubscribed
      rw [if_pos subscribed, if_neg isRemote,
        settles.returns callback answers]
      rfl
  · rw [if_neg subscribed]
    refine ⟨.ok, ⟨.refl _, rfl, .nothing ⟨rfl, rfl, rfl⟩, ?_⟩,
      fun _ => ⟨rfl, rfl, rfl⟩⟩
    intro callback answers
    unfold publishIfSubscribed
    rw [if_neg subscribed]

/-- The loop of the broker over its clients. -/
theorem publish_settles
    (attentive : Attentive broker program.mqttClient 2 program.world)
    (source : ClientId)
    (topic : Topic)
    (isPublish : msg.kind? = some .publish) :
    ∃ ret,
      Settles surroundings broker 2 program
        (fun callback => program.publish callback broker source topic msg)
        ((ret, msg), program.spread surroundings broker topic msg)
        (program.spread surroundings broker topic msg) := by
  have loop
      (clients : List ClientId)
      (program : Program Os)
      (attentive : Attentive broker program.mqttClient 2 program.world)
      (remote :
        ∀ client ∈ clients, client ≠ program.mqttClient →
          (program.world.clients client).client = true)
      (nodup : clients.Nodup)
      (retval : MqttError) :
      ∃ ret,
        Settles surroundings broker 2 program
            (fun callback =>
              clients.foldlM (publishStep callback broker source topic)
                ((retval, msg), program))
            ((ret, msg),
              clients.foldl (deliver surroundings topic msg) program)
            (clients.foldl (deliver surroundings topic msg) program) ∧
          (program.mqttClient ∉ clients →
            Unheard program
              (clients.foldl (deliver surroundings topic msg) program)) := by
    induction clients generalizing program retval with
    | nil =>
        exact ⟨retval, ⟨.refl _, rfl, .nothing ⟨rfl, rfl, rfl⟩, fun _ _ => rfl⟩,
          fun _ => ⟨rfl, rfl, rfl⟩⟩
    | cons client rest inductionHypothesis =>
        obtain ⟨notInRest, nodupRest⟩ := List.nodup_cons.mp nodup
        obtain ⟨ret, first, firstQuiet⟩ :=
          @publishIfSubscribed_settles _ _ surroundings broker program client
            msg attentive (remote client List.mem_cons_self) topic isPublish
        have sameClient := first.mqttClient
        have attentiveLater :
            Attentive broker
              (program.deliver surroundings topic msg client).mqttClient 2
              (program.deliver surroundings topic msg client).world := by
          rw [sameClient]
          exact attentive.later first.follows
        obtain ⟨ret', later, laterQuiet⟩ :=
          inductionHypothesis _ attentiveLater
            (fun other inRest distinct =>
              (first.follows.client other).trans
                (remote other (List.mem_cons_of_mem _ inRest)
                  (sameClient ▸ distinct)))
            nodupRest ret
        rw [sameClient] at laterQuiet
        rw [List.foldl_cons]
        generalize
          rest.foldl (deliver surroundings topic msg)
            (program.deliver surroundings topic msg client) = after
          at later laterQuiet ⊢
        have hears : Hears surroundings program after := by
          by_cases isApp : client = program.mqttClient
          · exact first.hears.thenNothing
              (laterQuiet (isApp ▸ notInRest))
          · exact (firstQuiet isApp).thenHears sameClient later.hears
        refine ⟨ret',
          ⟨first.follows.trans later.follows,
            later.mqttClient.trans sameClient, hears, ?_⟩, ?_⟩
        · intro callback answers
          rw [List.foldlM_cons, publishStep_eq callback attentive.noUpstream,
            first.returns callback answers]
          exact later.returns callback answers
        · intro absent
          rw [List.mem_cons, not_or] at absent
          exact (firstQuiet (Ne.symm absent.1)).trans (laterQuiet absent.2)
  obtain ⟨ret, settles, _⟩ :=
    loop (program.world.members broker) program attentive attentive.remote
      attentive.linked.nodup .ok
  exact ⟨ret, settles⟩

/-! ## Messages of peers -/

/-- The PUBLISH case of a peer that is logged in. -/
theorem processPublish_of_peer
    (connected : (program.world.clients client).mqttConnected = true)
    (attached : (program.world.clients client).parent = some broker)
    (isRemote : (program.world.clients client).client = true)
    (forward : Forward Os)
    (callback : Callback Os)
    (mesg : MqttMessage) :
    program.processPublish forward callback client mesg =
      (forward broker client (program.named mesg).1 mesg
        (program.named mesg).2).map fun program' =>
          (false, program'.release (program.named mesg).1) := by
  unfold processPublish
  dsimp only
  rw [if_pos (.inl connected), attached, isRemote]
  rfl

/-- A peer that is not logged in is not heard. -/
theorem processPublish_of_stranger
    (unconnected : (program.world.clients client).mqttConnected = false)
    (isRemote : (program.world.clients client).client = true)
    (forward : Forward Os)
    (callback : Callback Os)
    (mesg : MqttMessage) :
    program.processPublish forward callback client mesg =
      some (true, program) := by
  unfold processPublish
  dsimp only
  rw [if_neg]
  rw [unconnected, isRemote]
  decide

/-- A PUBLISH message of a peer. -/
theorem processMessage_settles
    (attentive : Attentive broker program.mqttClient 3 program.world)
    (attached : (program.world.clients client).parent = some broker)
    (isRemote : (program.world.clients client).client = true)
    (isPublish : msg.kind? = some .publish) :
    Settles surroundings broker 3 program
      (fun callback => processMessage callback program client msg)
      (program.published surroundings broker client msg)
      (program.published surroundings broker client msg) := by
  have logged :
      Follows broker 3 program.world (program.noted client msg).world :=
    .log _ _
  have quiet : Unheard program (program.noted client msg) :=
    .of_uncalled (.single rfl)
  have finishes
      {bclose : Bool}
      {after : Program Os}
      (settles :
        Settles surroundings broker 3 (program.noted client msg)
          (fun callback =>
            (program.noted client msg).processPublish
              (fun broker source topic mesg program =>
                (program.publish callback broker source topic mesg).map
                  Prod.snd)
              callback client msg)
          (bclose, after) after) :
      Settles surroundings broker 3 program
        (fun callback => processMessage callback program client msg)
        (after.finished client bclose) (after.finished client bclose) := by
    have finishing : Unheard after (after.finished client bclose) :=
      .of_uncalled (Uncalled.finish client (bclose, after.world))
    refine ⟨(logged.trans settles.follows).trans
        (.finish client (bclose, after.world)), settles.mqttClient,
      (quiet.thenHears rfl settles.hears).thenNothing finishing, ?_⟩
    intro callback answers
    have returned := settles.returns callback answers
    unfold noted at returned
    unfold processMessage processMessageWith
    dsimp only at returned ⊢
    rw [if_pos isPublish, returned]
    rfl
  unfold published
  dsimp only
  by_cases connected :
      ((program.noted client msg).world.clients client).mqttConnected = true
  · rw [if_pos connected]
    let named := ((program.noted client msg).named msg).2
    let topic := ((program.noted client msg).named msg).1
    have attentiveNamed : Attentive broker named.mqttClient 2 named.world :=
      (attentive.later logged).internTopic _
    obtain ⟨ret, settles⟩ :=
      @publish_settles _ _ surroundings broker named msg attentiveNamed
        client topic isPublish
    have begun : Unheard (program.noted client msg) named :=
      ⟨rfl, rfl, rfl⟩
    have released :
        Unheard (named.spread surroundings broker topic msg)
          ((named.spread surroundings broker topic msg).release topic) :=
      ⟨rfl, rfl, rfl⟩
    refine finishes ⟨.temporary _ settles.follows, settles.mqttClient,
      (begun.thenHears rfl settles.hears).thenNothing released, ?_⟩
    intro callback answers
    rw [@processPublish_of_peer _ _ broker (program.noted client msg) client
      connected attached isRemote, settles.returns callback answers]
    rfl
  · rw [if_neg connected]
    refine finishes ⟨.refl _, rfl, .nothing ⟨rfl, rfl, rfl⟩, ?_⟩
    intro callback answers
    exact @processPublish_of_stranger _ _ (program.noted client msg) client
      (Bool.eq_false_of_not_eq_true connected) isRemote _ callback msg

/-- Other messages are those of the broker alone. -/
theorem processMessage_other
    (callback : Callback Os)
    (notPublish : msg.kind? ≠ some .publish) :
    processMessage callback program client msg =
      some
        { program with world := program.world.processMessage client msg } := by
  have sameArm (world : World StringIndexer Os) :
      world.processKind (fun _ _ _ _ world => world) client msg =
        world.processKind
          (fun broker source topic mesg world =>
            (world.publish broker source topic mesg).2) client msg := by
    unfold World.processKind
    split
    case h_10 isPublish => exact absurd isPublish notPublish
    all_goals rfl
  unfold processMessage processMessageWith
  dsimp only
  rw [if_neg notPublish, sameArm]
  rfl

/-! ## Steps -/

omit [Platform Os] in
/-- Taking in a byte. -/
theorem taken_spec
    {world : World StringIndexer Os}
    {device : Device Os}
    (work : SessionWork world.device device)
    (slot : SlotId)
    (byte : Byte) :
    KeepsBooks 0 world
        (({ world with device := device }.log
          (.fed client slot byte)).takeByte client byte) ∧
      LinksKept world
          (({ world with device := device }.log
            (.fed client slot byte)).takeByte client byte) ∧
        Uncalled world
          (({ world with device := device }.log
            (.fed client slot byte)).takeByte client byte) := by
  refine ⟨?_, ?_, ?_⟩
  · refine (KeepsBooks.device world device).trans
      ((KeepsBooks.log _ _).trans (.modifyClient _ client ?_))
    exact fun _ => rfl
  · exact (LinksKept.device world device).trans
      ((LinksKept.log _ _).trans
        (.modifyClient _ client
          (keepsLogin_message fun message =>
            message.incoming byte).toKeepsLinks))
  · exact (Uncalled.sessionWork world work).cons rfl

/-- The message that a round completes, and what came before it. -/
theorem arriving_spec
    {world middle : World StringIndexer Os}
    {mesg : MqttMessage}
    (arriving : world.arriving? client = some (middle, mesg)) :
    (KeepsBooks 0 world middle ∧ LinksKept world middle ∧
        Uncalled world middle) ∧
      (∃ slot, (world.clients client).connection = some slot) ∧
        (world.poll client).2 =
          (middle.processMessage client mesg).modifyClient client fun record =>
            { record with message := record.message.reset } := by
  obtain ⟨device, work, ⟨nothing, _⟩ |
    ⟨slot, byte, connected, fetched, polled⟩⟩ := world.poll_fetch client
  · unfold arriving? at arriving
    rw [nothing] at arriving
    contradiction
  · unfold arriving? at arriving
    rw [fetched] at arriving
    dsimp only at arriving
    rcases ({ world with device := device }.log
        (.fed client slot byte)).feed_cases client byte with
      ⟨incomplete, _⟩ | ⟨complete, processed⟩
    · rw [if_neg (not_not.mpr incomplete)] at arriving
      contradiction
    · rw [if_pos complete] at arriving
      obtain ⟨rfl, rfl⟩ := Prod.mk.inj (Option.some.inj arriving)
      exact ⟨taken_spec work slot byte, ⟨slot, connected⟩,
        polled.trans processed⟩

/-- A round of the read loop that completes a PUBLISH message. -/
def polledPublish
    (surroundings : Surroundings Os)
    (broker : BrokerId)
    (client : ClientId)
    (middle : World StringIndexer Os)
    (mesg : MqttMessage)
    (program : Program Os) : Program Os :=
  let after :=
    { program with world := middle }.published surroundings broker client mesg
  { after with
    world :=
      after.world.modifyClient client fun record =>
        { record with message := record.message.reset } }

/-- A round of the read loop of somebody whom the broker polls. -/
inductive Polls
    (surroundings : Surroundings Os)
    (broker : BrokerId)
    (program : Program Os)
    (client : ClientId) : Prop where
  | published
      (middle : World StringIndexer Os)
      (mesg : MqttMessage)
      (arriving : program.world.arriving? client = some (middle, mesg))
      (isPublish : mesg.kind? = some .publish)
      (settles :
        Settles surroundings broker 3 program
          (fun callback => program.poll callback client)
          (program.polledPublish surroundings broker client middle mesg)
          (program.polledPublish surroundings broker client middle mesg)) :
      Polls surroundings broker program client
  | other
      (returns :
        ∀ callback,
          program.poll callback client =
            some { program with world := (program.world.poll client).2 })
      (notPublish :
        ∀ middle mesg,
          program.world.arriving? client = some (middle, mesg) →
            mesg.kind? ≠ some .publish) :
      Polls surroundings broker program client

/-- It completes a PUBLISH message, or is a round of the broker alone. -/
theorem polls
    (attentive : Attentive broker program.mqttClient 3 program.world)
    (polled : program.world.Polled broker client) :
    Polls surroundings broker program client := by
  cases arriving : program.world.arriving? client with
  | none =>
      refine .other ?_ ?_
      · intro callback
        unfold poll
        rw [arriving]
      · intro middle mesg arrived
        rw [arriving] at arrived
        contradiction
  | some arrived =>
      obtain ⟨middle, mesg⟩ := arrived
      obtain ⟨⟨books, kept, uncalled⟩, ⟨slot, connected⟩, result⟩ :=
        arriving_spec arriving
      have follows : Follows broker 3 program.world middle :=
        .of_kept (books.roomy (Nat.zero_le 3)) kept
      have attached :
          (middle.clients client).parent = some broker := by
        rw [kept.parent]
        rcases polled with member | isUpstream
        · exact attentive.linked.memberParent client member
        · rw [attentive.noUpstream] at isUpstream
          contradiction
      have isRemote : (middle.clients client).client = true :=
        (kept.client client).trans
          (attentive.linked.remote client slot connected)
      by_cases isPublish : mesg.kind? = some .publish
      · have settles :=
          @processMessage_settles _ _ surroundings broker
            { program with world := middle } client mesg
            (attentive.later follows) attached isRemote isPublish
        refine .published middle mesg arriving isPublish
          ⟨(follows.trans settles.follows).trans
            (.modifyMessage _ client MqttMessage.reset),
            settles.mqttClient,
            ((Unheard.of_uncalled uncalled).thenHears rfl
              settles.hears).thenNothing (.of_uncalled (.refl _)), ?_⟩
        intro callback answers
        unfold poll
        rw [arriving]
        dsimp only
        rw [settles.returns callback answers]
        rfl
      · refine .other ?_ ?_
        · intro callback
          unfold poll
          rw [arriving, result]
          dsimp only
          rw [processMessage_other callback isPublish]
          rfl
        · intro middle' mesg' arrived
          rw [arriving] at arrived
          obtain ⟨_, rfl⟩ := Prod.mk.inj (Option.some.inj arrived)
          exact isPublish

/-- A round that completes no message only takes in a byte. -/
theorem silent_spec
    {world : World StringIndexer Os}
    (silent : world.arriving? client = none) :
    KeepsBooks 0 world (world.poll client).2 ∧
      LinksKept world (world.poll client).2 ∧
        Uncalled world (world.poll client).2 := by
  obtain ⟨device, work, ⟨_, result⟩ |
    ⟨slot, byte, _, fetched, polled⟩⟩ := world.poll_fetch client
  · rw [result]
    exact ⟨.device world device, .device world device,
      Uncalled.sessionWork world work⟩
  · unfold arriving? at silent
    rw [fetched] at silent
    dsimp only at silent
    rcases ({ world with device := device }.log
        (.fed client slot byte)).feed_cases client byte with
      ⟨_, taken⟩ | ⟨complete, _⟩
    · rw [polled, taken]
      exact taken_spec work slot byte
    · rw [if_pos complete] at silent
      contradiction

/-- What a message that is not a publication leaves as it was. -/
structure Private
    (actor : ClientId)
    (before after : World StringIndexer Os) : Prop where
  client : ∀ client,
    (after.clients client).client = (before.clients client).client
  subscriptions : ∀ other ≠ actor,
    (after.clients other).subscriptions =
      (before.clients other).subscriptions
  members : ∀ broker, after.members broker ⊆ before.members broker
  upstream : ∀ broker,
    (after.brokers broker).broker = (before.brokers broker).broker
  next : after.next = before.next
  uncalled : Uncalled before after

/-- A round without publication is about its client. -/
theorem poll_private
    {world : World StringIndexer Os}
    (active : world.Active client)
    (notPublish :
      ∀ middle mesg,
        world.arriving? client = some (middle, mesg) →
          mesg.kind? ≠ some .publish) :
    Private client world (world.poll client).2 := by
  cases arriving : world.arriving? client with
  | none =>
      obtain ⟨books, kept, uncalled⟩ := silent_spec arriving
      refine ⟨kept.client, fun other _ => books.subscriptions other, ?_,
        fun broker => by rw [kept.brokers], kept.next, uncalled⟩
      intro broker
      unfold members
      rw [kept.brokers]
      exact List.Subset.refl _
  | some arrived =>
      obtain ⟨middle, mesg⟩ := arrived
      obtain ⟨⟨books, kept, uncalled⟩, _, result⟩ := arriving_spec arriving
      have processed :
          Changes (fun _ _ => True) (fun actor => actor = client) middle
            (middle.processMessage client mesg) := by
        refine processMessageWith_changes rfl (active.kept kept) ?_
          fun _ _ _ => trivial
        intro _ _ _ isPublish
        exact absurd isPublish (notPublish middle mesg arriving)
      have changes :
          Changes (fun _ _ => True) (fun actor => actor = client) middle
            (world.poll client).2 := by
        rw [result]
        exact processed.snoc rfl
          (.record _ (keepsLogin_message MqttMessage.reset))
      constructor
      case client =>
        exact fun other => (changes.client other).trans (kept.client other)
      case subscriptions =>
        intro other distinct
        rw [changes.other distinct]
        exact books.subscriptions other
      case members =>
        intro broker
        have later := changes.members broker
        unfold members at later ⊢
        rw [kept.brokers] at later
        exact later
      case upstream =>
        intro broker
        rw [changes.upstream, kept.brokers]
      case next => exact changes.next.trans kept.next
      case uncalled =>
        rw [result]
        exact uncalled.trans
          (Uncalled.processMessage (notPublish middle mesg arriving))

end Program

end SimpleTlsBroker
