import SimpleTlsBroker.Firmware

namespace SimpleTlsBroker

/-!
# What the application publishes

The table of topics may give the name of an announcement to a longer one that a
peer has chosen, but never to a command: no announcement is the beginning of a
command.  So what the application publishes does not come back to it, and
`MQTTpublish` does not get to the callback.
-/

/-- The names that the application subscribes to. -/
def commandNames : List (List Byte) :=
  Program.commandTopics.map ascii

/-- The names that the application publishes under. -/
def Notice.topics : List String :=
  ["r2d-fx/connected", "r2d-fx/info", "r2d-fx/event/state", "tts/speak"]

/-- There are no others. -/
theorem Notice.topic_mem (notice : Notice) :
    notice.topic ∈ Notice.topics := by
  cases notice <;> simp [Notice.topic, Notice.topics]

/-- An announcement is not the beginning of a command. -/
theorem Notice.not_begins
    (notice : Notice)
    {name : List Byte}
    (isCommand : name ∈ commandNames) :
    ¬ ascii notice.topic <+: name := by
  have apart :
      ∀ topic ∈ Notice.topics, ∀ name ∈ commandNames,
        ¬ ascii topic <+: name := by
    decide
  exact apart notice.topic notice.topic_mem name isCommand

/-- An announcement has no NUL. -/
theorem Notice.noNul (notice : Notice) : 0 ∉ ascii notice.topic := by
  have noNul : ∀ topic ∈ Notice.topics, 0 ∉ ascii topic := by decide
  exact noNul notice.topic notice.topic_mem

/-- It is short. -/
theorem Notice.short (notice : Notice) :
    (ascii notice.topic).length ≤ 255 := by
  have short : ∀ topic ∈ Notice.topics, (ascii topic).length ≤ 255 := by
    decide
  exact short notice.topic notice.topic_mem

/-- The index of a name has a string that begins with it, or there is none. -/
theorem StringIndexer.begins_strToIndex
    {indexer : StringIndexer}
    {name : List Byte}
    (unindexed : indexer.strings 0 = none)
    (noNul : 0 ∉ name)
    (short : name.length ≤ 255) :
    name <+: (indexer.strToIndex name).2.str (indexer.strToIndex name).1 ∨
      (indexer.strToIndex name).2.str (indexer.strToIndex name).1 = [] := by
  have whole := Topic.cut_eq_self short
  cases looked : indexer.lookup? name with
  | some index =>
      obtain ⟨_, ⟨counter, found, begins⟩, _⟩ :=
        (lookup?_eq_some_iff noNul).mp looked
      have isStr : indexer.str ⟨index⟩ = counter.str := str_of_entry found
      rw [strToIndex_of_lookup? (by rwa [whole]), str_of_use, isStr]
      exact .inl begins
  | none =>
      cases free : indexer.free? with
      | some index =>
          have isNew :=
            entry_set indexer ⟨index⟩ (some ⟨name, 1⟩)
          rw [strToIndex_of_free? (by rwa [whole]) free, whole,
            str_of_entry isNew]
          exact .inl (List.prefix_refl name)
      | none =>
          rw [strToIndex_of_full (by rwa [whole]) free]
          exact .inr (Balanced.str_unindexed unindexed rfl)

open History

namespace World

variable {Os : Type}
variable {broker : BrokerId}
variable {app client : ClientId}
variable {topic : Topic}
variable {room : Nat}
variable {before middle after world : World StringIndexer Os}

/-! ## Calls -/

/-- No callback was called. -/
abbrev Uncalled (before after : World StringIndexer Os) : Prop :=
  Grown (fun event => event.callbackCall? = none) before.trace after.trace

/-- Then the calls are the same as before. -/
theorem Uncalled.calls (uncalled : Uncalled before after) :
    after.trace.callbackCalls = before.trace.callbackCalls := by
  obtain ⟨since, grown, silent⟩ := uncalled
  have none : since.filterMap Event.callbackCall? = [] :=
    List.filterMap_eq_nil_iff.mpr silent
  unfold Trace.callbackCalls
  rw [grown, List.filterMap_append, none, List.nil_append]

/-- A call is one more. -/
theorem calls_log
    (world : World StringIndexer Os)
    (event : Event) :
    (world.log event).trace.callbackCalls =
      world.trace.callbackCalls ++ event.callbackCall?.toList := by
  unfold Trace.callbackCalls
  rw [trace_log, List.filterMap_cons]
  cases event.callbackCall? with
  | none => exact (List.append_nil _).symm
  | some call => exact List.reverse_cons

/-- Writing to a session calls nobody. -/
theorem Uncalled.writeClient
    [Platform Os]
    (world : World StringIndexer Os)
    (client : ClientId)
    (bytes : List Byte) :
    Uncalled world (world.writeClient client bytes) := by
  cases connected : (world.clients client).connection with
  | none =>
      rw [writeClient_unconnected connected]
      exact .refl _
  | some slot =>
      simp only [Uncalled, trace, World.writeClient, connected]
      refine (world.device.trace_writeData slot bytes).weaken ?_
      intro event onSession
      cases event with
      | callback _ _ _ => exact onSession.elim
      | _ => rfl

/-- Sending a message calls nobody. -/
theorem Uncalled.sendTo
    [Platform Os]
    (world : World StringIndexer Os)
    (message : MqttMessage)
    (client : ClientId) :
    Uncalled world (world.sendTo message client).2 := by
  have noted (bytes : List Byte) :
      Uncalled world (world.log (.sentTo client bytes)) :=
    .single rfl
  unfold World.sendTo
  split
  · exact (noted _).trans (Uncalled.writeClient _ client _)
  · exact .refl _

/-- Only the device is different, and nobody was called. -/
structure Sends (before after : World StringIndexer Os) : Prop where
  onDevice : after = { before with device := after.device }
  uncalled : Uncalled before after

namespace Sends

theorem refl (world : World StringIndexer Os) : Sends world world :=
  ⟨rfl, .refl _⟩

theorem trans
    (first : Sends before middle)
    (second : Sends middle after) :
    Sends before after where
  onDevice := by
    rw [second.onDevice, first.onDevice]
  uncalled := first.uncalled.trans second.uncalled

/-- Sending a message. -/
theorem sendTo
    [Platform Os]
    (world : World StringIndexer Os)
    (message : MqttMessage)
    (client : ClientId) :
    Sends world (world.sendTo message client).2 where
  onDevice := by
    unfold World.sendTo
    split <;> rfl
  uncalled := Uncalled.sendTo world message client

end Sends

/-! ## What a publication leaves as it was -/

/-- The books are kept, and so is who is local and who is networked. -/
structure Follows
    (broker : BrokerId)
    (room : Nat)
    (before after : World StringIndexer Os) : Prop where
  books : KeepsBooks room before after
  linked : Linked broker before → Linked broker after
  client : ∀ client,
    (after.clients client).client = (before.clients client).client
  members : after.members broker ⊆ before.members broker
  upstream : (after.brokers broker).broker = (before.brokers broker).broker

/--
The application is the only local client, and the names of its topics are those
of the commands.
-/
structure Attentive
    (broker : BrokerId)
    (app : ClientId)
    (room : Nat)
    (world : World StringIndexer Os) : Prop where
  linked : Linked broker world
  noUpstream : (world.brokers broker).broker = none
  isLocal : (world.clients app).client = false
  remote :
    ∀ client ∈ world.members broker, client ≠ app →
      (world.clients client).client = true
  commands :
    ∀ topic ∈ (world.clients app).subscriptions,
      world.indexer.str topic ∈ commandNames
  booked :
    ∃ held, world.Booked held ∧ ∀ topic, held topic + room ≤ 255

namespace Follows

/-- What keeps the links follows. -/
theorem of_kept
    (books : KeepsBooks room before after)
    (kept : LinksKept before after) :
    Follows broker room before after where
  books := books
  linked linked := linked.kept kept
  client := kept.client
  members := by
    unfold World.members
    rw [kept.brokers]
    exact List.Subset.refl _
  upstream := by rw [kept.brokers]

theorem refl (world : World StringIndexer Os) :
    Follows broker room world world :=
  .of_kept (.refl world) (.refl world)

theorem trans
    (first : Follows broker room before middle)
    (second : Follows broker room middle after) :
    Follows broker room before after where
  books := first.books.trans second.books
  linked linked := second.linked (first.linked linked)
  client client := (second.client client).trans (first.client client)
  members := List.Subset.trans second.members first.members
  upstream := second.upstream.trans first.upstream

/-- Less room is enough. -/
theorem roomy
    {more : Nat}
    (follows : Follows broker room before after)
    (enough : room ≤ more) :
    Follows broker more before after where
  books := follows.books.roomy enough
  linked := follows.linked
  client := follows.client
  members := follows.members
  upstream := follows.upstream

/-- Logging an event. -/
theorem log
    (world : World StringIndexer Os)
    (event : Event) :
    Follows broker room world (world.log event) :=
  .of_kept (.log world event) (.log world event)

/-- Work on the device. -/
theorem device
    (world : World StringIndexer Os)
    (device : Device Os) :
    Follows broker room world { world with device := device } :=
  .of_kept (.device world device) (.device world device)

/-- Constructing a topic, working with it, and destroying it. -/
theorem temporary
    (name : List Byte)
    (work : Follows broker room (before.internTopic name).2 middle) :
    Follows broker (room + 1) before
      (middle.releaseTopic (before.internTopic name).1) where
  books := .temporary name work.books rfl
  linked linked :=
    (work.linked (linked.kept (.indexer before _))).kept (.indexer middle _)
  client := work.client
  members := work.members
  upstream := work.upstream

end Follows

namespace Attentive

/-- A state that follows an attentive one. -/
theorem later
    (attentive : Attentive broker app room before)
    (follows : Follows broker room before after) :
    Attentive broker app room after where
  linked := follows.linked attentive.linked
  noUpstream := follows.upstream.trans attentive.noUpstream
  isLocal := (follows.client app).trans attentive.isLocal
  remote client member distinct :=
    (follows.client client).trans
      (attentive.remote client (follows.members member) distinct)
  commands topic member := by
    obtain ⟨held, booked, fits⟩ := attentive.booked
    rw [follows.books.subscriptions] at member
    have kept := (follows.books.books held booked fits).2 topic
      (booked.subscribed app topic member)
    rw [show after.indexer.str topic = before.indexer.str topic from kept]
    exact attentive.commands topic member
  booked := by
    obtain ⟨held, booked, fits⟩ := attentive.booked
    exact ⟨held, follows.books.booked booked fits, fits⟩

/-- While a topic is held there is room for one holder less. -/
theorem internTopic
    (attentive : Attentive broker app (room + 1) world)
    (name : List Byte) :
    Attentive broker app room (world.internTopic name).2 where
  linked := attentive.linked.kept (.indexer world _)
  noUpstream := attentive.noUpstream
  isLocal := attentive.isLocal
  remote := attentive.remote
  commands topic member := by
    obtain ⟨held, booked, fits⟩ := attentive.booked
    have interned :=
      booked.balanced.strToIndex
        (fun topic => by have fitsHere := fits topic; omega) name
    have kept :=
      interned.2 topic (booked.subscribed app topic member)
    rw [show (world.internTopic name).2.indexer.str topic =
      world.indexer.str topic from kept]
    exact attentive.commands topic member
  booked := by
    obtain ⟨held, booked, fits⟩ := attentive.booked
    have interned :=
      booked.balanced.strToIndex
        (fun topic => by have fitsHere := fits topic; omega) name
    refine ⟨more held (world.internTopic name).1,
      ⟨interned.1, fun client topic member =>
        more_pos (booked.subscribed client topic member) _⟩, ?_⟩
    intro topic
    have fitsHere := fits topic
    by_cases same : topic = (world.internTopic name).1
    · subst same
      simp only [more, Function.update_self]
      omega
    · simp only [more, Function.update_of_ne same]
      omega

/-- The application is not subscribed to what it publishes. -/
theorem deaf
    (attentive : Attentive broker app (room + 1) world)
    (notice : Notice) :
    (world.internTopic (ascii notice.topic)).2.isSubscribedTo app
      (world.internTopic (ascii notice.topic)).1 = false := by
  apply Bool.eq_false_of_not_eq_true
  rw [isSubscribedTo_iff]
  rintro ⟨topic, member, sameStr⟩
  obtain ⟨held, booked, _⟩ := attentive.booked
  have isCommand :=
    (attentive.internTopic (ascii notice.topic)).commands topic member
  rw [show (world.internTopic (ascii notice.topic)).2.indexer.str topic =
      (world.indexer.strToIndex (ascii notice.topic)).2.str
        (world.indexer.strToIndex (ascii notice.topic)).1 from sameStr]
    at isCommand
  rcases StringIndexer.begins_strToIndex booked.balanced.unindexed
      notice.noNul notice.short with begins | isEmpty
  · exact notice.not_begins isCommand begins
  · rw [isEmpty] at isCommand
    revert isCommand
    decide

end Attentive

end World

/-! ## Publications that nobody but peers gets -/

namespace Program

variable {Os : Type} [Platform Os]
variable {broker : BrokerId}
variable {app : ClientId}
variable {room : Nat}
variable {program : Program Os}
variable {topic : Topic}
variable {msg : MqttMessage}

/-- All who are subscribed are networked. -/
def OnlyPeers
    (world : World StringIndexer Os)
    (topic : Topic)
    (clients : List ClientId) : Prop :=
  ∀ client ∈ clients, world.isSubscribedTo client topic = true →
    (world.clients client).client = true

/-- Without upstream broker a round is one delivery. -/
theorem publishStep_eq
    (callback : Callback Os)
    (noUpstream : (program.world.brokers broker).broker = none)
    (source : ClientId)
    (retval : MqttError)
    (client : ClientId) :
    publishStep callback broker source topic ((retval, msg), program) client =
      program.publishIfSubscribed callback client topic msg := by
  unfold publishStep
  dsimp only
  rw [noUpstream]

/-- A delivery to a peer changes the device, and calls nobody. -/
theorem publishIfSubscribed_peer
    (callback : Callback Os)
    {client : ClientId}
    (isPeer :
      program.world.isSubscribedTo client topic = true →
        (program.world.clients client).client = true) :
    World.Sends program.world
        (program.world.publishIfSubscribed client topic msg).2 ∧
      program.publishIfSubscribed callback client topic msg =
          some
            ((program.world.publishIfSubscribed client topic msg).1,
              { program with
                world :=
                  (program.world.publishIfSubscribed client topic msg).2 }) := by
  unfold publishIfSubscribed World.publishIfSubscribed
  by_cases subscribed : program.world.isSubscribedTo client topic = true
  · rw [if_pos subscribed, if_pos subscribed, if_pos (isPeer subscribed),
      if_pos (isPeer subscribed)]
    exact ⟨.sendTo program.world msg client, rfl⟩
  · rw [if_neg subscribed, if_neg subscribed]
    exact ⟨.refl program.world, rfl⟩

omit [Platform Os] in
/-- What is sent leaves the peers as they are. -/
theorem OnlyPeers.sends
    {before after : World StringIndexer Os}
    {clients : List ClientId}
    (onlyPeers : OnlyPeers before topic clients)
    (sends : World.Sends before after) :
    OnlyPeers after topic clients := by
  rw [sends.onDevice]
  exact onlyPeers

/-- A publication to peers is that of the broker alone. -/
theorem publish_peers
    (callback : Callback Os)
    (noUpstream : (program.world.brokers broker).broker = none)
    (onlyPeers :
      OnlyPeers program.world topic (program.world.members broker))
    (source : ClientId) :
    World.Sends program.world
        (program.world.publish broker source topic msg).2 ∧
      program.publish callback broker source topic msg =
        some
          ((program.world.publish broker source topic msg).1,
            { program with
              world :=
                (program.world.publish broker source topic msg).2 }) := by
  have loop
      (clients : List ClientId)
      (program : Program Os)
      (noUpstream : (program.world.brokers broker).broker = none)
      (onlyPeers : OnlyPeers program.world topic clients)
      (sent : MqttError × MqttMessage) :
      World.Sends program.world
          (clients.foldl (World.publishStep broker source topic)
            (sent, program.world)).2 ∧
        clients.foldlM (publishStep callback broker source topic)
            (sent, program) =
          some
            ((clients.foldl (World.publishStep broker source topic)
                (sent, program.world)).1,
              { program with
                world :=
                  (clients.foldl (World.publishStep broker source topic)
                    (sent, program.world)).2 }) := by
    induction clients generalizing program sent with
    | nil => exact ⟨.refl program.world, rfl⟩
    | cons client rest inductionHypothesis =>
        obtain ⟨retval, msg⟩ := sent
        obtain ⟨sends, delivered⟩ :=
          @publishIfSubscribed_peer _ _ program topic msg callback client
            (onlyPeers client List.mem_cons_self)
        have broadcast :
            World.publishStep broker source topic
                ((retval, msg), program.world) client =
              program.world.publishIfSubscribed client topic msg := by
          unfold World.publishStep
          dsimp only
          rw [noUpstream]
        have restPeers : OnlyPeers program.world topic rest :=
          fun other inRest => onlyPeers other (List.mem_cons_of_mem _ inRest)
        have sameBrokers := congrArg World.brokers sends.onDevice
        rw [List.foldlM_cons, List.foldl_cons, broadcast,
          publishStep_eq callback noUpstream, delivered]
        obtain ⟨later, returned⟩ :=
          inductionHypothesis
            { program with
              world :=
                (program.world.publishIfSubscribed client topic msg).2 }
            (by rw [sameBrokers]; exact noUpstream)
            (restPeers.sends sends)
            (program.world.publishIfSubscribed client topic msg).1
        exact ⟨sends.trans later, returned⟩
  exact loop (program.world.members broker) program noUpstream onlyPeers
    (.ok, msg)

/-! ## `MQTTpublish` -/

/-- `MQTTpublish`, as far as it is about the broker. -/
def announce
    (surroundings : Surroundings Os)
    (client : ClientId)
    (world : World StringIndexer Os)
    (notice : Notice) : World StringIndexer Os :=
  let (topic, world) := world.internTopic (ascii notice.topic)
  (world.publishBuilt client topic
    (cString (surroundings.text notice))).2.releaseTopic topic

open World

omit [Platform Os] in
/-- Only peers are subscribed to what the application publishes. -/
theorem onlyPeers_announce
    (attentive : Attentive broker app (room + 1) program.world)
    (notice : Notice) :
    OnlyPeers (program.world.internTopic (ascii notice.topic)).2
      (program.world.internTopic (ascii notice.topic)).1
      (program.world.members broker) := by
  intro client member subscribed
  apply attentive.remote client member
  rintro rfl
  rw [attentive.deaf notice] at subscribed
  contradiction

/-- What a local client publishes to peers changes the device. -/
theorem clientPublish_peers
    (callback : Callback Os)
    (linked : Linked broker program.world)
    (noUpstream : (program.world.brokers broker).broker = none)
    (isLocal : (program.world.clients app).client = false)
    (onlyPeers :
      OnlyPeers program.world topic (program.world.members broker))
    (payload : List Byte) :
    Sends program.world (program.world.publishBuilt app topic payload).2 ∧
      program.clientPublish callback app topic payload =
        some
          ((program.world.publishBuilt app topic payload).1,
            { program with
              world :=
                (program.world.publishBuilt app topic payload).2 }) := by
  unfold clientPublish World.publishBuilt
  dsimp only
  cases attached : (program.world.clients app).parent with
  | none =>
      rw [isLocal]
      exact ⟨.refl program.world, rfl⟩
  | some parent =>
      obtain rfl := linked.parentBroker app parent attached
      obtain ⟨sends, published⟩ :=
        @publish_peers _ _ _ program topic
          (publishMessage (program.world.indexer.str topic) payload) callback
          noUpstream onlyPeers app
      refine ⟨sends, ?_⟩
      dsimp only
      rw [published]
      rfl

/-- `MQTTpublish` returns without a call of the callback. -/
theorem mqttPublish_eq
    (attentive :
      Attentive broker program.mqttClient (room + 1) program.world)
    (surroundings : Surroundings Os)
    (callback : Callback Os)
    (notice : Notice) :
    (Follows broker 1 program.world
          (announce surroundings program.mqttClient program.world notice) ∧
        Uncalled program.world
          (announce surroundings program.mqttClient program.world notice)) ∧
      program.mqttPublish surroundings callback notice =
        some
          { program with
            world :=
              announce surroundings program.mqttClient program.world notice
            lift := program.lift.publish notice } := by
  have named := attentive.internTopic (ascii notice.topic)
  obtain ⟨sends, published⟩ :=
    @clientPublish_peers _ _ broker program.mqttClient
      { program with
        world := (program.world.internTopic (ascii notice.topic)).2
        lift := program.lift.publish notice }
      (program.world.internTopic (ascii notice.topic)).1 callback
      named.linked named.noUpstream named.isLocal
      (onlyPeers_announce attentive notice)
      (cString (surroundings.text notice))
  refine ⟨⟨?_, sends.uncalled⟩, ?_⟩
  · unfold announce
    dsimp only at sends ⊢
    rw [sends.onDevice]
    exact .temporary _ (.device _ _)
  · unfold mqttPublish announce
    dsimp only at published ⊢
    rw [published]
    rfl

/-- Announcements, one after the other. -/
theorem follows_announce
    (surroundings : Surroundings Os)
    (sent : List Notice)
    (attentive :
      Attentive broker program.mqttClient (room + 1) program.world) :
    Follows broker 1 program.world
        (sent.foldl (announce surroundings program.mqttClient)
          program.world) ∧
      Uncalled program.world
        (sent.foldl (announce surroundings program.mqttClient)
          program.world) := by
  induction sent generalizing program with
  | nil => exact ⟨.refl _, .refl _⟩
  | cons notice rest inductionHypothesis =>
      obtain ⟨first, uncalled⟩ :=
        (mqttPublish_eq attentive surroundings
          (fun _ _ _ program => some program) notice).1
      obtain ⟨later, uncalledLater⟩ :=
        @inductionHypothesis
          { program with
            world :=
              announce surroundings program.mqttClient program.world notice }
          (attentive.later (first.roomy (Nat.le_add_left 1 room)))
      exact ⟨first.trans later, uncalled.trans uncalledLater⟩

/-! ## The functions of the application in the program -/

/-- The program when a function of the application leaves the lift so. -/
def said
    (surroundings : Surroundings Os)
    (program : Program Os)
    (lift : Lift) : Program Os :=
  { program with
    world :=
      (lift.notices.drop program.lift.notices.length).foldl
        (announce surroundings program.mqttClient) program.world
    lift := lift }

/-- The lift, and the announcements since a state. -/
def SaidSince
    (surroundings : Surroundings Os)
    (start program : Program Os) : Prop :=
  program = start.said surroundings program.lift ∧
    ∃ sent, program.lift.notices = start.lift.notices ++ sent

/-- In the program `MQTTpublish` leaves the lift alone. -/
theorem steady_host
    (attentive :
      Attentive broker program.mqttClient (room + 1) program.world)
    (surroundings : Surroundings Os)
    (callback : Callback Os) :
    (host surroundings callback).Steady
      (SaidSince surroundings program) where
  stored _ _ := rfl
  modify state change isGood silent := by
    obtain ⟨isSaid, sent, isSent⟩ := isGood
    have same := silent state.lift
    refine ⟨?_, sent, same.trans isSent⟩
    change
      { state with lift := change state.lift } =
        program.said surroundings (change state.lift)
    unfold said at isSaid ⊢
    rw [same, isSaid]
  publish state notice isGood := by
    obtain ⟨isSaid, sent, isSent⟩ := isGood
    have isClient := congrArg Program.mqttClient isSaid
    change state.mqttClient = program.mqttClient at isClient
    have sameHistory := congrArg Program.history isSaid
    change state.history = program.history at sameHistory
    have isWorld :
        state.world =
          sent.foldl (announce surroundings program.mqttClient)
            program.world := by
      have world := congrArg Program.world isSaid
      unfold said at world
      rw [isSent, List.drop_left] at world
      exact world
    have later :
        Attentive broker state.mqttClient (room + 1) state.world := by
      rw [isClient, isWorld]
      exact attentive.later
        ((follows_announce surroundings sent attentive).1.roomy
          (Nat.le_add_left 1 room))
    refine ⟨_, (mqttPublish_eq later surroundings callback notice).2, ?_,
      rfl⟩
    have isPublished :
        (state.lift.publish notice).notices =
          program.lift.notices ++ (sent ++ [notice]) := by
      unfold Lift.publish
      rw [Lift.notices_log, isSent, List.append_assoc]
      rfl
    refine ⟨?_, _, isPublished⟩
    unfold said
    dsimp only
    rw [isPublished, List.drop_left, List.foldl_append, ← isWorld, isClient,
      sameHistory]
    rfl

/-- At its start nothing was said. -/
theorem saidSince_start
    (surroundings : Surroundings Os)
    (program : Program Os) :
    SaidSince surroundings program program := by
  refine ⟨?_, [], (List.append_nil _).symm⟩
  unfold said
  rw [List.drop_length]
  rfl

/-- The callback returns if it may be called at all. -/
theorem callback_eq
    (attentive :
      Attentive broker program.mqttClient (room + 1) program.world)
    (surroundings : Surroundings Os)
    (fuel : Nat)
    (client : ClientId)
    (topic : Topic)
    (payload : List Byte) :
    let now := program.world.device.millis
    let delivery := program.delivery surroundings topic payload
    callback surroundings (fuel + 1) client topic payload program =
      some
        ((program.note (.mqttCallback now topic delivery)).said surroundings
          ((LiftStep.message delivery).apply surroundings.sscanf now
            program.lift)) := by
  let noted :=
    program.note
      (.mqttCallback program.world.device.millis topic
        (program.delivery surroundings topic payload))
  obtain ⟨after, returned, isSaid, isLift⟩ :=
    (@steady_host _ _ _ _ noted attentive surroundings
      (callback surroundings fuel)).mqttCallback
        (saidSince_start surroundings noted) surroundings.sscanf
        (surroundings.stack program) (surroundings.h program)
        (program.world.indexer.str topic) payload
        program.world.device.millis
  have isLift : after.lift = _ := isLift
  rw [isSaid.1, isLift] at returned
  exact returned

/-- So does `loop_Client`, whether or not the callback may be called. -/
theorem loopClient_eq
    (attentive :
      Attentive broker program.mqttClient (room + 1) program.world)
    (surroundings : Surroundings Os)
    (callback : Callback Os) :
    let now := program.world.device.millis
    program.loopClient surroundings callback =
      some
        ((program.note (.loopClient now)).said surroundings
          (program.lift.loopClient now)) := by
  let noted := program.note (.loopClient program.world.device.millis)
  obtain ⟨after, returned, isSaid, isLift⟩ :=
    (@steady_host _ _ _ _ noted attentive surroundings callback).loopClient
      (saidSince_start surroundings noted) program.world.device.millis
  have isLift : after.lift = _ := isLift
  rw [isSaid.1, isLift] at returned
  exact returned

/-- What the application says keeps the books and calls nobody. -/
theorem follows_said
    (attentive :
      Attentive broker program.mqttClient (room + 1) program.world)
    (surroundings : Surroundings Os)
    (lift : Lift) :
    Follows broker 1 program.world
        (program.said surroundings lift).world ∧
      Uncalled program.world (program.said surroundings lift).world :=
  follows_announce surroundings _ attentive

end Program

end SimpleTlsBroker
