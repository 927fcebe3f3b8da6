import SimpleTlsBroker.Loop

namespace SimpleTlsBroker

/-!
# What processing a message can do

`Activity` lists once what the cases of `processMessage` do to the world
before the message is finished; every invariant of a run is derived from it,
and no later proof unfolds the dispatcher again.
-/

/-- A change of a client that keeps its broker, its kind and its session. -/
structure KeepsLinks (change : MqttClient → MqttClient) : Prop where
  parent : ∀ record, (change record).parent = record.parent
  client : ∀ record, (change record).client = record.client
  connection : ∀ record, (change record).connection = record.connection

/-- A change that does not make a client connected either. -/
structure KeepsLogin (change : MqttClient → MqttClient) : Prop
    extends KeepsLinks change where
  mqttConnected :
    ∀ record, (change record).mqttConnected = true →
      record.mqttConnected = true

/-- A change that leaves the message being received alone as well. -/
structure KeepsReception (change : MqttClient → MqttClient) : Prop
    extends KeepsLogin change where
  message : ∀ record, (change record).message = record.message

/-- The message being received says nothing about links and login. -/
theorem keepsLogin_message (change : MqttMessage → MqttMessage) :
    KeepsLogin fun record =>
      { record with message := change record.message } :=
  ⟨⟨fun _ => rfl, fun _ => rfl, fun _ => rfl⟩, fun _ connected => connected⟩

/-- The subscriptions say nothing about reception either. -/
theorem keepsReception_subscriptions (change : TopicSet → TopicSet) :
    KeepsReception fun record =>
      { record with subscriptions := change record.subscriptions } :=
  ⟨⟨⟨fun _ => rfl, fun _ => rfl, fun _ => rfl⟩,
    fun _ connected => connected⟩, fun _ => rfl⟩

/-- Nor does the keep-alive time. -/
theorem keepsReception_keepAlive (keepAlive : Nat) :
    KeepsReception fun record => { record with keepAlive := keepAlive } :=
  ⟨⟨⟨fun _ => rfl, fun _ => rfl, fun _ => rfl⟩,
    fun _ connected => connected⟩, fun _ => rfl⟩

/-- Nor does the callback. -/
theorem keepsReception_callback :
    KeepsReception fun record => { record with callback := true } :=
  ⟨⟨⟨fun _ => rfl, fun _ => rfl, fun _ => rfl⟩,
    fun _ connected => connected⟩, fun _ => rfl⟩

/-- The notes a client makes while it acts on a message. -/
def Event.IsReply (client : ClientId) : Event → Prop
  | .credentials other _ _ => other = client
  | .sentTo other _ => other = client
  | _ => False

/-- The notes a client makes about its own message. -/
def Event.IsNote (client : ClientId) (event : Event) : Prop :=
  (∃ mesg, event = .processed client mesg) ∨ event.IsReply client

namespace World

open MqttClient

variable {Index Os : Type} [Indexer Index] [Platform Os]

omit [Indexer Index] in
/-- Setting the deadline changes the record only. -/
theorem clientAlive_eq
    (world : World Index Os)
    (client : ClientId)
    (moreSeconds : Nat) :
    ∃ change, KeepsReception change ∧
      world.clientAlive client moreSeconds =
        world.modifyClient client change := by
  unfold clientAlive
  refine ⟨_, ?_, rfl⟩
  exact ⟨⟨⟨fun _ => rfl, fun _ => rfl, fun _ => rfl⟩,
    fun _ connected => connected⟩, fun _ => rfl⟩

/--
The results of the two credential checks with which a CONNECT message is
accepted: a check that was not called stands for an empty credential.
-/
def CredentialsPass
    (broker : MqttBroker)
    (user password : Option Bool) : Prop :=
  (user = some true ∨ user = none ∧ broker.authPassword 0 = 0) ∧
    (password = some true ∨ password = none ∧ broker.authUser 0 = 0)

/--
The steps of a client on one message, from the start of `processMessage` to
its last `if`.
-/
inductive Activity
    (forward :
      BrokerId → ClientId → Topic → MqttMessage →
        World Index Os → World Index Os)
    (client : ClientId)
    (mesg : MqttMessage)
    (start : World Index Os) : World Index Os → Prop where
  | start :
      Activity forward client mesg start start
  /-- Log a credential check or a message sent. -/
  | note
      {world : World Index Os}
      (event : Event)
      (isReply : event.IsReply client)
      (earlier : Activity forward client mesg start world) :
      Activity forward client mesg start (world.log event)
  /-- Change fields of the client that nobody else relies on. -/
  | record
      {world : World Index Os}
      (change : MqttClient → MqttClient)
      (keeps : KeepsReception change)
      (earlier : Activity forward client mesg start world) :
      Activity forward client mesg start (world.modifyClient client change)
  /-- Construct, copy or destroy topics. -/
  | topics
      {world : World Index Os}
      (indexer : Index)
      (earlier : Activity forward client mesg start world) :
      Activity forward client mesg start { world with indexer := indexer }
  /-- Write to the connection of the client. -/
  | write
      {world : World Index Os}
      (bytes : List Byte)
      (earlier : Activity forward client mesg start world) :
      Activity forward client mesg start (world.writeClient client bytes)
  /-- Accept a CONNECT message. -/
  | login
      {world : World Index Os}
      (parent : BrokerId)
      (user password : Option Bool)
      (isConnect : mesg.kind? = some .connect)
      (attached : (start.clients client).parent = some parent)
      (pass : CredentialsPass (start.brokers parent) user password)
      (first : world.trace = start.trace)
      (earlier : Activity forward client mesg start world) :
      Activity forward client mesg start
        ((world.log (.credentials client user password)).modifyClient client
          fun record => { record with mqttConnected := true })
  /-- Take a CONNACK message. -/
  | connAck
      {world : World Index Os}
      (isConnAck : mesg.kind? = some .connAck)
      (earlier : Activity forward client mesg start world) :
      Activity forward client mesg start
        (world.modifyClient client
          fun record => { record with mqttConnected := true })
  /-- Hand a PUBLISH message to the broker. -/
  | forward
      {world : World Index Os}
      (parent : BrokerId)
      (topic : Topic)
      (isPublish : mesg.kind? = some .publish)
      (attached : (start.clients client).parent = some parent)
      (isRemote : (start.clients client).client = true)
      (connected : (start.clients client).mqttConnected = true)
      (earlier : Activity forward client mesg start world) :
      Activity forward client mesg start
        (forward parent client topic mesg world)
  /-- Hand a PUBLISH message to the callback. -/
  | callback
      {world : World Index Os}
      (topic : Topic)
      (payload : List Byte)
      (isPublish : mesg.kind? = some .publish)
      (allowed :
        (start.clients client).mqttConnected = true ∨
          (start.clients client).client = false)
      (earlier : Activity forward client mesg start world) :
      Activity forward client mesg start
        (world.log (.callback client topic payload))

namespace Activity

variable
  {forward :
    BrokerId → ClientId → Topic → MqttMessage →
      World Index Os → World Index Os}
  {client : ClientId}
  {mesg : MqttMessage}
  {start world : World Index Os}

omit [Indexer Index] in
/-- Both branches of a condition are activities. -/
theorem choice
    {condition : Prop}
    [Decidable condition]
    {first second : World Index Os}
    (positive :
      condition → Activity forward client mesg start first)
    (negative :
      ¬ condition → Activity forward client mesg start second) :
    Activity forward client mesg start
      (if condition then first else second) := by
  by_cases holds : condition
  · rw [if_pos holds]
    exact positive holds
  · rw [if_neg holds]
    exact negative holds

omit [Indexer Index] in
/-- Sending to the own connection. -/
theorem send
    (earlier : Activity forward client mesg start world)
    (message : MqttMessage) :
    Activity forward client mesg start (world.sendOwn message client) := by
  unfold sendOwn sendTo
  split
  · exact .write _ (.note _ rfl earlier)
  · exact earlier

/-- `resubscribe` copies topics and sends one message. -/
theorem resubscribe
    (earlier : Activity forward client mesg start world) :
    Activity forward client mesg start (world.resubscribe client) := by
  unfold World.resubscribe
  exact .choice (fun _ => (earlier.topics _).send _) (fun _ => earlier)

/-- A round of the topic loop. -/
theorem filter
    (subscribe : Bool)
    (qoss : List Byte)
    (filter : List Byte × Byte)
    (earlier : Activity forward client mesg start world) :
    Activity forward client mesg start
      (processFilter subscribe client (qoss, world) filter).2 := by
  have keepsInsert (topic : Topic) :=
    keepsReception_subscriptions fun subscriptions =>
      subscriptions.insert topic
  have keepsErase (topic : Topic) :=
    keepsReception_subscriptions fun subscriptions =>
      subscriptions.erase topic
  unfold processFilter
  cases subscribe with
  | true =>
      simp only [internTopic, ↓reduceIte]
      refine (Activity.record _ (keepsInsert _) (.choice ?_ ?_)).topics _
      · exact fun _ => earlier.topics _
      · exact fun _ => (earlier.topics _).topics _
  | false =>
      simp only [internTopic, Bool.false_eq_true, ↓reduceIte]
      refine (Activity.record _ (keepsErase _) (.choice ?_ ?_)).topics _
      · exact fun _ => (earlier.topics _).topics _
      · exact fun _ => earlier.topics _

/-- The topic loop. -/
theorem filters
    (subscribe : Bool)
    (filters : List (List Byte × Byte))
    (qoss : List Byte)
    (earlier : Activity forward client mesg start world) :
    Activity forward client mesg start
      (filters.foldl (processFilter subscribe client) (qoss, world)).2 := by
  induction filters generalizing qoss world with
  | nil => exact earlier
  | cons first rest inductionHypothesis =>
      rw [List.foldl_cons]
      exact inductionHypothesis _ (earlier.filter subscribe qoss first)

end Activity

/-- A credential that passes was checked, or the other one is empty. -/
theorem parseCredential_passed
    {announced : Bool}
    {good other : CharPointer}
    {payload : Nat}
    {memory : Nat → Byte}
    (passed :
      ((parseCredential announced good other payload).run memory).passed =
        true) :
    ((parseCredential announced good other payload).run memory).result =
        some true ∨
      ((parseCredential announced good other payload).run memory).result =
          none ∧
        other 0 = 0 := by
  cases announced with
  | true =>
      left
      simpa [parseCredential] using passed
  | false =>
      right
      simpa [parseCredential] using passed

/-- A CONNECT message is accepted only with passing credentials. -/
theorem parseConnect_accepted
    {header : Nat}
    {broker : MqttBroker}
    {memory : Nat → Byte}
    {fields : ConnectFields}
    (parsed :
      (parseConnect header broker.authUser broker.authPassword).run memory =
        fields)
    (accepted : fields.accepted = true) :
    CredentialsPass broker fields.user fields.password := by
  subst parsed
  simp only [parseConnect, Parse.run_bind, Parse.run_ite, Parse.run_pure]
    at accepted ⊢
  split at accepted
  · rename_i named
    split at accepted
    · rename_i level
      simp only [named, level, ↓reduceIte, parseConnectPayload,
        Parse.run_bind, Parse.run_ite, Parse.run_pure] at accepted ⊢
      split at accepted
      · rename_i userPassed
        simp only [userPassed, ↓reduceIte]
        exact ⟨parseCredential_passed userPassed,
          parseCredential_passed accepted⟩
      · simp at accepted
    · simp at accepted
  · simp at accepted

/-- The DISCONNECT of a connected client closes it. -/
theorem processKind_disconnect
    (forward :
      BrokerId → ClientId → Topic → MqttMessage →
        World Index Os → World Index Os)
    {start : World Index Os}
    {client : ClientId}
    {mesg : MqttMessage}
    (isDisconnect : mesg.kind? = some .disconnect)
    (connected : (start.clients client).mqttConnected = true) :
    (start.processKind forward client mesg).1 = false ∧
      ∃ world, Activity forward client mesg start world ∧
        (start.processKind forward client mesg).2 = world.close client := by
  unfold processKind
  rw [isDisconnect]
  dsimp only
  unfold processDisconnect
  rw [if_pos connected]
  refine ⟨rfl, _, ?_, rfl⟩
  exact Activity.start.record _
    ⟨⟨⟨fun _ => rfl, fun _ => rfl, fun _ => rfl⟩,
      fun _ connected => by simp at connected⟩, fun _ => rfl⟩

/--
The switch of `processMessage`: either an activity that does not close the
client by itself, or the DISCONNECT of a connected client.
-/
theorem processKind_activity
    (forward :
      BrokerId → ClientId → Topic → MqttMessage →
        World Index Os → World Index Os)
    (start : World Index Os)
    (client : ClientId)
    (mesg : MqttMessage) :
    Activity forward client mesg start
        (start.processKind forward client mesg).2 ∨
      (start.processKind forward client mesg).1 = false ∧
        mesg.kind? = some .disconnect ∧
        ∃ world, Activity forward client mesg start world ∧
          (start.processKind forward client mesg).2 = world.close client := by
  unfold processKind
  split
  · -- CONNECT
    rename_i isConnect
    left
    unfold processConnect
    simp only
    split
    · exact .start
    · exact .start
    · rename_i parent _ attached
      have keeps (fields : ConnectFields) :
          KeepsReception fun record =>
            { record with
              mqttFlags := fields.mqttFlags
              keepAlive := fields.keepAlive
              clientId := fields.clientId.getD record.clientId } :=
        ⟨⟨⟨fun _ => rfl, fun _ => rfl, fun _ => rfl⟩,
          fun _ connected => connected⟩, fun _ => rfl⟩
      split
      · rename_i accepted
        exact (Activity.login parent _ _ isConnect attached
          (parseConnect_accepted rfl accepted) (by rfl)
          (Activity.start.record _ (keeps _))).send _
      · exact (Activity.start.record _ (keeps _)).note _ rfl
  · -- CONNACK
    rename_i isConnAck
    exact .inl (Activity.start.connAck isConnAck).resubscribe
  · exact .inl .start
  · exact .inl .start
  · exact .inl .start
  · exact .inl .start
  · -- PINGREQ
    left
    unfold processPingReq
    simp only
    split
    · exact .write _ .start
    · exact .start
  · -- SUBSCRIBE
    left
    unfold processSubscribe
    split
    · exact (Activity.start.filters true _ []).send _
    · exact .start
  · -- UNSUBSCRIBE
    left
    unfold processSubscribe
    split
    · exact (Activity.start.filters false _ []).send _
    · exact .start
  · -- PUBLISH
    rename_i isPublish
    left
    unfold processPublish
    simp only [internTopic]
    split
    · rename_i allowed
      refine Activity.topics _ ?_
      split
      · rename_i parent attached isRemote
        have connected : (start.clients client).mqttConnected = true := by
          simpa [isRemote] using allowed
        exact (Activity.start.topics _).forward parent _ isPublish attached
          isRemote connected
      · refine .choice (fun _ => ?_) (fun _ => Activity.start.topics _)
        exact (Activity.start.topics _).callback _ _ isPublish allowed
    · exact .start
  · -- DISCONNECT
    rename_i isDisconnect
    unfold processDisconnect
    split
    · rename_i connected
      obtain ⟨notClosed, world, activity, closed⟩ :=
        processKind_disconnect forward isDisconnect connected
      unfold processKind processDisconnect at notClosed closed
      rw [isDisconnect, if_pos connected] at notClosed closed
      exact .inr ⟨notClosed, isDisconnect, world, activity, closed⟩
    · exact .inl .start
  · exact .inl .start
  · exact .inl .start

/-- The fields of a CONNECT message let its client in. -/
def admits
    (world : World Index Os)
    (client : ClientId)
    (mesg : MqttMessage) : Bool :=
  match (world.clients client).parent with
  | some parent =>
      !(world.clients client).mqttConnected &&
        ((parseConnect mesg.vheader
            (world.brokers parent).authUser
            (world.brokers parent).authPassword).run
          (world.memory mesg)).accepted
  | none => false

/--
Processing the message calls `close`: a DISCONNECT message, or one that leaves
`bclose` set.
-/
def closes
    (world : World Index Os)
    (client : ClientId)
    (mesg : MqttMessage) : Bool :=
  let record := world.clients client
  match mesg.kind? with
  | some .connect => !world.admits client mesg
  | some .connAck | some .pingResp => false
  | some .subAck | some .pubAck | some .unSuback | some .subscribe
  | some .unSubscribe => !record.mqttConnected
  | some .pingReq => !(record.mqttConnected && record.client)
  | some .publish => !record.mqttConnected && record.client
  | some .disconnect | some .unknown | none => true

/-- The switch of `processMessage` leaves `bclose` set, but for a DISCONNECT. -/
theorem processKind_closes
    (forward :
      BrokerId → ClientId → Topic → MqttMessage →
        World Index Os → World Index Os)
    (start : World Index Os)
    (client : ClientId)
    (mesg : MqttMessage) :
    (start.processKind forward client mesg).1 =
      (start.closes client mesg &&
        !(mesg.kind? = some .disconnect ∧
          (start.clients client).mqttConnected)) := by
  unfold processKind closes
  cases kind : mesg.kind? with
  | none => rfl
  | some type =>
      cases connected : (start.clients client).mqttConnected <;>
        cases type
      case false.connect | true.connect =>
        unfold processConnect admits
        dsimp only
        rw [connected]
        cases (start.clients client).parent with
        | none => rfl
        | some parent =>
            dsimp only
            first
            | rfl
            | split <;> simp_all
      case false.publish | true.publish =>
        unfold processPublish
        cases isRemote : (start.clients client).client <;>
          simp [connected, isRemote]
      case false.pingReq | true.pingReq =>
        unfold processPingReq
        cases isRemote : (start.clients client).client <;>
          simp [connected, isRemote]
      all_goals
        simp [processConnAck, processAck, processSubscribe, processDisconnect,
          connected]

/-- A PUBLISH message that may be published does not close the client. -/
theorem processKind_publish
    (forward :
      BrokerId → ClientId → Topic → MqttMessage →
        World Index Os → World Index Os)
    (start : World Index Os)
    {client : ClientId}
    {mesg : MqttMessage}
    (isPublish : mesg.kind? = some .publish)
    (allowed :
      (start.clients client).mqttConnected = true ∨
        (start.clients client).client = false) :
    (start.processKind forward client mesg).1 = false := by
  simp [processKind, isPublish, processPublish, allowed]

/-- The three ways in which `processMessage` ends. -/
inductive Outcome
    (client : ClientId)
    (mesg : MqttMessage)
    (start world : World Index Os) : World Index Os → Prop where
  /-- An error closes the client. -/
  | rejected
      (notAllowed :
        mesg.kind? = some .publish →
          (start.clients client).mqttConnected = false ∧
            (start.clients client).client = true)
      (closes : start.closes client mesg = true) :
      Outcome client mesg start world (world.close client)
  /-- A DISCONNECT closes the client; the deadline is set nevertheless. -/
  | disconnected
      (isDisconnect : mesg.kind? = some .disconnect)
      (moreSeconds : Nat) :
      Outcome client mesg start world
        ((world.close client).clientAlive client moreSeconds)
  /-- The message was taken. -/
  | taken (stays : start.closes client mesg = false) :
      Outcome client mesg start world
        (world.clientAlive client
          (if (world.clients client).parent.isSome then 5 else 0))

/-- What `processMessage` can do. -/
theorem processMessageWith_outcome
    (forward :
      BrokerId → ClientId → Topic → MqttMessage →
        World Index Os → World Index Os)
    (world : World Index Os)
    (client : ClientId)
    (mesg : MqttMessage) :
    ∃ active,
      Activity forward client mesg (world.log (.processed client mesg))
          active ∧
        Outcome client mesg world active
          (world.processMessageWith forward client mesg) := by
  have bclose :=
    processKind_closes forward (world.log (.processed client mesg)) client mesg
  have sameCloses :
      (world.log (.processed client mesg)).closes client mesg =
        world.closes client mesg := rfl
  rw [sameCloses, clients_log] at bclose
  unfold processMessageWith finish
  by_cases leaves :
      mesg.kind? = some .disconnect ∧
        (world.clients client).mqttConnected = true
  · obtain ⟨notClosed, before, activity, closed⟩ :=
      @processKind_disconnect _ _ _ _ forward
        (world.log (.processed client mesg)) client mesg leaves.1 leaves.2
    refine ⟨before, activity, ?_⟩
    rw [notClosed, closed]
    exact .disconnected leaves.1 _
  rw [decide_eq_false leaves, Bool.not_false, Bool.and_true] at bclose
  rcases processKind_activity forward
      (world.log (.processed client mesg)) client mesg with
    activity | ⟨notClosed, isDisconnect, before, activity, closed⟩
  · refine ⟨_, activity, ?_⟩
    split
    · rename_i rejected
      refine .rejected (fun isPublish => ?_) (bclose.symm.trans rejected)
      by_contra allowed
      have taken :=
        processKind_publish forward
          (world.log (.processed client mesg)) isPublish
          (by simpa [or_iff_not_imp_left] using allowed)
      simp [taken] at rejected
    · rename_i notRejected
      exact .taken
        (bclose.symm.trans ((Bool.not_eq_true _).mp notRejected))
  · refine ⟨before, activity, ?_⟩
    rw [notClosed, closed]
    exact .disconnected isDisconnect _

end World

end SimpleTlsBroker
