import SimpleTlsBroker.Scripts
import SimpleTlsBroker.Transitions
import SimpleTlsBroker.Lifecycle
import SimpleTlsBroker.Library.Attachments

namespace SimpleTlsBroker

/-!
# The lists of clients and their parents

`MqttBroker::clients` and `MqttClient::parent` are two views of who is attached
to whom.  Every call is a sequence of the operations that keep the two views
together; `connect` to a local broker only sets the pointer, but of a client
that `close` has taken off its list.
-/

namespace World

variable {Index Os : Type}
variable {world before middle after : World Index Os}
variable {client : ClientId}
variable {broker : BrokerId}

/-- Who is attached to whom. -/
def attachments
    (world : World Index Os) : Attachments BrokerId ClientId where
  known := { client | client < world.next }
  members := world.members
  parent := fun client => (world.clients client).parent

/-- The calls between two states change the attachments by operations. -/
def Refines (before after : World Index Os) : Prop :=
  Attachments.Run before.attachments after.attachments

namespace Refines

theorem refl (world : World Index Os) : Refines world world :=
  Relation.ReflTransGen.refl

theorem trans
    (first : Refines before middle)
    (second : Refines middle after) :
    Refines before after :=
  Relation.ReflTransGen.trans first second

/-- The attachments are the same. -/
theorem of_eq
    (same : after.attachments = before.attachments) :
    Refines before after := by
  unfold Refines
  rw [same]

/-- One operation. -/
theorem of_step
    {attachments : Attachments BrokerId ClientId}
    (step : Attachments.Step before.attachments attachments)
    (result : after.attachments = attachments) :
    Refines before after := by
  unfold Refines
  rw [result]
  exact .single step

end Refines

/-- Keeping the links keeps the attachments. -/
theorem LinksKept.attachments
    (kept : LinksKept before after) :
    after.attachments = before.attachments := by
  apply Attachments.ext
  · simp only [World.attachments, kept.next]
  · funext broker
    simp only [World.attachments, members, kept.brokers]
  · funext client
    simp only [World.attachments, kept.parent]

/-- Keeping the links is no operation. -/
theorem LinksKept.refines (kept : LinksKept before after) :
    Refines before after :=
  .of_eq kept.attachments

/-- A client that is modified apart from its parent. -/
theorem attachments_modifyClient
    (world : World Index Os)
    (client : ClientId)
    {change : MqttClient → MqttClient}
    (parent :
      (change (world.clients client)).parent =
        (world.clients client).parent) :
    (world.modifyClient client change).attachments = world.attachments := by
  apply Attachments.ext
  · rfl
  · rfl
  · funext other
    by_cases same : other = client
    · subst same
      simpa [attachments] using parent
    · simp [attachments, same]

/-- Setting the parent of a client. -/
theorem attachments_setParent
    (world : World Index Os)
    (client : ClientId)
    (parent : Option BrokerId) :
    (world.modifyClient client fun record =>
        { record with parent := parent }).attachments =
      world.attachments.point client parent := by
  apply Attachments.ext
  · rfl
  · rfl
  · funext other
    by_cases same : other = client
    · subst same
      simp [attachments, Attachments.point]
    · simp [attachments, Attachments.point, same]

/-- The addresses of a world with one more client. -/
theorem known_next
    (next : after.next = before.next + 1) :
    after.attachments.known = insert before.next before.attachments.known := by
  ext client
  change client < after.next ↔ client = before.next ∨ client < before.next
  rw [next]
  exact Nat.lt_succ_iff_lt_or_eq.trans or_comm

/-- A new address is not known. -/
theorem next_not_known (world : World Index Os) :
    world.next ∉ world.attachments.known :=
  Nat.lt_irrefl world.next

/-- A new client that is added to a broker is attached to it. -/
theorem attachments_addClient
    (world : World Index Os)
    (broker : BrokerId)
    {record : MqttClient}
    (attached : record.parent = some broker)
    (device : Device Os) :
    (({ world with
        device := device
        next := world.next + 1
        clients := Function.update world.clients world.next record
      }).addClient broker world.next).attachments =
      world.attachments.attach broker world.next := by
  apply Attachments.ext
  · exact known_next rfl
  · funext other
    by_cases same : other = broker
    · subst same
      simp [attachments, Attachments.attach, addClient, members]
    · simp [attachments, Attachments.attach, addClient, members, same]
  · funext client
    by_cases same : client = world.next
    · subst same
      simp [attachments, Attachments.attach, addClient, attached]
    · simp [attachments, Attachments.attach, addClient, same]

/-- The constructor attaches a client to its broker, if it is given one. -/
theorem newClient_refines
    (world : World Index Os)
    (parent : Option BrokerId)
    (id : List Byte)
    (alive : Nat) :
    Refines world (world.newClient parent id alive) := by
  cases parent with
  | some broker =>
      exact .of_step (.attach broker world.next world.next_not_known)
        (attachments_addClient world broker rfl world.device)
  | none =>
      refine .of_step (.create world.next world.next_not_known) ?_
      apply Attachments.ext
      · exact known_next rfl
      · rfl
      · funext client
        by_cases same : client = world.next
        · subst same
          simp [attachments, Attachments.create, newClient,
            MqttClient.initial]
        · simp [attachments, Attachments.create, newClient, same]

variable [Platform Os]

/-- Closing a client detaches it. -/
theorem attachments_close
    (world : World Index Os)
    (client : ClientId) :
    (world.close client).attachments = world.attachments.detach client := by
  have sameParent (other : ClientId) :
      ((world.close client).clients other).parent =
        if other = client then none else (world.clients other).parent := by
    by_cases same : other = client
    · subst same
      simp [clients_close_self]
    · simp [same]
  apply Attachments.ext
  · rw [Attachments.known_detach]
    simp only [attachments, next_close]
  · funext broker
    change ((world.close client).brokers broker).clients = _
    rw [brokers_close]
    cases attached : (world.clients client).parent with
    | none =>
        rw [if_neg (Option.some_ne_none broker).symm,
          Attachments.detach_unattached attached]
        rfl
    | some parent =>
        rw [Attachments.members_detach_of_parent attached]
        by_cases same : broker = parent
        · subst same
          rw [if_pos rfl, Function.update_self]
          rfl
        · rw [if_neg fun equal => same (Option.some.inj equal).symm,
            Function.update_of_ne same]
          rfl
  · funext other
    change ((world.close client).clients other).parent = _
    rw [sameParent]
    by_cases same : other = client
    · subst same
      rw [if_pos rfl, Attachments.parent_detach_self]
    · rw [if_neg same, Attachments.parent_detach_other same]
      rfl

/-- Closing a client is one operation. -/
theorem close_refines
    (world : World Index Os)
    (client : ClientId) :
    Refines world (world.close client) :=
  .of_step (.detach client) (attachments_close world client)

/-! ## Calls that keep the links -/

/-- Sending keeps the links. -/
theorem LinksKept.sendTo
    (world : World Index Os)
    (message : MqttMessage)
    (client : ClientId) :
    LinksKept world (world.sendTo message client).2 := by
  unfold World.sendTo
  split
  · exact (LinksKept.log world _).trans (.device _ _)
  · exact .refl world

/-! ## Message processing -/

/-- What a client does on a message, if forwarding keeps the views together. -/
theorem Activity.refines
    {forward :
      BrokerId → ClientId → Topic → MqttMessage →
        World Index Os → World Index Os}
    {client : ClientId}
    {mesg : MqttMessage}
    {start world : World Index Os}
    (activity : Activity forward client mesg start world)
    (forwarded :
      ∀ parent topic middle,
        Refines middle (forward parent client topic mesg middle)) :
    Refines start world := by
  induction activity with
  | start => exact .refl start
  | note event isReply _ inductionHypothesis =>
      exact inductionHypothesis.trans (LinksKept.log _ event).refines
  | record change keeps _ inductionHypothesis =>
      exact inductionHypothesis.trans
        (LinksKept.modifyClient _ client keeps.toKeepsLinks).refines
  | topics indexer _ inductionHypothesis =>
      exact inductionHypothesis.trans (LinksKept.indexer _ indexer).refines
  | write bytes _ inductionHypothesis =>
      exact inductionHypothesis.trans (LinksKept.device _ _).refines
  | login parent user password isConnect attached pass first _
      inductionHypothesis =>
      exact inductionHypothesis.trans
        (LinksKept.modifyClient _ client keepsLinks_connect).refines
  | connAck isConnAck _ inductionHypothesis =>
      exact inductionHypothesis.trans
        (LinksKept.modifyClient _ client keepsLinks_connect).refines
  | forward parent topic isPublish attached isRemote connected _
      inductionHypothesis =>
      exact inductionHypothesis.trans (forwarded parent topic _)
  | callback topic payload isPublish allowed _ inductionHypothesis =>
      exact inductionHypothesis.trans (LinksKept.log _ _).refines

variable [Indexer Index]

/-- A message closes its client at most, if forwarding does no worse. -/
theorem processMessageWith_refines
    {forward :
      BrokerId → ClientId → Topic → MqttMessage →
        World Index Os → World Index Os}
    {mesg : MqttMessage}
    (forwarded :
      ∀ parent topic middle,
        Refines middle (forward parent client topic mesg middle)) :
    Refines world (world.processMessageWith forward client mesg) := by
  obtain ⟨active, activity, outcome⟩ :=
    processMessageWith_outcome forward world client mesg
  have acted : Refines world active :=
    (LinksKept.log world _).refines.trans (activity.refines forwarded)
  generalize world.processMessageWith forward client mesg = after
    at outcome ⊢
  cases outcome with
  | rejected notAllowed => exact acted.trans (close_refines active client)
  | disconnected isDisconnect moreSeconds =>
      exact (acted.trans (close_refines active client)).trans
        (LinksKept.clientAlive _ client moreSeconds).refines
  | taken => exact acted.trans (LinksKept.clientAlive _ client _).refines

/-- Delivering a message. -/
theorem publishIfSubscribed_refines
    (world : World Index Os)
    (client : ClientId)
    (topic : Topic)
    (msg : MqttMessage) :
    Refines world (world.publishIfSubscribed client topic msg).2 := by
  unfold publishIfSubscribed
  split
  · split
    · exact (LinksKept.sendTo world msg client).refines
    · exact processMessageWith_refines fun _ _ middle => .refl middle
  · exact .refl world

/-- `MqttBroker::publish`. -/
theorem publish_refines
    (world : World Index Os)
    (broker : BrokerId)
    (source : ClientId)
    (topic : Topic)
    (msg : MqttMessage) :
    Refines world (world.publish broker source topic msg).2 := by
  refine publish_relates (fun _ => True) .refl .trans (fun _ _ => trivial)
    broker source topic msg ?_ trivial
  intro middle target msg _
  exact publishIfSubscribed_refines middle target topic msg

/-- `MqttClient::processMessage`. -/
theorem processMessage_refines
    (world : World Index Os)
    (client : ClientId)
    (mesg : MqttMessage) :
    Refines world (world.processMessage client mesg) :=
  processMessageWith_refines fun parent topic middle =>
    publish_refines middle parent client topic mesg

/-! ## The loops -/

omit [Indexer Index] in
/-- The timeout check. -/
theorem expire_refines
    (world : World Index Os)
    (client : ClientId) :
    Refines world (world.expire client) := by
  unfold expire
  dsimp only
  split
  · split
    · exact close_refines world client
    · split
      · exact (LinksKept.clientAlive world client 0).refines
      · exact .refl world
    · exact .refl world
  · exact .refl world

/-- One byte. -/
theorem feed_refines
    (world : World Index Os)
    (client : ClientId)
    (byte : Byte) :
    Refines world (world.feed client byte) := by
  have keeps := keepsLogin_message fun message => message.incoming byte
  have received :=
    (LinksKept.modifyClient world client keeps.toKeepsLinks).refines
  rcases world.feed_cases client byte with ⟨_, result⟩ | ⟨_, result⟩
  · rw [result]
    exact received
  · rw [result]
    exact (received.trans (processMessage_refines _ client _)).trans
      (LinksKept.modifyClient _ client
        (keepsLogin_message MqttMessage.reset).toKeepsLinks).refines

/-- The body of the read loop. -/
theorem readOnce_refines
    (world : World Index Os)
    (client : ClientId) :
    Refines world (world.readOnce client) := by
  unfold readOnce
  split
  · exact .refl world
  · dsimp only
    split
    · exact ((LinksKept.device world _).trans (.log _ _)).refines.trans
        (feed_refines _ client _)
    · split
      · exact (LinksKept.device world _).refines
      · exact (LinksKept.device world _).refines

/-- One round of the read loop. -/
theorem poll_refines
    (world : World Index Os)
    (client : ClientId) :
    Refines world (world.poll client).2 := by
  unfold poll
  dsimp only
  split
  · exact (LinksKept.device world _).refines.trans
      (readOnce_refines _ client)
  · exact (LinksKept.device world _).refines

omit [Indexer Index] in
/-- `accept` attaches the client it creates. -/
theorem accept_refines
    (world : World Index Os)
    (broker : BrokerId) :
    Refines world (world.accept broker) := by
  unfold accept
  dsimp only
  split
  · exact (LinksKept.device world _).refines
  · rename_i slot _
    exact .of_step (.attach broker world.next world.next_not_known)
      ((LinksKept.log _ _).attachments.trans
        (attachments_addClient world broker rfl _))

/-! ## Calls of the application -/

omit [Platform Os] [Indexer Index] in
/-- `MqttClient::setCallback`. -/
theorem setCallback_kept
    (world : World Index Os)
    (client : ClientId) :
    LinksKept world (world.setCallback client) :=
  .modifyClient world client keepsReception_callback.toKeepsLinks

omit [Platform Os] in
/-- Keeping a subscription. -/
theorem insertSubscription_kept
    (world : World Index Os)
    (client : ClientId)
    (topic : Topic) :
    LinksKept world (world.insertSubscription client topic) := by
  unfold insertSubscription
  dsimp only
  have keeps :=
    keepsReception_subscriptions fun subscriptions =>
      subscriptions.insert topic
  refine .trans ?_ (.modifyClient _ client keeps.toKeepsLinks)
  split
  · exact .refl world
  · exact .indexer world _

/-- `MqttClient::sendTopic`. -/
theorem sendTopic_kept
    (world : World Index Os)
    (client : ClientId)
    (topic : Topic)
    (type qos : Byte) :
    LinksKept world (world.sendTopic client topic type qos).2 :=
  LinksKept.sendTo world _ client

/-- `MqttClient::subscribe`. -/
theorem clientSubscribe_kept
    {fuel : Nat}
    {world after : World Index Os}
    {client : ClientId}
    {topic : Topic}
    {qos : Byte}
    {ret : MqttError}
    (returned :
      clientSubscribe fuel world client topic qos = some (ret, after)) :
    LinksKept world after :=
  clientSubscribe_relates .trans
    (fun world client => insertSubscription_kept world client topic)
    (fun world client type => sendTopic_kept world client topic type qos)
    returned

/-- `MqttClient::unsubscribe`. -/
theorem clientUnsubscribe_kept
    (world : World Index Os)
    (client : ClientId)
    (topic : Topic) :
    LinksKept world (world.clientUnsubscribe client topic).2 := by
  have keeps :=
    keepsReception_subscriptions fun subscriptions =>
      subscriptions.erase topic
  have erased :
      LinksKept world
        ((world.modifyClient client fun record =>
          { record with
            subscriptions := record.subscriptions.erase topic
          }).releaseTopic topic) :=
    (LinksKept.modifyClient world client keeps.toKeepsLinks).trans
      (.indexer _ _)
  exact clientUnsubscribe_relates .refl .trans erased
    fun world type => sendTopic_kept world client topic type 0

/-- `MqttClient::publish`. -/
theorem publishBuilt_refines
    (world : World Index Os)
    (client : ClientId)
    (topic : Topic)
    (payload : List Byte) :
    Refines world (world.publishBuilt client topic payload).2 := by
  unfold publishBuilt
  dsimp only
  split
  · exact publish_refines world _ client topic _
  · exact (LinksKept.sendTo world _ client).refines
  · exact .refl world

/-! ## Connecting -/

omit [Indexer Index] in
/-- Connecting to a local broker detaches the client and sets the pointer. -/
theorem attachments_connectBroker
    (world : World Index Os)
    (client : ClientId)
    (parentBroker : Option BrokerId) :
    (world.connectBroker client parentBroker).attachments =
      (world.attachments.detach client).point client parentBroker := by
  unfold connectBroker
  rw [attachments_setParent, attachments_close]

omit [Indexer Index] in
/-- Connecting to a host detaches the client. -/
theorem attachments_hosted
    (world : World Index Os)
    (client : ClientId)
    (ka : Nat)
    (established : Bool) :
    (world.hosted client ka established).attachments =
      world.attachments.detach client := by
  have opened :
      (((world.modifyClient client fun record =>
          { record with keepAlive := ka }).close client).modifyClient client
        fun record => { record with client := true }).attachments =
        world.attachments.detach client := by
    rw [attachments_modifyClient _ client rfl, attachments_close,
      attachments_modifyClient _ client rfl]
  unfold hosted
  dsimp only
  split
  · rw [← opened]
    apply LinksKept.attachments
    exact (LinksKept.sendTo _ _ client).trans (.clientAlive _ client 0)
  · exact opened

omit [Platform Os] [Indexer Index] in
/-- The upstream link is a new client that no list holds. -/
theorem upstreamLink_refines
    (world : World Index Os)
    (broker : BrokerId)
    (alive : Nat) :
    Refines world (world.upstreamLink broker alive).2 := by
  unfold upstreamLink
  split
  · exact .refl world
  · refine .of_step (.create world.next world.next_not_known) ?_
    apply Attachments.ext
    · exact known_next rfl
    · funext other
      by_cases same : other = broker
      · subst same
        simp [attachments, Attachments.create, members]
      · simp [attachments, Attachments.create, members, same]
    · funext client
      by_cases same : client = world.next
      · subst same
        simp [attachments, Attachments.create, MqttClient.initial]
      · simp [attachments, Attachments.create, same]

omit [Platform Os] [Indexer Index] in
/-- Two operations: detach a client of true lists, then set its pointer. -/
theorem Refines.repoint
    (consistent : before.attachments.Consistent)
    (client : ClientId)
    (parent : Option BrokerId)
    (result :
      after.attachments =
        (before.attachments.detach client).point client parent) :
    Refines before after := by
  unfold Refines
  rw [result]
  exact .tail (.single (.detach client))
    (.point client parent (consistent.unlisted_detach client))

omit [Indexer Index] in
/-- `MqttBroker::connect`. -/
theorem uplinked_refines
    (consistent : world.attachments.Consistent)
    (broker : BrokerId)
    (alive : Nat)
    (established : Bool) :
    Refines world (world.uplinked broker alive established) := by
  have created := upstreamLink_refines world broker alive
  unfold uplinked
  dsimp only
  refine created.trans (.repoint (consistent.run created)
    (world.upstreamLink broker alive).1 (some broker) ?_)
  rw [attachments_setParent, attachments_hosted]

/-! ## Whose `TcpClient` may be deleted -/

omit [Indexer Index] in
/-- Closing a client does not change where a `client` points to. -/
@[simp] theorem dangling_close
    (world : World Index Os)
    (client other : ClientId) :
    (world.close client).dangling other = world.dangling other := by
  unfold dangling
  rw [client_close, connection_close]

omit [Platform Os] [Indexer Index] in
/-- Nor does anything that keeps the links. -/
theorem LinksKept.dangling
    (kept : LinksKept before after)
    (client : ClientId) :
    after.dangling client = before.dangling client := by
  unfold World.dangling
  rw [kept.client, kept.connection]

omit [Indexer Index] in
/-- `connect` to a host is defined where the old `TcpClient` may be deleted. -/
theorem connectHost_eq
    (world : World Index Os)
    (client : ClientId)
    (ka : Nat)
    (established : Bool) :
    world.connectHost client ka established =
      if world.dangling client then
        none
      else
        some (world.hosted client ka established) := by
  have kept :
      LinksKept world
        (world.modifyClient client fun record =>
          { record with keepAlive := ka }) :=
    .modifyClient world client ⟨fun _ => rfl, fun _ => rfl, fun _ => rfl⟩
  unfold connectHost deleteTcpClient
  dsimp only
  rw [dangling_close, kept.dangling]
  split
  · rfl
  · rfl

omit [Indexer Index] in
/-- If it is defined, it was one that may be deleted. -/
theorem owned_of_connectHost
    {ka : Nat}
    {established : Bool}
    (returned : before.connectHost client ka established = some after) :
    before.dangling client = false := by
  rw [connectHost_eq] at returned
  split at returned
  · cases returned
  · rename_i notDangling
    exact (Bool.not_eq_true _).mp notDangling

omit [Indexer Index] in
/-- If it may be deleted, the call is defined. -/
theorem connectHost_of_owned
    (owned : world.dangling client = false)
    (ka : Nat)
    (established : Bool) :
    world.connectHost client ka established =
      some (world.hosted client ka established) := by
  rw [connectHost_eq, owned]
  rfl

omit [Platform Os] in
/-- Destroying topics keeps the links. -/
theorem releaseTopics_kept
    (topics : List Topic)
    (world : World Index Os) :
    LinksKept world (topics.foldl World.releaseTopic world) := by
  induction topics generalizing world with
  | nil => exact .refl world
  | cons topic rest inductionHypothesis =>
      exact (LinksKept.indexer world _).trans (inductionHypothesis _)

omit [Platform Os] in
/-- So does destroying the topics of a client. -/
theorem releaseSubscriptions_kept
    (world : World Index Os)
    (client : ClientId) :
    LinksKept world (world.releaseSubscriptions client) :=
  (releaseTopics_kept _ world).trans
    (.modifyClient _ client
      (keepsReception_subscriptions fun _ => .empty).toKeepsLinks)

/-- The destructor is defined where the `TcpClient` may be deleted. -/
theorem destroyClient_eq
    (world : World Index Os)
    (client : ClientId) :
    world.destroyClient client =
      if world.dangling client then
        none
      else
        some ((world.close client).releaseSubscriptions client) := by
  unfold destroyClient deleteTcpClient
  rw [dangling_close]
  split
  · rfl
  · rfl

/-- There it closes the client. -/
theorem attachments_destroyClient
    (destroyed : before.destroyClient client = some after) :
    after.attachments = before.attachments.detach client ∧
      ∀ other, after.dangling other = before.dangling other := by
  rw [destroyClient_eq] at destroyed
  split at destroyed
  · cases destroyed
  · obtain rfl := Option.some.inj destroyed
    have kept := releaseSubscriptions_kept (before.close client) client
    refine ⟨kept.attachments.trans (attachments_close before client), ?_⟩
    intro other
    rw [kept.dangling, dangling_close]

/-- Destroying a client is one operation. -/
theorem destroyClient_refines
    (destroyed : before.destroyClient client = some after) :
    Refines before after :=
  .of_step (.detach client) (attachments_destroyClient destroyed).1

/-- The destructor closes clients one after another. -/
theorem destroyBroker_refines
    {rounds : Nat}
    (returned : destroyBroker broker rounds before = some (some after)) :
    Refines before after := by
  induction rounds generalizing before with
  | zero => cases returned
  | succ rounds inductionHypothesis =>
      rw [destroyBroker] at returned
      split at returned
      · obtain rfl := Option.some.inj (Option.some.inj returned)
        exact .refl before
      · split at returned
        · cases Option.some.inj returned
        · rename_i destroyed
          exact (destroyClient_refines destroyed).trans
            (inductionHypothesis returned)

/-- Every call changes the attachments by operations. -/
theorem LifeStep.refines
    {deleted : ClientId → Prop}
    (consistent : before.attachments.Consistent)
    (step : LifeStep before deleted (some after)) :
    Refines before after := by
  generalize isOutcome : some after = outcome at step
  cases step with
  | newClient parent id alive =>
      obtain rfl := Option.some.inj isOutcome
      exact newClient_refines before parent id alive
  | accept broker =>
      obtain rfl := Option.some.inj isOutcome
      exact accept_refines before broker
  | connectBroker client parentBroker =>
      obtain rfl := Option.some.inj isOutcome
      exact .repoint consistent client parentBroker
        (attachments_connectBroker before client parentBroker)
  | connectHost client ka established =>
      obtain rfl := eq_hosted isOutcome.symm
      exact .of_step (.detach client)
        (attachments_hosted before client ka established)
  | connectUpstream broker alive established =>
      obtain rfl := eq_uplinked isOutcome.symm
      exact uplinked_refines consistent broker alive established
  | processMessage client mesg =>
      obtain rfl := Option.some.inj isOutcome
      exact processMessage_refines before client mesg
  | poll client =>
      obtain rfl := Option.some.inj isOutcome
      exact poll_refines before client
  | expire client =>
      obtain rfl := Option.some.inj isOutcome
      exact expire_refines before client
  | close client =>
      obtain rfl := Option.some.inj isOutcome
      exact close_refines before client
  | destroyClient client => exact destroyClient_refines isOutcome.symm
  | destroyBroker broker rounds outcome returned =>
      subst isOutcome
      exact destroyBroker_refines returned
  | setCallback client =>
      obtain rfl := Option.some.inj isOutcome
      exact (setCallback_kept before client).refines
  | publish client topic payload ret result returned =>
      obtain rfl := Option.some.inj isOutcome
      rw [eq_published returned]
      exact publishBuilt_refines before client topic payload
  | subscribe client topic qos fuel ret result returned =>
      obtain rfl := Option.some.inj isOutcome
      exact (clientSubscribe_kept returned).refines
  | unsubscribe client topic =>
      obtain rfl := Option.some.inj isOutcome
      exact (clientUnsubscribe_kept before client topic).refines
  | internTopic name =>
      obtain rfl := Option.some.inj isOutcome
      exact (LinksKept.indexer before _).refines
  | releaseTopic topic =>
      obtain rfl := Option.some.inj isOutcome
      exact (LinksKept.indexer before _).refines
  | environment os =>
      obtain rfl := Option.some.inj isOutcome
      exact (LinksKept.device before _).refines

omit [Platform Os] [Indexer Index] in
/-- Before anything is constructed the lists are true. -/
theorem Fresh.consistent (fresh : Fresh world) :
    world.attachments.Consistent where
  nodup broker := by
    change (world.members broker).Nodup
    rw [fresh.noMembers]
    exact List.nodup_nil
  parent broker client member := by
    change client ∈ world.members broker at member
    rw [fresh.noMembers] at member
    exact absurd member List.not_mem_nil
  known broker client member := by
    change client ∈ world.members broker at member
    rw [fresh.noMembers] at member
    exact absurd member List.not_mem_nil

/-- A sequence of calls is a sequence of operations on true lists. -/
theorem LifeRun.refines
    {condition : World Index Os → ClientId → Prop}
    (consistent : before.attachments.Consistent)
    (run : LifeRun condition before after) :
    Refines before after := by
  induction run with
  | refl => exact .refl before
  | tail _ last inductionHypothesis =>
      obtain ⟨_, step, _⟩ := last
      exact inductionHypothesis.trans
        (step.refines (consistent.run inductionHypothesis))

/-- The lists are true in every reachable state. -/
theorem LifeRun.consistent
    {condition : World Index Os → ClientId → Prop}
    (fresh : Fresh before)
    (run : LifeRun condition before after) :
    after.attachments.Consistent :=
  fresh.consistent.run (run.refines fresh.consistent)

omit [Platform Os] [Indexer Index] in
/-- The set-up program has constructed nothing yet. -/
theorem fresh_setup (script : Script) : Fresh script.setup where
  noMembers _ := rfl
  noUpstream _ := rfl
  noClients _ := rfl

end World

end SimpleTlsBroker
