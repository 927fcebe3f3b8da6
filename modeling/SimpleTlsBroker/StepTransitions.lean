import SimpleTlsBroker.Transitions

namespace SimpleTlsBroker

/-!
# The transitions of each step

Every action of a run is taken apart into transitions.  Which clients an action
may close depends on the action: a timeout closes the client that is overdue, a
received message closes its sender, a publication of the application closes
nobody if it is a PUBLISH message.
-/

open History

namespace World

variable {Index Os : Type} [Platform Os]

/-- The deadline of a client has passed. -/
def Overdue
    (world : World Index Os)
    (client : ClientId) : Prop :=
  (world.clients client).alive ≠ 0 ∧
    world.device.millis > (world.clients client).alive

variable {broker : BrokerId}
variable {closable : World Index Os → ClientId → Prop}
variable {actors : ClientId → Prop}
variable {before middle after world : World Index Os}
variable {client : ClientId}

/-- Changes are transitions. -/
theorem Changes.transitions
    (changes : Changes closable actors before after) :
    Transitions broker closable before after := by
  induction changes with
  | refl => exact .refl
  | tail _ last inductionHypothesis =>
      obtain ⟨actor, _, change⟩ := last
      exact inductionHypothesis.tail (.change actor _ change)

/-- A change of fields nobody else relies on. -/
theorem Changes.record
    (changes : Changes closable actors before after)
    (acts : actors client)
    {change : MqttClient → MqttClient}
    (keeps : KeepsLogin change) :
    Changes closable actors before (after.modifyClient client change) :=
  changes.snoc acts (.record change keeps)

omit [Platform Os] in
/-- A client with a session that is polled is attached. -/
theorem Linked.attached_of_polled
    (linked : Linked broker world)
    (polled : world.Polled broker client)
    {slot : SlotId}
    (connected : (world.clients client).connection = some slot) :
    (world.clients client).parent ≠ none := by
  rcases polled with member | isUpstream
  · rw [linked.memberParent client member]
    simp
  · rw [linked.unconnected client isUpstream] at connected
    contradiction

/-- The timeout check closes an overdue client at most. -/
theorem expire_changes
    (acts : actors client)
    (mayClose : world.Overdue client → closable world client) :
    Changes closable actors world (world.expire client) := by
  unfold expire
  dsimp only
  split
  · rename_i overdue
    split
    · exact .single ⟨client, acts, .close (mayClose overdue)⟩
    · split
      · exact Changes.clientAlive .refl acts 0
      · exact .refl
    · exact .refl
  · exact .refl

variable [Indexer Index]

/-- Feeding a byte to a message, and processing it when it is complete. -/
theorem feed_changes
    (byte : Byte)
    (linked : Linked broker world)
    (polled : world.Polled broker client)
    (served : ∀ other, world.Polled broker other → actors other)
    (isRemote : (world.clients client).client = true)
    (remote : ∀ middle : World Index Os,
      (middle.clients client).client = true → closable middle client) :
    Changes closable actors world (world.feed client byte) := by
  have acts : actors client := served client polled
  have keeps := keepsLogin_message fun message => message.incoming byte
  have received :
      Changes closable actors world
        (world.modifyClient client fun record =>
          { record with message := record.message.incoming byte }) :=
    Changes.record .refl acts keeps
  have kept := LinksKept.modifyClient world client keeps.toKeepsLinks
  rcases world.feed_cases client byte with ⟨_, result⟩ | ⟨_, result⟩
  · rw [result]
    exact received
  · rw [result]
    refine Changes.record (received.trans ?_) acts
      (keepsLogin_message MqttMessage.reset)
    refine processMessage_changes _ acts ?_
      ((linked.active_of_polled polled).kept kept) ?_ ?_
    · intro parent attached
      rw [kept.parent] at attached
      rw [linked.parentBroker client parent attached]
      exact served
    · intro parent attached
      rw [kept.parent] at attached
      rw [linked.parentBroker client parent attached]
      exact linked.deliverable.kept kept
    · intro middle keptUntil _
      apply remote
      rw [keptUntil.client, kept.client]
      exact isRemote

/-- The body of the read loop. -/
theorem readOnce_transitions
    (linked : Linked broker world)
    (polled : world.Polled broker client)
    {slot : SlotId}
    (connected : (world.clients client).connection = some slot)
    (remote : ∀ middle : World Index Os,
      (middle.clients client).client = true → closable middle client) :
    Transitions broker closable world (world.readOnce client) := by
  have isRemote := linked.remote client slot connected
  have holds : world.Holds client slot :=
    ⟨linked.attached_of_polled polled connected, connected⟩
  have read :
      Transitions broker closable world
        { world with device := (world.device.readData (some slot) 1).2 } :=
    .single (.read client slot holds)
  unfold readOnce
  rw [connected]
  dsimp only
  have failure := world.device.not_transportOk_readData slot 1
  generalize world.device.readData (some slot) 1 = result at read failure ⊢
  obtain ⟨⟨ret, buf⟩, device⟩ := result
  dsimp only at read failure ⊢
  split
  · have fed :
        Transition broker closable { world with device := device }
          ({ world with device := device }.log
            (.fed client slot (buf.headD 0))) :=
      .fed client slot _ holds
    exact (read.tail fed).trans
      (feed_changes _ ((linked.device device).kept (.log _ _))
        polled (fun _ _ => trivial) isRemote remote).transitions
  · split
    · exact read
    · exact read.tail (.forget slot (failure (by omega)))

/-- One round of the read loop. -/
theorem poll_transitions
    (linked : Linked broker world)
    (polled : world.Polled broker client)
    (remote : ∀ middle : World Index Os,
      (middle.clients client).client = true → closable middle client) :
    Transitions broker closable world (world.poll client).2 := by
  unfold poll
  cases connected : (world.clients client).connection with
  | none =>
      exact .refl
  | some slot =>
      unfold Device.canReadData
      dsimp only
      split
      · exact .refl
      · have selected (os : Os) :
            Transitions broker closable world
              { world with device := { world.device with os := os } } :=
          .single (.system os)
        dsimp only
        split
        · exact (selected _).trans
            (readOnce_transitions (linked.device _) polled connected remote)
        · exact selected _

/-! ## Calls of the application -/

/-- Keeping a subscription. -/
theorem insertSubscription_changes
    (world : World Index Os)
    (topic : Topic)
    (acts : actors client) :
    Changes closable actors world
      (world.insertSubscription client topic) := by
  have keeps :=
    keepsReception_subscriptions fun subscriptions =>
      subscriptions.insert topic
  have used :
      Changes closable actors world
        (if topic ∈ (world.clients client).subscriptions then
          world
        else
          world.useTopic topic) := by
    split
    · exact .refl
    · exact .single ⟨client, acts, .topics _⟩
  exact used.record acts keeps.toKeepsLogin

/-- `sendTopic` on a client without session. -/
theorem sendTopic_changes
    {world : World Index Os}
    {client : ClientId}
    (acts : actors client)
    (unconnected : (world.clients client).connection = none)
    (topic : Topic)
    (type qos : Byte) :
    Changes closable actors world
      (world.sendTopic client topic type qos).2 := by
  refine (sendTo_changes _ (.inr unconnected)).weaken (fun _ _ => id) ?_
  rintro other rfl
  exact acts

/-- `MqttClient::subscribe`, on a local client or on the upstream link. -/
theorem clientSubscribe_changes
    {fuel : Nat}
    {world after : World Index Os}
    {client : ClientId}
    {topic : Topic}
    {qos : Byte}
    {ret : MqttError}
    (linked : Linked broker world)
    (acts : actors client)
    (served :
      ∀ upstream, (world.brokers broker).broker = some upstream →
        actors upstream)
    (unconnected : (world.clients client).connection = none)
    (returned :
      clientSubscribe fuel world client topic qos = some (ret, after)) :
    Changes closable actors world after := by
  induction fuel generalizing world client with
  | zero => simp [clientSubscribe] at returned
  | succ fuel inductionHypothesis =>
      have inserted :
          Changes closable actors world
            (world.insertSubscription client topic) :=
        insertSubscription_changes world topic acts
      have linked := linked.changes inserted
      have unconnected :
          ((world.insertSubscription client topic).clients
            client).connection = none := by
        rw [inserted.connection]
        exact unconnected
      rw [clientSubscribe] at returned
      split at returned
      · obtain ⟨_, rfl⟩ := Prod.mk.inj (Option.some.inj returned)
        exact inserted.trans
          (sendTopic_changes acts unconnected topic _ qos)
      · rename_i parent attached
        split at returned
        · rename_i upstream isUpstream
          split at returned
          · rw [linked.parentBroker client parent attached] at isUpstream
            have sameUpstream := inserted.upstream broker
            refine inserted.trans (inductionHypothesis linked
              (served upstream (sameUpstream ▸ isUpstream)) ?_
              (linked.unconnected upstream isUpstream) returned)
            intro other isOther
            exact served other (sameUpstream ▸ isOther)
          · obtain ⟨_, rfl⟩ := Prod.mk.inj (Option.some.inj returned)
            exact inserted
        · obtain ⟨_, rfl⟩ := Prod.mk.inj (Option.some.inj returned)
          exact inserted

/-- `MqttClient::unsubscribe` of a client without session. -/
theorem clientUnsubscribe_changes
    (acts : actors client)
    (unconnected : (world.clients client).connection = none)
    (topic : Topic) :
    Changes closable actors world
      (world.clientUnsubscribe client topic).2 := by
  have keeps :=
    keepsReception_subscriptions fun subscriptions =>
      subscriptions.erase topic
  have erased :
      Changes closable actors world
        ((world.modifyClient client fun record =>
          { record with
            subscriptions := record.subscriptions.erase topic
          }).releaseTopic topic) :=
    (Changes.record .refl acts keeps.toKeepsLogin).tail
      ⟨client, acts, .topics _⟩
  unfold clientUnsubscribe
  split
  · dsimp only
    split
    · refine erased.trans (sendTopic_changes acts ?_ topic _ 0)
      rw [erased.connection]
      exact unconnected
    · exact erased
  · exact .refl

/-- The message of the application is closed with its length. -/
theorem publishMessage_complete (name payload : List Byte) :
    (publishMessage name payload).state = .complete := by
  unfold publishMessage MqttMessage.encoded
  dsimp only
  split
  · split <;> rfl
  · rename_i complete
    simpa using complete

/-- `MqttClient::publish` of a local client. -/
theorem publishBuilt_changes
    (linked : Linked broker world)
    (served : ∀ other, world.Polled broker other → actors other)
    (isLocal : (world.clients client).client = false)
    (topic : Topic)
    (payload : List Byte)
    (mayClose :
      (publishMessage (Indexer.str world.indexer topic) payload).kind? ≠
          some .publish →
        ∀ (middle : World Index Os) client,
          (middle.clients client).client = false →
          closable middle client) :
    Changes closable actors world
      (world.publishBuilt client topic payload).2 := by
  unfold publishBuilt
  dsimp only
  split
  · rename_i parent attached
    rw [linked.parentBroker client parent attached]
    exact (publish_changes linked.deliverable client topic
      (publishMessage_complete _ _) mayClose).weaken (fun _ _ => id) served
  · rename_i isRemote
    rw [isLocal] at isRemote
    contradiction
  · exact .refl

omit [Indexer Index] in
/-- The upstream link is created unless there is one. -/
theorem upstreamLink_transitions
    (world : World Index Os)
    (broker : BrokerId)
    (alive : Nat) :
    Transitions broker closable world
      (world.upstreamLink broker alive).2 := by
  cases isUpstream : (world.brokers broker).broker with
  | none =>
      exact .single (.newUpstream alive isUpstream)
  | some upstream =>
      simp only [upstreamLink, isUpstream]
      exact .refl

omit [Platform Os] [Indexer Index] in
/-- Afterwards the broker has the upstream link that was returned. -/
theorem broker_upstreamLink
    (world : World Index Os)
    (broker : BrokerId)
    (alive : Nat) :
    ((world.upstreamLink broker alive).2.brokers broker).broker =
      some (world.upstreamLink broker alive).1 := by
  rcases isUpstream : (world.brokers broker).broker with _ | upstream <;>
    simp [upstreamLink, isUpstream]

omit [Indexer Index] in
/-- `MqttClient::onConnect` of a client without session. -/
theorem onConnect_changes
    (acts : actors client)
    (unconnected : (world.clients client).connection = none) :
    Changes closable actors world (world.onConnect client) := by
  have sent :
      Changes closable actors world
        (world.sendOwn
          ((((((MqttMessage.ofType MqttType.connect.code 0).addString
            MqttClient.protocolName).add 0x4).add 0x0).add 0x00).add
              (UInt8.ofNat (world.clients client).keepAlive) |>.addString
                (world.clients client).clientId)
          client) := by
    refine (sendTo_changes _ (.inr unconnected)).weaken (fun _ _ => id) ?_
    rintro other rfl
    exact acts
  exact sent.clientAlive acts 0

omit [Indexer Index] in
/-- `MqttClient::connect` to a host gives the upstream link no session. -/
theorem hosted_transitions
    {upstream : ClientId}
    (isUpstream : (world.brokers broker).broker = some upstream)
    (unconnected : (world.clients upstream).connection = none)
    (ka : Nat)
    (established : Bool)
    (mayClose : ∀ middle, closable middle upstream) :
    Transitions broker closable world
        (world.hosted upstream ka established) ∧
      ((world.hosted upstream ka established).brokers broker).broker =
        some upstream := by
  unfold hosted
  dsimp only
  have relaxed :
      Changes closable (fun _ => True) world
        (world.modifyClient upstream fun record =>
          { record with keepAlive := ka }) :=
    Changes.record .refl trivial (keepsReception_keepAlive ka).toKeepsLogin
  -- The old connection is closed, then the client becomes a networked one.
  have closed :
      Changes closable (fun _ => True) world
        ((world.modifyClient upstream fun record =>
          { record with keepAlive := ka }).close upstream) :=
    relaxed.snoc trivial (.close (mayClose _))
  have stillUpstream := closed.upstream broker
  rw [isUpstream] at stillUpstream
  have stillUnconnected := closed.connection upstream
  rw [unconnected] at stillUnconnected
  generalize
    ((world.modifyClient upstream fun record =>
      { record with keepAlive := ka }).close upstream) = detached
    at closed stillUpstream stillUnconnected ⊢
  have networked :
      Transitions broker closable detached
        (detached.modifyClient upstream fun record =>
          { record with client := true }) :=
    .single (.link upstream stillUpstream _
      ⟨fun _ => rfl, fun _ => .inl rfl, fun _ _ => rfl,
        fun _ connected => connected⟩)
  have earlier := closed.transitions.trans networked
  split
  · have greeted :
        Changes closable (fun _ => True)
          (detached.modifyClient upstream fun record =>
            { record with client := true })
          ((detached.modifyClient upstream fun record =>
            { record with client := true }).onConnect upstream) :=
      onConnect_changes trivial (by simpa using stillUnconnected)
    refine ⟨earlier.trans greeted.transitions, ?_⟩
    rw [greeted.upstream]
    exact stillUpstream
  · exact ⟨earlier, stillUpstream⟩

omit [Indexer Index] in
/-- `MqttBroker::connect` closes the upstream client at most. -/
theorem uplinked_transitions
    (linked : Linked broker world)
    (alive : Nat)
    (established : Bool)
    (mayClose : ∀ middle, closable middle (world.upstreamLink broker alive).1) :
    Transitions broker closable world
      (world.uplinked broker alive established) := by
  unfold uplinked
  have created :
      Transitions broker closable world
        (world.upstreamLink broker alive).2 :=
    upstreamLink_transitions world broker alive
  have isUpstream := broker_upstreamLink world broker alive
  have linked := linked.transitions created
  generalize world.upstreamLink broker alive = result
    at created isUpstream linked mayClose ⊢
  obtain ⟨upstream, middle⟩ := result
  dsimp only at created isUpstream linked mayClose ⊢
  obtain ⟨connected, stillUpstream⟩ :=
    hosted_transitions isUpstream
      (linked.unconnected upstream isUpstream) 10 established mayClose
  -- `connect` removed the link to the broker, which is set again.
  have reparented :
      Transition broker closable
        (middle.hosted upstream 10 established)
        ((middle.hosted upstream 10 established).modifyClient upstream
          fun record => { record with parent := some broker }) :=
    .link upstream stillUpstream _
      ⟨fun _ => rfl, fun _ => .inr rfl, fun _ isRemote => isRemote,
        fun _ connected => connected⟩
  exact (created.trans connected).tail reparented

/-! ## All steps -/

/-- Every step is an accept or a sequence of transitions. -/
theorem Step.transitions
    {action : Action Os}
    (linked : Linked broker before)
    (step : Step broker before action after)
    (remote : ∀ client, action = .poll client → ∀ middle : World Index Os,
      (middle.clients client).client = true → closable middle client)
    (overdue : ∀ client, action = .expire client →
      before.Overdue client → closable before client)
    (malformed : ∀ client topic payload,
      action = .publish client topic payload →
      (publishMessage (Indexer.str before.indexer topic) payload).kind? ≠
        some .publish →
      ∀ (middle : World Index Os) client,
        (middle.clients client).client = false → closable middle client)
    (upstreams : ∀ alive middle,
      closable middle (before.upstreamLink broker alive).1) :
    action = .accept ∧ after = before.accept broker ∨
      Transitions broker closable before after := by
  cases step with
  | accept => exact .inl ⟨rfl, rfl⟩
  | expire client polled =>
      have changes :
          Changes closable (fun _ => True) before (before.expire client) :=
        expire_changes trivial (overdue client rfl)
      exact .inr changes.transitions
  | poll client polled =>
      exact .inr (poll_transitions linked polled (remote client rfl))
  | newLocal id alive => exact .inr (.single (.newLocal id alive))
  | setCallback client isLocal =>
      exact .inr (.single (.change client _ (.record _
        keepsReception_callback.toKeepsLogin)))
  | publish client topic payload isLocal ret _ returned =>
      rw [eq_published returned]
      have changes :
          Changes closable (fun _ => True) before
            (before.publishBuilt client topic payload).2 :=
        publishBuilt_changes linked (fun _ _ => trivial) isLocal topic
          payload (malformed client topic payload rfl)
      exact .inr changes.transitions
  | subscribe client topic qos isLocal fuel ret _ returned =>
      have changes :
          Changes closable (fun _ => True) before after :=
        clientSubscribe_changes linked trivial (fun _ _ => trivial)
          (linked.unconnected_of_local isLocal) returned
      exact .inr changes.transitions
  | unsubscribe client topic isLocal =>
      have changes :
          Changes closable (fun _ => True) before
            (before.clientUnsubscribe client topic).2 :=
        clientUnsubscribe_changes trivial
          (linked.unconnected_of_local isLocal) topic
      exact .inr changes.transitions
  | connectUpstream alive established _ returned =>
      rw [eq_uplinked returned]
      exact .inr
        (uplinked_transitions linked alive established
          (upstreams alive))
  | internTopic name => exact .inr (.single (.change 0 _ (.topics _)))
  | releaseTopic topic => exact .inr (.single (.change 0 _ (.topics _)))
  | environment os => exact .inr (.single (.system os))

/-- A step that may close anybody. -/
theorem Step.transitionsFree
    {action : Action Os}
    (linked : Linked broker before)
    (step : Step broker before action after) :
    action = .accept ∧ after = before.accept broker ∨
      Transitions broker (fun _ _ => True) before after :=
  step.transitions linked (fun _ _ _ _ => trivial) (fun _ _ _ => trivial)
    (fun _ _ _ _ _ _ _ _ => trivial) fun _ _ => trivial

/-- Every step keeps the links in order. -/
theorem Linked.step
    {action : Action Os}
    (linked : Linked broker before)
    (step : Step broker before action after) :
    Linked broker after := by
  rcases step.transitionsFree linked with ⟨_, rfl⟩ | transitions
  · exact linked.accept
  · exact linked.transitions transitions

/--
What accepts and transitions preserve holds at the end of a run, and so do
the links.
-/
theorem Run.invariant_of
    {condition : World Index Os → Action Os → Prop}
    {invariant : World Index Os → Prop}
    (linked : Linked broker before)
    (run : Run broker condition before after)
    (start : invariant before)
    (decompose :
      ∀ first action second, Linked broker first → invariant first →
        condition first action → Step broker first action second →
        action = .accept ∧ second = first.accept broker ∨
          Transitions broker closable first second)
    (accept :
      ∀ world, Linked broker world → condition world .accept →
        invariant world → invariant (world.accept broker))
    (transition :
      ∀ first second, Linked broker first →
        Transition broker closable first second →
        invariant first → invariant second) :
    Linked broker after ∧ invariant after := by
  let both (world : World Index Os) : Prop :=
    Linked broker world ∧ invariant world
  have transitionBoth :
      ∀ first second, Transition broker closable first second →
        both first → both second := by
    rintro first second next ⟨linked, holds⟩
    exact ⟨linked.transition next,
      transition first second linked next holds⟩
  have stepBoth :
      ∀ first second,
        (∃ action, Step broker first action second ∧
          condition first action) →
        both first → both second := by
    rintro first second ⟨action, step, allowed⟩ ⟨linked, holds⟩
    rcases decompose first action second linked holds allowed step with
      ⟨rfl, rfl⟩ | transitions
    · exact ⟨linked.accept, accept first linked allowed holds⟩
    · exact run_preserves transitionBoth transitions ⟨linked, holds⟩
  exact run_preserves stepBoth run ⟨linked, start⟩

/-- The same for a run of a fresh device in which anybody may be closed. -/
theorem Run.invariant
    {condition : World Index Os → Action Os → Prop}
    {invariant : World Index Os → Prop}
    (initial : Initial before broker)
    (run : Run broker condition before after)
    (start : invariant before)
    (accept :
      ∀ world, Linked broker world → condition world .accept →
        invariant world → invariant (world.accept broker))
    (transition :
      ∀ first second, Linked broker first →
        Transition broker (fun _ _ => True) first second →
        invariant first → invariant second) :
    Linked broker after ∧ invariant after :=
  Run.invariant_of (.initial initial) run start
    (fun _ _ _ linked _ _ step => step.transitionsFree linked)
    accept transition

/-- The links are in order in every reachable state. -/
theorem Linked.run
    {condition : World Index Os → Action Os → Prop}
    (initial : Initial before broker)
    (run : Run broker condition before after) :
    Linked broker after := by
  refine run_preserves ?_ run (Linked.initial initial)
  rintro first second ⟨action, step, _⟩ linked
  exact linked.step step

end World

end SimpleTlsBroker
