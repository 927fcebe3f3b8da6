import SimpleTlsBroker.ClientLists

namespace SimpleTlsBroker

/-!
# Attaching a client to a local broker

`connect` to a broker of the same program sets the pointer of the client but
does not call `addClient`, as the constructor does.  `publish` walks the list,
so such a client never gets a message through its broker, whatever happens
later.
-/

open History

namespace Event

/-- The invocation of the callback of a client. -/
def calls (client : ClientId) : Event → Bool
  | .callback other _ _ => other = client
  | _ => false

/-- Such an event is about the client. -/
theorem client?_of_calls
    {client : ClientId}
    {event : Event}
    (called : event.calls client = true) :
    event.client? = some client := by
  cases event <;> simp_all [calls, client?]

end Event

namespace Trace

/-- How often the callback of a client was invoked. -/
def calls (trace : Trace) (client : ClientId) : Nat :=
  trace.countP (Event.calls client)

/-- Events about others do not call a client. -/
theorem calls_grown
    {client : ClientId}
    {earlier later : Trace}
    (grown : Grown (fun event => event.client? ≠ some client) earlier later) :
    later.calls client = earlier.calls client := by
  obtain ⟨since, rfl, others⟩ := grown
  unfold calls
  rw [List.countP_append, List.countP_eq_zero.mpr, Nat.zero_add]
  intro event member called
  exact others event member (Event.client?_of_calls called)

end Trace

namespace World

variable {Index Os : Type}
variable {world before attached later : World Index Os}
variable {client source : ClientId}
variable {broker : BrokerId}
variable {topic : Topic}
variable {msg : MqttMessage}

/-- The members of a true list can be delivered to. -/
theorem deliverable_of_consistent
    (consistent : world.attachments.Consistent)
    (noUpstream : (world.brokers broker).broker = none) :
    Deliverable broker world where
  nodup := consistent.nodup broker
  active client member := by
    left
    change world.attachments.parent client ≠ none
    rw [consistent.parent broker client member]
    exact Option.some_ne_none broker
  unconnected upstream isUpstream := by
    rw [noUpstream] at isUpstream
    contradiction

variable [Platform Os]

/-- A client points to the broker it connects to. -/
theorem parent_connectBroker
    (world : World Index Os)
    (client : ClientId)
    (broker : BrokerId) :
    ((world.connectBroker client (some broker)).clients client).parent =
      some broker := by
  change (world.connectBroker client (some broker)).attachments.parent
    client = _
  rw [attachments_connectBroker]
  exact Function.update_self ..

/-- No list holds it any more. -/
theorem loose_connectBroker
    (consistent : world.attachments.Consistent)
    (constructed : client < world.next)
    (broker : BrokerId) :
    (world.connectBroker client (some broker)).attachments.Loose client := by
  have detached : (world.attachments.detach client).Loose client :=
    consistent.loose_detach constructed
  rw [attachments_connectBroker]
  exact ⟨detached.known, detached.unlisted⟩

variable [Indexer Index]

/-- A publication calls clients of the list only. -/
theorem publish_callsListed
    (consistent : world.attachments.Consistent)
    (noUpstream : (world.brokers broker).broker = none)
    (notMember : client ∉ world.members broker)
    (isPublish : msg.kind? = some .publish)
    (source : ClientId)
    (topic : Topic) :
    (world.publish broker source topic msg).2.trace.calls client =
      world.trace.calls client := by
  have changes :
      Changes (fun _ _ => True) _ world
        (world.publish broker source topic msg).2 :=
    publish_changes (deliverable_of_consistent consistent noUpstream)
      source topic (complete_of_publish isPublish) fun _ _ _ _ => trivial
  refine Trace.calls_grown (changes.sparesOthers ?_)
  rintro (member | isUpstream)
  · exact notMember member
  · rw [noUpstream] at isUpstream
    contradiction

omit [Platform Os] in
/-- Keeping a subscription subscribes. -/
theorem isSubscribedTo_insertSubscription
    (world : World Index Os)
    (client : ClientId)
    (topic : Topic) :
    (world.insertSubscription client topic).isSubscribedTo client topic =
      true := by
  unfold isSubscribedTo insertSubscription
  rw [clients_modifyClient_self]
  refine List.any_eq_true.mpr ⟨topic, ?_, ?_⟩
  · exact TopicSet.mem_insert.mpr (.inl rfl)
  · simp [Topic.matchesTopic]

omit [Platform Os] in
/-- Keeping a subscription keeps the callback. -/
theorem callback_insertSubscription
    (world : World Index Os)
    (client : ClientId)
    (topic : Topic) :
    ((world.insertSubscription client topic).clients client).callback =
      (world.clients client).callback := by
  unfold insertSubscription
  rw [clients_modifyClient_self]
  dsimp only
  split
  · rfl
  · rfl

/-- A client that points to a broker may set a callback and subscribe. -/
theorem subscribes_of_attached
    (isParent : (world.clients client).parent = some broker)
    (noUpstream : (world.brokers broker).broker = none)
    (topic : Topic) :
    ∃ later,
      LifeRun freely world later ∧
        (later.clients client).parent = some broker ∧
        (later.clients client).callback = true ∧
        later.isSubscribedTo client topic = true ∧
        (later.brokers broker).broker = none := by
  have called := setCallback_kept world client
  have subscribed :=
    insertSubscription_kept (world.setCallback client) client topic
  have kept := called.trans subscribed
  have laterParent := (kept.parent client).trans isParent
  have laterUpstream :
      (((world.setCallback client).insertSubscription client topic).brokers
        broker).broker = none := by
    rw [kept.brokers]
    exact noUpstream
  have returned :
      clientSubscribe 1 (world.setCallback client) client topic 0 =
        some (.nowhereToSend,
          (world.setCallback client).insertSubscription client topic) := by
    rw [clientSubscribe, laterParent]
    dsimp only
    rw [laterUpstream]
  refine ⟨_, Relation.ReflTransGen.refl
    |>.tail (LifeStep.setCallback client).freely
    |>.tail (LifeStep.subscribe client topic 0 1 _ _ returned).freely,
    laterParent, ?_,
    isSubscribedTo_insertSubscription _ client topic, laterUpstream⟩
  rw [callback_insertSubscription]
  unfold setCallback
  rw [clients_modifyClient_self]

/--
In every reachable state a client that connects to a local broker points to
it and is on no list.  It can set a callback and subscribe to any topic, but
no publication through the broker will call it, however long the run goes on.
-/
theorem connectBroker_never_effective
    (fresh : Fresh before)
    (run : LifeRun freely before world)
    (constructed : client < world.next)
    (broker : BrokerId)
    (noUpstream : (world.brokers broker).broker = none) :
    ((world.connectBroker client (some broker)).clients client).parent =
        some broker ∧
      client ∉ (world.connectBroker client (some broker)).members broker ∧
      (∀ topic, ∃ later,
        LifeRun freely (world.connectBroker client (some broker)) later ∧
          (later.clients client).parent = some broker ∧
          (later.clients client).callback = true ∧
          later.isSubscribedTo client topic = true ∧
          (later.brokers broker).broker = none) ∧
      ∀ later,
        LifeRun freely (world.connectBroker client (some broker)) later →
          (later.brokers broker).broker = none →
            client ∉ later.members broker ∧
              ∀ source topic msg, msg.kind? = some .publish →
                (later.publish broker source topic msg).2.trace.calls
                    client =
                  later.trace.calls client := by
  have consistent := run.consistent fresh
  have connected :
      LifeStep world (fun _ => False)
        (some (world.connectBroker client (some broker))) :=
    .connectBroker client (some broker)
  have attached := consistent.run (connected.refines consistent)
  have loose := loose_connectBroker consistent constructed broker
  have isParent := parent_connectBroker world client broker
  refine ⟨isParent, loose.unlisted broker, ?_, ?_⟩
  · intro topic
    refine subscribes_of_attached isParent ?_ topic
    exact (upstream_close world client broker).trans noUpstream
  · intro later continued stillAlone
    have refines := continued.refines attached
    have notMember : client ∉ later.members broker :=
      (loose.run refines).unlisted broker
    exact ⟨notMember, fun source topic msg isPublish =>
      publish_callsListed (attached.run refines) stillAlone notMember
        isPublish source topic⟩

/-! ## Two local clients of one broker -/

/-- A local client that was constructed without a broker. -/
def loneClient : World StringIndexer Script :=
  (Script.mk 0 [] [] []).setup.newClient none [] 0

/--
The lone client connects to a broker that another client was constructed
with; both set a callback and subscribe to `"a"`.
-/
def siblings : World StringIndexer Script :=
  let world :=
    ((loneClient.connectBroker 0 (some 0)).newClient (some 0) [] 0)
  let world := (world.setCallback 0).setCallback 1
  let world := (world.internTopic [0x61]).2
  (world.insertSubscription 0 ⟨1⟩).insertSubscription 1 ⟨1⟩

/-- The siblings are reached after the lone client has connected. -/
theorem run_siblings :
    LifeRun freely (loneClient.connectBroker 0 (some 0)) siblings :=
  Relation.ReflTransGen.refl
    |>.tail (LifeStep.newClient (some 0) [] 0).freely
    |>.tail (LifeStep.setCallback 0).freely
    |>.tail (LifeStep.setCallback 1).freely
    |>.tail (LifeStep.internTopic [0x61]).freely
    |>.tail (LifeStep.subscribe 0 ⟨1⟩ 0 1 .nowhereToSend _ rfl).freely
    |>.tail (LifeStep.subscribe 1 ⟨1⟩ 0 1 .nowhereToSend _ rfl).freely

/-- The lone client is not called. -/
theorem connectBroker_never_effective_lone :
    0 ∉ siblings.members 0 ∧
      (siblings.publish 0 1 ⟨1⟩
          (publishMessage [0x61] [0x78])).2.trace.calls 0 =
        siblings.trace.calls 0 := by
  obtain ⟨_, _, _, never⟩ :=
    connectBroker_never_effective (fresh_setup (Script.mk 0 [] [] []))
      (.single (LifeStep.newClient none [] 0).freely) (by decide : 0 < loneClient.next) 0 rfl
  obtain ⟨notMember, notCalled⟩ := never siblings run_siblings (by decide)
  exact ⟨notMember, notCalled 1 ⟨1⟩ _ (by decide)⟩

/-- Of the two siblings one is called, although both point to the broker. -/
theorem siblings_called :
    LifeRun freely (Script.mk 0 [] [] []).setup siblings ∧
      (siblings.clients 0).parent = some 0 ∧
      (siblings.clients 0).client = false ∧
      (siblings.clients 0).callback = true ∧
      siblings.isSubscribedTo 0 ⟨1⟩ = true ∧
      (siblings.brokers 0).broker = none ∧
      siblings.members 0 = [1] ∧
      (siblings.publish 0 1 ⟨1⟩
          (publishMessage [0x61] [0x78])).2.trace.calls 0 =
        siblings.trace.calls 0 ∧
      (siblings.publish 0 1 ⟨1⟩
          (publishMessage [0x61] [0x78])).2.trace.calls 1 =
        siblings.trace.calls 1 + 1 := by
  refine ⟨?_, by decide, by decide, by decide, by decide, by decide,
    by decide, by decide, by decide⟩
  exact .trans
    (Relation.ReflTransGen.refl
      |>.tail (LifeStep.newClient none [] 0).freely
      |>.tail (LifeStep.connectBroker 0 (some 0)).freely)
    run_siblings

end World

end SimpleTlsBroker
