import SimpleTlsBroker.ReadLoop
import SimpleTlsBroker.Transitions

namespace SimpleTlsBroker

/-!
# Reception along a run

The bytes of a connection may arrive over many calls of the loop, with any
other actions of the broker between them.  A client still hands on what
`receive` makes of the bytes it was fed, and nothing else.
-/

open History

namespace World

open MqttMessage (receive)

variable {Index Os : Type} [Platform Os]
variable {broker : BrokerId}
variable {before middle after world : World Index Os}
variable {client : ClientId}

omit [Platform Os] in
/-- A new client is not one that existed before. -/
theorem ReceptionKept.created
    {record : MqttClient}
    (created : Created broker record before after)
    (born : client < before.next)
    (grown :
      Grown (fun event => ¬ event.IsReception client) before.trace
        after.trace) :
    ReceptionKept client before after := by
  have same := created.other client (Nat.ne_of_lt born)
  exact ⟨by rw [same], by rw [same],
    created.next ▸ Nat.le_succ before.next, grown⟩

/-- An accept feeds nobody. -/
theorem accept_receptionKept
    (broker : BrokerId)
    (born : client < world.next) :
    ReceptionKept client world (world.accept broker) := by
  have grown :
      Grown (fun event => ¬ event.IsReception client) world.trace
        (world.accept broker).trace := by
    refine (trace_accept world broker).weaken ?_
    rintro event (isDeletion | ⟨slot, rfl⟩)
    · cases event <;> simp_all [Event.IsDeletion, Event.IsReception]
    · exact id
  cases found : world.device.checkAvail.1 with
  | none =>
      rw [accept_none broker found] at grown ⊢
      exact ⟨rfl, rfl, Nat.le_refl _, grown⟩
  | some slot =>
      exact .created (created_accept broker found).1 born grown

variable [Indexer Index]

omit [Platform Os] in
/-- Keeping a subscription receives nothing. -/
theorem insertSubscription_receptionKept
    (client : ClientId)
    (world : World Index Os)
    (other : ClientId)
    (topic : Topic) :
    ReceptionKept client world (world.insertSubscription other topic) := by
  have used :
      ReceptionKept client world
        (if topic ∈ (world.clients other).subscriptions then
          world
        else
          world.useTopic topic) := by
    split
    · exact .refl client world
    · exact ⟨rfl, rfl, Nat.le_refl _, .refl _⟩
  have keeps :=
    keepsReception_subscriptions fun subscriptions =>
      subscriptions.insert topic
  exact used.trans
    (.modifyClient client _ other keeps.toKeepsLinks keeps.message)

/-- `MqttClient::subscribe` receives nothing. -/
theorem clientSubscribe_receptionKept
    {fuel : Nat}
    {target : ClientId}
    {topic : Topic}
    {qos : Byte}
    {ret : MqttError}
    (client : ClientId)
    (returned :
      clientSubscribe fuel world target topic qos = some (ret, after)) :
    ReceptionKept client world after :=
  clientSubscribe_relates .trans
    (fun world other =>
      insertSubscription_receptionKept client world other topic)
    (fun world other _ => (Spared.sendTo client world _ other).toReceptionKept)
    returned

/-- `MqttClient::unsubscribe` receives nothing. -/
theorem clientUnsubscribe_receptionKept
    (client : ClientId)
    (world : World Index Os)
    (other : ClientId)
    (topic : Topic) :
    ReceptionKept client world (world.clientUnsubscribe other topic).2 := by
  have keeps :=
    keepsReception_subscriptions fun subscriptions =>
      subscriptions.erase topic
  have erased :
      ReceptionKept client world
        ((world.modifyClient other fun record =>
          { record with
            subscriptions := record.subscriptions.erase topic
          }).releaseTopic topic) :=
    .trans (.modifyClient client world other keeps.toKeepsLinks keeps.message)
      ⟨rfl, rfl, Nat.le_refl _, .refl _⟩
  exact clientUnsubscribe_relates (.refl client) .trans erased
    fun world _ => (Spared.sendTo client world _ other).toReceptionKept

/-- A publication of the application does not feed a networked client. -/
theorem publishBuilt_receptionKept
    (isRemote : (world.clients client).client = true)
    (source : ClientId)
    (topic : Topic)
    (payload : List Byte) :
    ReceptionKept client world (world.publishBuilt source topic payload).2 := by
  unfold publishBuilt
  dsimp only
  split
  · exact (publish_spared isRemote _ _ _ _).toReceptionKept
  · exact (Spared.sendTo client world _ source).toReceptionKept
  · exact .refl client world

omit [Indexer Index] in
/-- `MqttClient::connect` receives nothing. -/
theorem hosted_receptionKept
    (isRemote : (world.clients client).client = true)
    (other : ClientId)
    (keepAlive : Nat)
    (established : Bool) :
    ReceptionKept client world
      (world.hosted other keepAlive established) := by
  have keeps := keepsReception_keepAlive keepAlive
  have timed :
      ReceptionKept client world
        (world.modifyClient other fun record =>
          { record with keepAlive := keepAlive }) :=
    .modifyClient client world other keeps.toKeepsLinks keeps.message
  have closed :=
    timed.trans (Spared.close client _ other).toReceptionKept
  have linked :
      ReceptionKept client world
        (((world.modifyClient other fun record =>
            { record with keepAlive := keepAlive }).close other).modifyClient
          other fun record => { record with client := true }) := by
    by_cases same : client = other
    · subst same
      refine ⟨?_, ?_, closed.next, closed.trace⟩
      · simp [isRemote]
      · simpa using closed.message
    · exact closed.trans (.modifyOther _ same _)
  unfold hosted onConnect
  dsimp only
  split
  · exact (linked.trans (Spared.sendTo client _ _ _).toReceptionKept).trans
      (Spared.clientAlive client _ _ _).toReceptionKept
  · exact linked

omit [Indexer Index] in
/-- Setting up the upstream link receives nothing. -/
theorem uplinked_receptionKept
    (isRemote : (world.clients client).client = true)
    (born : client < world.next)
    (broker : BrokerId)
    (alive : Nat)
    (established : Bool) :
    ReceptionKept client world
      (world.uplinked broker alive established) := by
  have created :
      ReceptionKept client world (world.upstreamLink broker alive).2 := by
    unfold upstreamLink
    split
    · exact .refl client world
    · have same := Nat.ne_of_lt born
      exact ⟨by simp [modifyBroker, same], by simp [modifyBroker, same],
        Nat.le_succ _, .refl _⟩
  unfold uplinked
  dsimp only
  have connected :=
    created.trans (hosted_receptionKept (created.remote.trans isRemote)
      (world.upstreamLink broker alive).1 10 established)
  by_cases same : client = (world.upstreamLink broker alive).1
  · rw [← same] at connected ⊢
    refine ⟨?_, ?_, connected.next, connected.trace⟩
    · simpa using connected.remote
    · simpa using connected.message
  · exact connected.trans (.modifyOther _ same _)

/-- A step that does not read from a networked client feeds it nothing. -/
theorem Step.receptionKept
    {action : Action Os}
    (step : Step broker before action after)
    (isRemote : (before.clients client).client = true)
    (born : client < before.next)
    (notPoll : action ≠ .poll client) :
    ReceptionKept client before after := by
  cases step with
  | accept => exact accept_receptionKept broker born
  | expire other _ =>
      exact (expire_spared client before other).toReceptionKept
  | poll other _ =>
      refine poll_receptionKept isRemote ?_
      rintro rfl
      exact notPoll rfl
  | newLocal id alive =>
      exact .created (created_newLocal before broker id alive) born (.refl _)
  | setCallback other isLocal =>
      have distinct : client ≠ other := by
        rintro rfl
        rw [isRemote] at isLocal
        contradiction
      exact .modifyOther before distinct _
  | publish source topic payload _ ret after returned =>
      rw [eq_published returned]
      exact publishBuilt_receptionKept isRemote source topic payload
  | subscribe other topic qos _ fuel ret after returned =>
      exact clientSubscribe_receptionKept client returned
  | unsubscribe other topic _ =>
      exact clientUnsubscribe_receptionKept client before other topic
  | connectUpstream alive established after returned =>
      rw [eq_uplinked returned]
      exact uplinked_receptionKept isRemote born broker alive established
  | internTopic name => exact ⟨rfl, rfl, Nat.le_refl _, .refl _⟩
  | releaseTopic topic => exact ⟨rfl, rfl, Nat.le_refl _, .refl _⟩
  | environment os => exact ⟨rfl, rfl, Nat.le_refl _, .refl _⟩

/-- A step feeds one byte to a networked client at most. -/
theorem Step.receives
    {action : Action Os}
    (step : Step broker before action after)
    (isRemote : (before.clients client).client = true)
    (born : client < before.next) :
    ∃ bytes, bytes.length ≤ 1 ∧ Receives client bytes before after := by
  by_cases isPoll : action = .poll client
  · subst isPoll
    cases step with
    | poll => exact poll_receives isRemote
  · exact ⟨[], Nat.zero_le 1,
      .of_kept (step.receptionKept isRemote born isPoll)⟩

/--
In every run a networked client hands on what `receive` makes of the bytes it
is fed.
-/
theorem Run.receives
    {condition : World Index Os → Action Os → Prop}
    (run : Run broker condition before after)
    (isRemote : (before.clients client).client = true)
    (born : client < before.next) :
    ∃ bytes, Receives client bytes before after := by
  induction run with
  | refl => exact ⟨[], .of_kept (.refl client before)⟩
  | tail _ last inductionHypothesis =>
      obtain ⟨bytes, receives⟩ := inductionHypothesis
      obtain ⟨action, step, _⟩ := last
      obtain ⟨byte, _, receivesLast⟩ :=
        step.receives (receives.remote.trans isRemote)
          (Nat.lt_of_lt_of_le born receives.next)
      exact ⟨bytes ++ byte, receives.trans receivesLast⟩

end World

end SimpleTlsBroker
