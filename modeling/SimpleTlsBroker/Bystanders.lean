import SimpleTlsBroker.ReadLoop
import SimpleTlsBroker.StepTransitions

namespace SimpleTlsBroker

/-!
# Bystanders

A networked client that its broker neither lists nor uses as its upstream link
takes no part in any step: its record stays as it is, and no event is about it.
-/

open History

namespace World

variable {Index Os : Type}

/-- A client took no part in what happened. -/
structure Aside
    (client : ClientId)
    (before after : World Index Os) : Prop where
  record : after.clients client = before.clients client
  next : before.next ≤ after.next
  trace :
    Grown (fun event => event.client? ≠ some client) before.trace after.trace

variable {broker : BrokerId}
variable {client other : ClientId}
variable {before middle after world : World Index Os}

namespace Aside

theorem refl
    (client : ClientId)
    (world : World Index Os) :
    Aside client world world :=
  ⟨rfl, Nat.le_refl _, .refl _⟩

theorem trans
    (first : Aside client before middle)
    (second : Aside client middle after) :
    Aside client before after where
  record := second.record.trans first.record
  next := Nat.le_trans first.next second.next
  trace := first.trace.trans second.trace

/-- An event about somebody else. -/
theorem log
    (world : World Index Os)
    {event : Event}
    (others : event.client? ≠ some client) :
    Aside client world (world.log event) :=
  ⟨rfl, Nat.le_refl _, .single others⟩

/-- A change of somebody else. -/
theorem modifyOther
    (world : World Index Os)
    (distinct : client ≠ other)
    (change : MqttClient → MqttClient) :
    Aside client world (world.modifyClient other change) :=
  ⟨clients_modifyClient_other world change distinct, Nat.le_refl _, .refl _⟩

/-- Work on the sessions. -/
theorem device
    {device : Device Os}
    (grown :
      Grown (fun event => ∃ slot fd, event.OnSession slot fd)
        world.trace device.trace) :
    Aside client world { world with device := device } := by
  refine ⟨rfl, Nat.le_refl _, grown.weaken ?_⟩
  rintro event ⟨slot, fd, onSession⟩
  simp [onSession.client?]

/-- A new client is somebody else. -/
theorem created
    {record : MqttClient}
    (created : Created broker record before after)
    (born : client < before.next)
    (grown :
      Grown (fun event => event.client? ≠ some client) before.trace
        after.trace) :
    Aside client before after where
  record := created.other client (Nat.ne_of_lt born)
  next := created.next ▸ Nat.le_succ before.next
  trace := grown

end Aside

variable [Platform Os]
variable {closable : World Index Os → ClientId → Prop}
variable {actors : ClientId → Prop}

/-- Changes create nobody. -/
theorem Changes.next
    (changes : Changes closable actors before after) :
    after.next = before.next := by
  induction changes with
  | refl => rfl
  | tail _ last inductionHypothesis =>
      obtain ⟨actor, _, change⟩ := last
      rw [← inductionHypothesis]
      rcases change.quiet_or with quiet | ⟨bytes, _, rfl⟩ | ⟨_, rfl⟩
      · exact quiet.next
      · rfl
      · exact next_close _ actor

/-- Changes leave a client aside that does not act. -/
theorem Changes.aside
    (changes : Changes closable actors before after)
    (idle : ¬ actors client) :
    Aside client before after :=
  ⟨changes.other idle, Nat.le_of_eq changes.next.symm,
    changes.sparesOthers idle⟩

/-- A change of somebody else. -/
theorem Change.aside
    (change : Change closable other before after)
    (distinct : client ≠ other) :
    Aside client before after := by
  have changes :
      Changes closable (fun actor => actor = other) before after :=
    .single ⟨other, rfl, change⟩
  exact changes.aside distinct

/-- An accept makes a new client. -/
theorem accept_aside
    (broker : BrokerId)
    (born : client < world.next) :
    Aside client world (world.accept broker) := by
  have grown :
      Grown (fun event => event.client? ≠ some client) world.trace
        (world.accept broker).trace := by
    refine (trace_accept world broker).weaken ?_
    rintro event (isDeletion | ⟨slot, rfl⟩)
    · cases event <;> simp_all [Event.IsDeletion, Event.client?]
    · simpa [Event.client?] using Nat.ne_of_gt born
  cases found : world.device.checkAvail.1 with
  | none =>
      rw [accept_none broker found] at grown ⊢
      exact ⟨rfl, Nat.le_refl _, grown⟩
  | some slot =>
      exact .created (created_accept broker found).1 born grown

/-- Connecting somebody else to a host. -/
theorem hosted_aside
    (distinct : client ≠ other)
    (unconnected : (world.clients other).connection = none)
    (ka : Nat)
    (established : Bool) :
    Aside client world (world.hosted other ka established) := by
  have timed :
      Aside client world
        (world.modifyClient other fun record =>
          { record with keepAlive := ka }) :=
    .modifyOther world distinct _
  have closed :
      Change (fun _ _ => True) other
        (world.modifyClient other fun record =>
          { record with keepAlive := ka })
        ((world.modifyClient other fun record =>
          { record with keepAlive := ka }).close other) :=
    .close trivial
  have opened :=
    (timed.trans (closed.aside distinct)).trans
      (.modifyOther _ distinct fun record => { record with client := true })
  unfold hosted
  dsimp only
  split
  · have greeted :
        Changes (fun _ _ => True) (fun actor => actor = other)
          (((world.modifyClient other fun record =>
            { record with keepAlive := ka }).close other).modifyClient other
              fun record => { record with client := true })
          ((((world.modifyClient other fun record =>
            { record with keepAlive := ka }).close other).modifyClient other
              fun record => { record with client := true }).onConnect
                other) := by
      refine onConnect_changes rfl ?_
      simpa [connection_close] using unconnected
    exact opened.trans (greeted.aside distinct)
  · exact opened

omit [Platform Os] in
/-- An old client that is not the upstream link does not become it. -/
theorem ne_upstreamLink
    (notUpstream : (world.brokers broker).broker ≠ some client)
    (born : client < world.next)
    (alive : Nat) :
    client ≠ (world.upstreamLink broker alive).1 := by
  rintro rfl
  cases isUpstream : (world.brokers broker).broker with
  | none =>
      simp only [upstreamLink, isUpstream] at born
      exact Nat.lt_irrefl _ born
  | some upstream =>
      simp only [upstreamLink, isUpstream] at notUpstream
      exact notUpstream rfl

/-- Setting up the upstream link. -/
theorem uplinked_aside
    (linked : Linked broker world)
    (idle : ¬ world.Polled broker client)
    (born : client < world.next)
    (alive : Nat)
    (established : Bool) :
    Aside client world (world.uplinked broker alive established) := by
  have distinct : client ≠ (world.upstreamLink broker alive).1 :=
    ne_upstreamLink (fun isUpstream => idle (.inr isUpstream)) born alive
  have created : Aside client world (world.upstreamLink broker alive).2 := by
    unfold upstreamLink
    split
    · exact .refl client world
    · have same := Nat.ne_of_lt born
      exact ⟨by simp [modifyBroker, same], Nat.le_succ _, .refl _⟩
  have transitions :
      Transitions broker (fun _ _ => True) world
        (world.upstreamLink broker alive).2 :=
    upstreamLink_transitions world broker alive
  have unconnected :=
    (linked.transitions transitions).unconnected _
      (broker_upstreamLink world broker alive)
  unfold uplinked
  dsimp only
  exact (created.trans
    (hosted_aside distinct unconnected 10 established)).trans
      (.modifyOther _ distinct _)

variable [Indexer Index]

/-- Without session a round does nothing. -/
theorem poll_unconnected
    (unconnected : (world.clients other).connection = none) :
    world.poll other = (false, world) := by
  refine poll_of_shut fun slot connected => ?_
  rw [unconnected] at connected
  contradiction

/-- A round of the read loop of somebody whom the broker polls. -/
theorem poll_aside
    (linked : Linked broker world)
    (polled : world.Polled broker other)
    (idle : ¬ world.Polled broker client)
    (isRemote : (world.clients other).client = true) :
    Aside client world (world.poll other).2 := by
  obtain ⟨device, work, result | ⟨slot, byte, result⟩⟩ :=
    world.poll_cases other
  · rw [result]
    exact .device work.trace
  · let fed : World Index Os :=
      { world with device := device }.log (.fed other slot byte)
    have distinct : client ≠ other := by
      rintro rfl
      exact idle polled
    have read : Aside client world fed := by
      refine (Aside.device work.trace).trans (.log _ ?_)
      simpa [Event.client?] using distinct.symm
    have fedLinked : Linked broker fed :=
      (linked.device device).kept (.log _ _)
    have processed :
        Changes (fun _ _ => True) (World.Polled fed broker) fed
          (fed.feed other byte) :=
      feed_changes byte fedLinked polled (fun _ => id) isRemote
        fun _ _ => trivial
    rw [result]
    exact read.trans (processed.aside idle)

/-- Every step leaves a networked client aside that the broker does not poll. -/
theorem Step.aside
    {action : Action Os}
    (linked : Linked broker before)
    (step : Step broker before action after)
    (isRemote : (before.clients client).client = true)
    (idle : ¬ before.Polled broker client)
    (born : client < before.next) :
    Aside client before after := by
  have distinctOfLocal {other : ClientId}
      (isLocal : (before.clients other).client = false) :
      client ≠ other := by
    rintro rfl
    rw [isRemote] at isLocal
    contradiction
  cases step with
  | accept => exact accept_aside broker born
  | expire other polled =>
      have changes :
          Changes (fun _ _ => True) (before.Polled broker) before
            (before.expire other) :=
        expire_changes polled fun _ => trivial
      exact changes.aside idle
  | poll other polled =>
      cases connected : (before.clients other).connection with
      | none =>
          rw [poll_unconnected connected]
          exact .refl client before
      | some slot =>
          exact poll_aside linked polled idle
            (linked.remote other slot connected)
  | newLocal id alive =>
      exact .created (created_newLocal before broker id alive) born (.refl _)
  | setCallback other isLocal =>
      exact .modifyOther before (distinctOfLocal isLocal) _
  | publish source topic payload isLocal ret _ returned =>
      rw [eq_published returned]
      have changes :
          Changes (fun _ _ => True) (before.Polled broker) before
            (before.publishBuilt source topic payload).2 :=
        publishBuilt_changes linked (fun _ => id) isLocal topic payload
          fun _ _ _ _ => trivial
      exact changes.aside idle
  | subscribe other topic qos isLocal fuel ret _ returned =>
      have changes :
          Changes (fun _ _ => True)
            (fun actor => actor = other ∨ before.Polled broker actor)
            before after :=
        clientSubscribe_changes linked (.inl rfl)
          (fun _ isUpstream => .inr (.inr isUpstream))
          (linked.unconnected_of_local isLocal) returned
      refine changes.aside ?_
      rintro (same | polled)
      · exact distinctOfLocal isLocal same
      · exact idle polled
  | unsubscribe other topic isLocal =>
      have changes :
          Changes (fun _ _ => True) (fun actor => actor = other) before
            (before.clientUnsubscribe other topic).2 := by
        refine clientUnsubscribe_changes ?_
          (linked.unconnected_of_local isLocal) topic
        rfl
      exact changes.aside (distinctOfLocal isLocal)
  | connectUpstream alive established _ returned =>
      rw [eq_uplinked returned]
      exact uplinked_aside linked idle born alive established
  | internTopic name => exact ⟨rfl, Nat.le_refl _, .refl _⟩
  | releaseTopic topic => exact ⟨rfl, Nat.le_refl _, .refl _⟩
  | environment os => exact ⟨rfl, Nat.le_refl _, .refl _⟩

end World

end SimpleTlsBroker
