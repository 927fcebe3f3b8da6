import SimpleTlsBroker.Changes

namespace SimpleTlsBroker

/-!
# Steps as sequences of transitions

Every step of a run accepts a connection or is a sequence of elementary
transitions: the changes of messages, the calls that read a session, and the
few operations that create or link a client.  An invariant of all runs is
checked on these only.
-/

open History

namespace World

variable {Index Os : Type}

/-! ## How clients and brokers are linked -/

/-- The links between one broker, its clients and its upstream link. -/
structure Linked
    (broker : BrokerId)
    (world : World Index Os) : Prop where
  memberParent :
    ∀ client ∈ world.members broker,
      (world.clients client).parent = some broker
  parentBroker :
    ∀ client parent, (world.clients client).parent = some parent →
      parent = broker
  attached :
    ∀ client, (world.clients client).parent ≠ none →
      client ∈ world.members broker ∨
        (world.brokers broker).broker = some client
  nodup : (world.members broker).Nodup
  remote :
    ∀ client slot, (world.clients client).connection = some slot →
      (world.clients client).client = true
  unconnected :
    ∀ upstream, (world.brokers broker).broker = some upstream →
      (world.clients upstream).connection = none
  outside :
    ∀ upstream, (world.brokers broker).broker = some upstream →
      upstream ∉ world.members broker ∧ upstream < world.next
  unborn :
    ∀ client, world.next ≤ client →
      (world.clients client).parent = none ∧
        (world.clients client).connection = none

namespace Linked

variable {broker : BrokerId}
variable {before after world : World Index Os}

/-- A member was created before. -/
theorem member_lt_next
    (linked : Linked broker world)
    {client : ClientId}
    (member : client ∈ world.members broker) :
    client < world.next := by
  by_contra notBorn
  have detached := (linked.unborn client (Nat.le_of_not_lt notBorn)).1
  rw [linked.memberParent client member] at detached
  contradiction

/-- Members may be delivered to. -/
theorem deliverable (linked : Linked broker world) :
    Deliverable broker world where
  nodup := linked.nodup
  active client member := by
    left
    rw [linked.memberParent client member]
    simp
  unconnected := linked.unconnected

/-- Whoever the broker polls is active. -/
theorem active_of_polled
    (linked : Linked broker world)
    {client : ClientId}
    (polled : world.Polled broker client) :
    world.Active client := by
  rcases polled with member | isUpstream
  · exact linked.deliverable.active client member
  · exact .inr (linked.unconnected client isUpstream)

/-- A client with a session was created before. -/
theorem lt_next
    (linked : Linked broker world)
    {client : ClientId}
    {slot : SlotId}
    (connected : (world.clients client).connection = some slot) :
    client < world.next := by
  by_contra notBorn
  have unconnected := (linked.unborn client (Nat.le_of_not_lt notBorn)).2
  rw [connected] at unconnected
  contradiction

/-- A networked client without broker is not polled. -/
theorem not_polled
    (linked : Linked broker world)
    {client : ClientId}
    {slot : SlotId}
    (detached : (world.clients client).parent = none)
    (connected : (world.clients client).connection = some slot) :
    ¬ world.Polled broker client := by
  rintro (member | isUpstream)
  · rw [linked.memberParent client member] at detached
    contradiction
  · rw [linked.unconnected client isUpstream] at connected
    contradiction

/-- A local client has no session. -/
theorem unconnected_of_local
    (linked : Linked broker world)
    {client : ClientId}
    (isLocal : (world.clients client).client = false) :
    (world.clients client).connection = none := by
  cases connected : (world.clients client).connection with
  | none =>
      rfl
  | some slot =>
      have isRemote := linked.remote client slot connected
      rw [isLocal] at isRemote
      contradiction

/-- Keeping the links keeps the invariant. -/
theorem kept
    (linked : Linked broker before)
    (kept : LinksKept before after) :
    Linked broker after where
  memberParent client member := by
    rw [members, kept.brokers] at member
    rw [kept.parent]
    exact linked.memberParent client member
  parentBroker client parent attached := by
    rw [kept.parent] at attached
    exact linked.parentBroker client parent attached
  attached client attached := by
    rw [kept.parent] at attached
    rw [members, kept.brokers]
    exact linked.attached client attached
  nodup := by
    rw [members, kept.brokers]
    exact linked.nodup
  remote client slot connected := by
    rw [kept.connection] at connected
    rw [kept.client]
    exact linked.remote client slot connected
  unconnected upstream isUpstream := by
    rw [kept.brokers] at isUpstream
    rw [kept.connection]
    exact linked.unconnected upstream isUpstream
  outside upstream isUpstream := by
    rw [kept.brokers] at isUpstream
    rw [members, kept.brokers, kept.next]
    exact linked.outside upstream isUpstream
  unborn client notBorn := by
    rw [kept.next] at notBorn
    rw [kept.parent, kept.connection]
    exact linked.unborn client notBorn

variable [Platform Os]

/-- The member list after a closing. -/
theorem members_close
    (linked : Linked broker world)
    (client : ClientId) :
    (world.close client).members broker =
      (world.members broker).erase client := by
  unfold members
  rw [brokers_close]
  split
  · rfl
  · rename_i notParent
    have notMember : client ∉ (world.brokers broker).clients :=
      fun member => notParent (linked.memberParent client member)
    rw [List.erase_of_not_mem notMember]

/-- Closing a client keeps the others linked. -/
theorem close
    (linked : Linked broker world)
    (client : ClientId) :
    Linked broker (world.close client) where
  memberParent other member := by
    rw [linked.members_close] at member
    obtain ⟨distinct, wasMember⟩ := linked.nodup.mem_erase_iff.mp member
    rw [clients_close_other world distinct]
    exact linked.memberParent other wasMember
  parentBroker other parent attached := by
    by_cases same : other = client
    · subst same
      simp [clients_close_self] at attached
    · rw [clients_close_other world same] at attached
      exact linked.parentBroker other parent attached
  attached other attached := by
    rw [linked.members_close, upstream_close]
    by_cases same : other = client
    · subst same
      simp [clients_close_self] at attached
    · rw [clients_close_other world same] at attached
      rcases linked.attached other attached with member | isUpstream
      · exact .inl ((List.mem_erase_of_ne same).mpr member)
      · exact .inr isUpstream
  nodup := by
    rw [linked.members_close]
    exact linked.nodup.erase client
  remote other slot connected := by
    rw [connection_close] at connected
    rw [client_close]
    exact linked.remote other slot connected
  unconnected upstream isUpstream := by
    rw [upstream_close] at isUpstream
    rw [connection_close]
    exact linked.unconnected upstream isUpstream
  outside upstream isUpstream := by
    rw [upstream_close] at isUpstream
    obtain ⟨notMember, born⟩ := linked.outside upstream isUpstream
    rw [linked.members_close, next_close]
    exact ⟨fun member => notMember (List.mem_of_mem_erase member), born⟩
  unborn other notBorn := by
    rw [next_close] at notBorn
    obtain ⟨detached, unconnected⟩ := linked.unborn other notBorn
    rw [connection_close]
    refine ⟨?_, unconnected⟩
    by_cases same : other = client
    · subst same
      simp [clients_close_self]
    · rw [clients_close_other world same]
      exact detached

/-- A change keeps the links in order. -/
theorem change
    {closable : World Index Os → ClientId → Prop}
    {actor : ClientId}
    (linked : Linked broker before)
    (change : Change closable actor before after) :
    Linked broker after := by
  rcases change.quiet_or with quiet | ⟨bytes, _, rfl⟩ | ⟨_, rfl⟩
  · exact linked.kept quiet.toLinksKept
  · exact linked.kept ⟨fun _ => rfl, fun _ => rfl, fun _ => rfl, rfl, rfl⟩
  · exact linked.close actor

/-- Changes keep the links in order. -/
theorem changes
    {closable : World Index Os → ClientId → Prop}
    {actors : ClientId → Prop}
    (linked : Linked broker before)
    (changes : Changes closable actors before after) :
    Linked broker after := by
  refine run_preserves ?_ changes linked
  rintro first second ⟨actor, _, change⟩ linked
  exact linked.change change

end Linked

/-! ## New clients -/

/-- A new client at the end of the list of a broker. -/
structure Created
    (broker : BrokerId)
    (record : MqttClient)
    (before after : World Index Os) : Prop where
  self : after.clients before.next =
    { record with message := record.message.reset }
  other : ∀ client ≠ before.next,
    after.clients client = before.clients client
  members : after.members broker = before.members broker ++ [before.next]
  brokers : ∀ other,
    { after.brokers other with clients := [] } =
      { before.brokers other with clients := [] }
  next : after.next = before.next + 1

/-- The record of a local client. -/
def localRecord
    (broker : BrokerId)
    (id : List Byte)
    (alive : Nat) : MqttClient :=
  { MqttClient.initial with
    alive := alive
    parent := some broker
    clientId := id }

/-- The record of a client for an accepted session. -/
def acceptedRecord
    (broker : BrokerId)
    (slot : SlotId) : MqttClient :=
  { MqttClient.initial with
    parent := some broker
    client := true
    alive := 0
    connection := some slot }

/-- What `addClient` does to a client that was just made. -/
theorem created_addClient
    (world : World Index Os)
    (broker : BrokerId)
    (record : MqttClient)
    (device : Device Os) :
    Created broker record world
      (({ world with
          device := device
          next := world.next + 1
          clients := Function.update world.clients world.next record
        }).addClient broker world.next) where
  self := by simp [addClient]
  other client distinct := by simp [addClient, distinct]
  members := by simp [addClient, World.members]
  brokers other := by
    by_cases same : other = broker
    · subst same
      simp [addClient]
    · simp [addClient, same]
  next := by simp [addClient]

/-- `new MqttClient(parent, id)` creates a local client. -/
theorem created_newLocal
    (world : World Index Os)
    (broker : BrokerId)
    (id : List Byte)
    (alive : Nat) :
    Created broker (localRecord broker id alive) world
      (world.newLocal broker id alive) :=
  created_addClient world broker _ world.device

variable [Platform Os]

/-- Without a new session `accept` changes the device only. -/
theorem accept_none
    {world : World Index Os}
    (broker : BrokerId)
    (nothing : world.device.checkAvail.1 = none) :
    world.accept broker =
      { world with device := world.device.checkAvail.2 } := by
  unfold accept
  rcases available : world.device.checkAvail with ⟨session, device⟩
  rw [available] at nothing
  dsimp only at nothing
  subst nothing
  rfl

/-- `accept` creates a client for the new session. -/
theorem created_accept
    {world : World Index Os}
    (broker : BrokerId)
    {slot : SlotId}
    (found : world.device.checkAvail.1 = some slot) :
    Created broker (acceptedRecord broker slot) world
        (world.accept broker) ∧
      (world.accept broker).device =
        world.device.checkAvail.2.log (.accepted world.next slot) := by
  unfold accept
  rcases available : world.device.checkAvail with ⟨session, device⟩
  rw [available] at found
  dsimp only at found
  subst found
  have created :=
    created_addClient world broker (acceptedRecord broker slot) device
  exact ⟨⟨created.self, created.other, created.members, created.brokers,
    created.next⟩, rfl⟩

namespace Linked

variable {broker : BrokerId}
variable {before after : World Index Os}

omit [Platform Os] in
/-- A new client is linked to its broker. -/
theorem create
    {record : MqttClient}
    (linked : Linked broker before)
    (created : Created broker record before after)
    (attached : record.parent = some broker)
    (remote : ∀ slot, record.connection = some slot →
      record.client = true) :
    Linked broker after := by
  have sameUpstream :
      (after.brokers broker).broker = (before.brokers broker).broker := by
    have same := created.brokers broker
    simp only [MqttBroker.mk.injEq] at same
    exact same.2.2.2
  have isOld {client : ClientId} (born : client < before.next) :
      after.clients client = before.clients client :=
    created.other client (Nat.ne_of_lt born)
  constructor
  case memberParent =>
    intro client member
    rw [created.members] at member
    rcases List.mem_append.mp member with wasMember | isNew
    · rw [isOld (linked.member_lt_next wasMember)]
      exact linked.memberParent client wasMember
    · rw [List.mem_singleton.mp isNew, created.self]
      exact attached
  case parentBroker =>
    intro client parent isParent
    by_cases isNew : client = before.next
    · rw [isNew, created.self] at isParent
      exact Option.some.inj (isParent.symm.trans attached)
    · rw [created.other client isNew] at isParent
      exact linked.parentBroker client parent isParent
  case attached =>
    intro client isAttached
    rw [created.members, sameUpstream]
    by_cases isNew : client = before.next
    · exact .inl (by simp [isNew])
    · rw [created.other client isNew] at isAttached
      rcases linked.attached client isAttached with member | isUpstream
      · exact .inl (List.mem_append_left _ member)
      · exact .inr isUpstream
  case nodup =>
    rw [created.members]
    refine List.nodup_append.mpr
      ⟨linked.nodup, by simp, ?_⟩
    intro client wasMember other isNew
    rw [List.mem_singleton.mp isNew]
    exact Nat.ne_of_lt (linked.member_lt_next wasMember)
  case remote =>
    intro client slot connected
    by_cases isNew : client = before.next
    · rw [isNew, created.self] at connected ⊢
      exact remote slot connected
    · rw [created.other client isNew] at connected ⊢
      exact linked.remote client slot connected
  case unconnected =>
    intro upstream isUpstream
    rw [sameUpstream] at isUpstream
    rw [isOld (linked.outside upstream isUpstream).2]
    exact linked.unconnected upstream isUpstream
  case outside =>
    intro upstream isUpstream
    rw [sameUpstream] at isUpstream
    obtain ⟨notMember, born⟩ := linked.outside upstream isUpstream
    rw [created.members, created.next]
    refine ⟨?_, Nat.lt_succ_of_lt born⟩
    simp only [List.mem_append, List.mem_singleton, not_or]
    exact ⟨notMember, Nat.ne_of_lt born⟩
  case unborn =>
    intro client notBorn
    rw [created.next] at notBorn
    rw [created.other client (Nat.ne_of_gt notBorn)]
    exact linked.unborn client (Nat.le_of_succ_le notBorn)

end Linked

/-! ## Transitions -/

/-- A change that `MqttBroker::connect` makes to the upstream client. -/
structure LinksUpstream
    (broker : BrokerId)
    (change : MqttClient → MqttClient) : Prop where
  connection : ∀ record, (change record).connection = record.connection
  parent : ∀ record,
    (change record).parent = record.parent ∨
      (change record).parent = some broker
  client : ∀ record, record.client = true → (change record).client = true
  mqttConnected : ∀ record, (change record).mqttConnected = true →
    record.mqttConnected = true

/-- One elementary transition. -/
inductive Transition
    (broker : BrokerId)
    (closable : World Index Os → ClientId → Prop)
    (world : World Index Os) : World Index Os → Prop where
  | change
      (actor : ClientId)
      (after : World Index Os)
      (change : Change closable actor world after) :
      Transition broker closable world after
  | system (os : Os) :
      Transition broker closable world
        { world with device := { world.device with os := os } }
  | read
      (client : ClientId)
      (slot : SlotId)
      (holds : world.Holds client slot) :
      Transition broker closable world
        { world with device := (world.device.readData (some slot) 1).2 }
  | forget
      (slot : SlotId)
      (failed : ¬ Trace.TransportOk world.trace) :
      Transition broker closable world
        { world with device := world.device.httpdSessDelete slot }
  | fed
      (client : ClientId)
      (slot : SlotId)
      (byte : Byte)
      (holds : world.Holds client slot) :
      Transition broker closable world
        (world.log (.fed client slot byte))
  | newLocal
      (id : List Byte)
      (alive : Nat) :
      Transition broker closable world (world.newLocal broker id alive)
  | newUpstream
      (alive : Nat)
      (vacant : (world.brokers broker).broker = none) :
      Transition broker closable world (world.upstreamLink broker alive).2
  | link
      (upstream : ClientId)
      (isUpstream : (world.brokers broker).broker = some upstream)
      (change : MqttClient → MqttClient)
      (links : LinksUpstream broker change) :
      Transition broker closable world (world.modifyClient upstream change)

/-- A sequence of transitions. -/
abbrev Transitions
    (broker : BrokerId)
    (closable : World Index Os → ClientId → Prop) :
    World Index Os → World Index Os → Prop :=
  Relation.ReflTransGen (Transition broker closable)

/-- A transition adds events to the trace, and no accepted clients. -/
theorem Transition.admitsNobody
    {broker : BrokerId}
    {closable : World Index Os → ClientId → Prop}
    {before after : World Index Os}
    (transition : Transition broker closable before after) :
    Grown (fun event => ¬ event.IsAdmission) before.trace after.trace := by
  cases transition with
  | change actor _ change => exact change.admitsNobody
  | system os => exact .refl _
  | read client slot held =>
      exact (before.device.trace_readData slot 1).weaken
        fun _ onSession => onSession.not_isAdmission
  | forget slot failed =>
      refine (before.device.trace_httpdSessDelete slot).weaken ?_
      rintro event rfl
      exact id
  | fed client slot byte => exact .single id
  | newLocal id alive => exact .refl _
  | newUpstream alive vacant =>
      simp only [upstreamLink, vacant]
      exact .refl _
  | link upstream isUpstream change links => exact .refl _

/-- Transitions add no accepted clients. -/
theorem Transitions.admitsNobody
    {broker : BrokerId}
    {closable : World Index Os → ClientId → Prop}
    {before after : World Index Os}
    (transitions : Transitions broker closable before after) :
    Grown (fun event => ¬ event.IsAdmission) before.trace after.trace := by
  induction transitions with
  | refl => exact .refl _
  | tail _ last inductionHypothesis =>
      exact inductionHypothesis.trans last.admitsNobody

/-- A transition adds events to the trace and removes none. -/
theorem Transition.trace
    {broker : BrokerId}
    {closable : World Index Os → ClientId → Prop}
    {before after : World Index Os}
    (transition : Transition broker closable before after) :
    Grown (fun _ => True) before.trace after.trace :=
  transition.admitsNobody.weaken fun _ _ => trivial

/-- No transition gives a client a session. -/
theorem Transition.holds
    {broker : BrokerId}
    {closable : World Index Os → ClientId → Prop}
    {before after : World Index Os}
    (linked : Linked broker before)
    (transition : Transition broker closable before after)
    {client : ClientId}
    {slot : SlotId}
    (holds : after.Holds client slot) :
    before.Holds client slot := by
  cases transition with
  | change actor _ change =>
      rcases change.quiet_or with quiet | ⟨bytes, _, rfl⟩ | ⟨_, rfl⟩
      · unfold Holds
        rw [← quiet.parent, ← quiet.connection]
        exact holds
      · exact holds
      · exact (holds_of_close holds).2
  | system os => exact holds
  | read client slot held => exact holds
  | forget slot failed => exact holds
  | fed client slot byte => exact holds
  | newLocal id alive =>
      have created := created_newLocal before broker id alive
      unfold Holds at holds ⊢
      by_cases isNew : client = before.next
      · rw [isNew, created.self] at holds
        simp [localRecord, MqttClient.initial] at holds
      · rwa [created.other client isNew] at holds
  | newUpstream alive vacant =>
      unfold Holds at holds ⊢
      by_cases isNew : client = before.next
      · subst isNew
        simp [upstreamLink, vacant, MqttClient.initial] at holds
      · simpa [upstreamLink, vacant, isNew] using holds
  | link upstream isUpstream change links =>
      unfold Holds at holds ⊢
      by_cases same : client = upstream
      · subst same
        rw [clients_modifyClient_self, links.connection,
          linked.unconnected client isUpstream] at holds
        exact absurd holds.2 (by simp)
      · rwa [clients_modifyClient_other before change same] at holds

/-- An accept gives a session to the client it creates, if any. -/
theorem holds_of_accept
    {world : World Index Os}
    {broker : BrokerId}
    {client : ClientId}
    {slot : SlotId}
    (holds : (world.accept broker).Holds client slot) :
    world.Holds client slot ∨
      client = world.next ∧ world.device.checkAvail.1 = some slot := by
  cases found : world.device.checkAvail.1 with
  | none =>
      rw [accept_none broker found] at holds
      exact .inl holds
  | some available =>
      have created := (created_accept broker found).1
      unfold Holds at holds ⊢
      by_cases isNew : client = world.next
      · rw [isNew, created.self] at holds
        exact .inr ⟨isNew, holds.2⟩
      · rw [created.other client isNew] at holds
        exact .inl holds

/-- An accept records deletions and the client it creates. -/
theorem trace_accept
    (world : World Index Os)
    (broker : BrokerId) :
    Grown
      (fun event =>
        event.IsDeletion ∨ ∃ slot, event = .accepted world.next slot)
      world.trace (world.accept broker).trace := by
  have deletions := world.device.acceptance_checkAvail.trace
  cases found : world.device.checkAvail.1 with
  | none =>
      rw [accept_none broker found]
      exact deletions.weaken fun _ => .inl
  | some slot =>
      change Grown _ world.trace (world.accept broker).device.trace
      rw [(created_accept broker found).2]
      exact (deletions.weaken fun _ => .inl).cons (.inr ⟨slot, rfl⟩)

namespace Linked

variable {broker : BrokerId}
variable {before after : World Index Os}
variable {closable : World Index Os → ClientId → Prop}

omit [Platform Os] in
/-- Work on the device does not touch the links. -/
theorem device
    (linked : Linked broker before)
    (device : Device Os) :
    Linked broker { before with device := device } :=
  linked.kept ⟨fun _ => rfl, fun _ => rfl, fun _ => rfl, rfl, rfl⟩

omit [Platform Os] in
/-- A new upstream client is linked to nobody yet. -/
theorem upstreamLink
    (linked : Linked broker before)
    (alive : Nat)
    (vacant : (before.brokers broker).broker = none) :
    Linked broker (before.upstreamLink broker alive).2 := by
  have isOld {client : ClientId} (born : client < before.next) :
      (before.upstreamLink broker alive).2.clients client =
        before.clients client := by
    simp [World.upstreamLink, vacant, Nat.ne_of_lt born]
  have isNew :
      (before.upstreamLink broker alive).2.clients before.next =
        { MqttClient.initial with alive := alive } := by
    simp [World.upstreamLink, vacant]
  have sameMembers :
      (before.upstreamLink broker alive).2.members broker =
        before.members broker := by
    simp [World.upstreamLink, vacant, members]
  have sameNext :
      (before.upstreamLink broker alive).2.next = before.next + 1 := by
    simp [World.upstreamLink, vacant]
  have onlyUpstream {upstream : ClientId}
      (isUpstream :
        ((before.upstreamLink broker alive).2.brokers broker).broker =
          some upstream) :
      before.next = upstream := by
    simpa [World.upstreamLink, vacant] using isUpstream
  have oldOrNew (client : ClientId) :
      (before.upstreamLink broker alive).2.clients client =
          before.clients client ∨
        client = before.next := by
    by_cases same : client = before.next
    · exact .inr same
    · exact .inl (by simp [World.upstreamLink, vacant, same])
  constructor
  case memberParent =>
    intro client member
    rw [sameMembers] at member
    rw [isOld (linked.member_lt_next member)]
    exact linked.memberParent client member
  case parentBroker =>
    intro client parent attached
    rcases oldOrNew client with old | rfl
    · rw [old] at attached
      exact linked.parentBroker client parent attached
    · rw [isNew] at attached
      simp [MqttClient.initial] at attached
  case attached =>
    intro client attached
    rcases oldOrNew client with old | rfl
    · rw [old] at attached
      rw [sameMembers]
      rcases linked.attached client attached with member | isUpstream
      · exact .inl member
      · rw [vacant] at isUpstream
        contradiction
    · rw [isNew] at attached
      simp [MqttClient.initial] at attached
  case nodup =>
    rw [sameMembers]
    exact linked.nodup
  case remote =>
    intro client slot connected
    rcases oldOrNew client with old | rfl
    · rw [old] at connected ⊢
      exact linked.remote client slot connected
    · rw [isNew] at connected
      simp [MqttClient.initial] at connected
  case unconnected =>
    intro upstream isUpstream
    rw [← onlyUpstream isUpstream, isNew]
    rfl
  case outside =>
    intro upstream isUpstream
    rw [← onlyUpstream isUpstream, sameMembers, sameNext]
    refine ⟨fun member => ?_, Nat.lt_succ_self _⟩
    exact Nat.lt_irrefl _ (linked.member_lt_next member)
  case unborn =>
    intro client notBorn
    rw [sameNext] at notBorn
    have distinct : client ≠ before.next := Nat.ne_of_gt notBorn
    rcases oldOrNew client with old | isNext
    · rw [old]
      exact linked.unborn client (Nat.le_of_succ_le notBorn)
    · exact absurd isNext distinct

omit [Platform Os] in
/-- Linking the upstream client keeps the links in order. -/
theorem link
    (linked : Linked broker before)
    {upstream : ClientId}
    (isUpstream : (before.brokers broker).broker = some upstream)
    {change : MqttClient → MqttClient}
    (links : LinksUpstream broker change) :
    Linked broker (before.modifyClient upstream change) := by
  obtain ⟨notMember, born⟩ := linked.outside upstream isUpstream
  have isOther {client : ClientId} (distinct : client ≠ upstream) :
      (before.modifyClient upstream change).clients client =
        before.clients client := by
    simp [distinct]
  have sameConnection (client : ClientId) :
      ((before.modifyClient upstream change).clients client).connection =
        (before.clients client).connection := by
    by_cases same : client = upstream
    · subst same
      simp [links.connection]
    · rw [isOther same]
  constructor
  case memberParent =>
    intro client member
    have distinct : client ≠ upstream := fun same =>
      notMember (same ▸ member)
    rw [isOther distinct]
    exact linked.memberParent client member
  case parentBroker =>
    intro client parent attached
    by_cases same : client = upstream
    · subst same
      rw [clients_modifyClient_self] at attached
      rcases links.parent (before.clients client) with kept | set
      · rw [kept] at attached
        exact linked.parentBroker client parent attached
      · rw [set] at attached
        exact (Option.some.inj attached).symm
    · rw [isOther same] at attached
      exact linked.parentBroker client parent attached
  case attached =>
    intro client attached
    by_cases same : client = upstream
    · exact .inr (same ▸ isUpstream)
    · rw [isOther same] at attached
      exact linked.attached client attached
  case nodup => exact linked.nodup
  case remote =>
    intro client slot connected
    rw [sameConnection] at connected
    have isRemote := linked.remote client slot connected
    by_cases same : client = upstream
    · subst same
      rw [clients_modifyClient_self]
      exact links.client _ isRemote
    · rw [isOther same]
      exact isRemote
  case unconnected =>
    intro other isOtherUpstream
    rw [sameConnection]
    exact linked.unconnected other isOtherUpstream
  case outside => exact linked.outside
  case unborn =>
    intro client notBorn
    have distinct : client ≠ upstream :=
      Nat.ne_of_gt (Nat.lt_of_lt_of_le born notBorn)
    rw [isOther distinct]
    exact linked.unborn client notBorn

/-- An accept keeps the links in order. -/
theorem accept (linked : Linked broker before) :
    Linked broker (before.accept broker) := by
  cases found : before.device.checkAvail.1 with
  | none =>
      rw [accept_none broker found]
      exact linked.device _
  | some slot =>
      exact linked.create (created_accept broker found).1 rfl
        fun _ _ => rfl

/-- A transition keeps the links in order. -/
theorem transition
    (linked : Linked broker before)
    (transition : Transition broker closable before after) :
    Linked broker after := by
  cases transition with
  | change actor _ change => exact linked.change change
  | system os => exact linked.device _
  | read client slot held => exact linked.device _
  | forget slot failed => exact linked.device _
  | fed client slot byte => exact linked.kept (.log before _)
  | newLocal id alive =>
      refine linked.create (created_newLocal before broker id alive) rfl ?_
      intro slot connected
      simp [localRecord, MqttClient.initial] at connected
  | newUpstream alive vacant => exact linked.upstreamLink alive vacant
  | link upstream isUpstream change links =>
      exact linked.link isUpstream links

/-- Transitions keep the links in order. -/
theorem transitions
    (linked : Linked broker before)
    (transitions : Transitions broker closable before after) :
    Linked broker after :=
  run_preserves (fun _ _ transition linked => linked.transition transition)
    transitions linked

omit [Platform Os] in
/-- The links of a fresh device are in order. -/
theorem initial
    {world : World Index Os}
    (initial : Initial world broker) :
    Linked broker world where
  memberParent client member := by
    rw [initial.noMembers] at member
    exact absurd member List.not_mem_nil
  parentBroker client parent attached := by
    rw [initial.noClients] at attached
    simp [MqttClient.initial] at attached
  attached client attached := by
    rw [initial.noClients] at attached
    simp [MqttClient.initial] at attached
  nodup := by
    rw [initial.noMembers]
    exact List.nodup_nil
  remote client slot connected := by
    rw [initial.noClients] at connected
    simp [MqttClient.initial] at connected
  unconnected upstream isUpstream := by
    rw [initial.noUpstream] at isUpstream
    contradiction
  outside upstream isUpstream := by
    rw [initial.noUpstream] at isUpstream
    contradiction
  unborn client _ := by
    rw [initial.noClients]
    exact ⟨rfl, rfl⟩

end Linked

/-! ## Members that are not closed -/

/-- A member of a list keeps its place, its kind and its session. -/
structure MemberKept
    (broker : BrokerId)
    (client : ClientId)
    (before after : World Index Os) : Prop where
  member : client ∈ after.members broker
  remote :
    (after.clients client).client = (before.clients client).client
  connection :
    (after.clients client).connection = (before.clients client).connection

section Members

variable {broker : BrokerId}
variable {client : ClientId}
variable {before after : World Index Os}
variable {closable : World Index Os → ClientId → Prop}

omit [Platform Os] in
/-- A new client is added behind the members. -/
theorem MemberKept.created
    {record : MqttClient}
    (linked : Linked broker before)
    (member : client ∈ before.members broker)
    (created : Created broker record before after) :
    MemberKept broker client before after := by
  have same := created.other client
    (Nat.ne_of_lt (linked.member_lt_next member))
  refine ⟨?_, by rw [same], by rw [same]⟩
  rw [created.members]
  exact List.mem_append_left _ member

/-- A transition keeps a member that it may not close. -/
theorem Transition.memberKept
    (linked : Linked broker before)
    (member : client ∈ before.members broker)
    (spared : ¬ closable before client)
    (transition : Transition broker closable before after) :
    MemberKept broker client before after := by
  cases transition with
  | change actor _ change =>
      rcases change.quiet_or with quiet | ⟨bytes, _, rfl⟩ | ⟨allowed, rfl⟩
      · refine ⟨?_, quiet.client client, quiet.connection client⟩
        rw [members, quiet.brokers]
        exact member
      · exact ⟨member, rfl, rfl⟩
      · have distinct : client ≠ actor := by
          rintro rfl
          exact spared allowed
        refine ⟨?_, client_close before actor client,
          connection_close before actor client⟩
        rw [linked.members_close]
        exact (List.mem_erase_of_ne distinct).mpr member
  | system os => exact ⟨member, rfl, rfl⟩
  | read other slot held => exact ⟨member, rfl, rfl⟩
  | forget slot failed => exact ⟨member, rfl, rfl⟩
  | fed other slot byte held => exact ⟨member, rfl, rfl⟩
  | newLocal id alive =>
      exact .created linked member (created_newLocal before broker id alive)
  | newUpstream alive vacant =>
      have distinct := Nat.ne_of_lt (linked.member_lt_next member)
      refine ⟨?_, ?_, ?_⟩
      · simpa [upstreamLink, vacant, members] using member
      · simp [upstreamLink, vacant, distinct]
      · simp [upstreamLink, vacant, distinct]
  | link upstream isUpstream change links =>
      have distinct : client ≠ upstream := by
        rintro rfl
        exact (linked.outside client isUpstream).1 member
      refine ⟨member, ?_, ?_⟩
      · rw [clients_modifyClient_other before change distinct]
      · rw [clients_modifyClient_other before change distinct]

/-- An accept keeps all members. -/
theorem accept_memberKept
    (linked : Linked broker before)
    (member : client ∈ before.members broker) :
    MemberKept broker client before (before.accept broker) := by
  cases found : before.device.checkAvail.1 with
  | none =>
      rw [accept_none broker found]
      exact ⟨member, rfl, rfl⟩
  | some slot =>
      exact .created linked member (created_accept broker found).1

end Members

omit [Platform Os] in
/-- On a fresh device nobody holds a session. -/
theorem Initial.not_holds
    {world : World Index Os}
    {broker : BrokerId}
    (initial : Initial world broker)
    (client : ClientId)
    (slot : SlotId) :
    ¬ world.Holds client slot := by
  unfold Holds
  rw [initial.noClients]
  simp [MqttClient.initial]

end World

end SimpleTlsBroker
