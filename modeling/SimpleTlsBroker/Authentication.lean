import SimpleTlsBroker.StepTransitions
import SimpleTlsBroker.Scripts

namespace SimpleTlsBroker

/-!
# The authentication gate

A broker with a user name and a password marks a client as connected when a
CONNECT message passes both checks.  A CONNACK message does so too, although
only a broker sends it; the gate holds in runs in which no client processes one
before its CONNECT has passed.
-/

open History

namespace Trace

/-- A CONNECT message of a client for which both checks returned true. -/
def Passed (client : ClientId) (trace : Trace) : Prop :=
  ∃ later mesg earlier,
    mesg.kind? = some .connect ∧
      trace =
        later ++ .credentials client (some true) (some true) ::
          .processed client mesg :: earlier

/-- No CONNACK message of a client comes before it passed. -/
def ConnAckAfterPassed (client : ClientId) (trace : Trace) : Prop :=
  Checked
    (fun event earlier =>
      ∀ mesg, event = .processed client mesg →
        mesg.kind? = some .connAck → Passed client earlier)
    trace

/-- A client that passed has a note that it did. -/
theorem Passed.mem
    {client : ClientId}
    {trace : Trace}
    (passed : Passed client trace) :
    .credentials client (some true) (some true) ∈ trace := by
  obtain ⟨later, mesg, earlier, _, rfl⟩ := passed
  simp

/-- A history without CONNACK messages is in order. -/
theorem connAckAfterPassed_of_forall
    {client : ClientId}
    {trace : Trace}
    (noConnAck :
      ∀ mesg ∈ trace.processedBy client, mesg.kind? ≠ some .connAck) :
    ConnAckAfterPassed client trace := by
  refine Checked.iff_forall.mpr ?_
  rintro after event before rfl mesg rfl isConnAck
  refine absurd isConnAck (noConnAck mesg ?_)
  simp [processedBy, Event.processedBy?]

/-- Having passed is never undone. -/
theorem Passed.grow
    {client : ClientId}
    {allowed : Event → Prop}
    {earlier later : Trace}
    (passed : Passed client earlier)
    (grown : Grown allowed earlier later) :
    Passed client later := by
  obtain ⟨since, rfl, _⟩ := grown
  obtain ⟨after, mesg, before, isConnect, rfl⟩ := passed
  exact ⟨since ++ after, mesg, before, isConnect, by simp⟩

/-- A CONNACK that was processed came after the CONNECT. -/
theorem ConnAckAfterPassed.passed
    {client : ClientId}
    {trace : Trace}
    {mesg : MqttMessage}
    (ordered : ConnAckAfterPassed client trace)
    (processed : .processed client mesg ∈ trace)
    (isConnAck : mesg.kind? = some .connAck) :
    Passed client trace := by
  obtain ⟨after, before, shape, passes⟩ := ordered.at_mem processed
  obtain ⟨later, connect, earlier, isConnect, earlierShape⟩ :=
    passes mesg rfl isConnAck
  refine ⟨after ++ .processed client mesg :: later, connect, earlier,
    isConnect, ?_⟩
  rw [shape, earlierShape]
  simp

end Trace

namespace World

variable {Index Os : Type} [Platform Os]

/-- Nobody became connected, and the credentials stayed as they are. -/
structure NoLogin (before after : World Index Os) : Prop where
  mqttConnected :
    ∀ client, (after.clients client).mqttConnected = true →
      (before.clients client).mqttConnected = true
  authUser : ∀ broker,
    (after.brokers broker).authUser = (before.brokers broker).authUser
  authPassword : ∀ broker,
    (after.brokers broker).authPassword =
      (before.brokers broker).authPassword
  trace : Grown (fun _ => True) before.trace after.trace

/-- The broker asks for a user name and a password. -/
def AsksCredentials
    (world : World Index Os)
    (broker : BrokerId) : Prop :=
  (world.brokers broker).authUser 0 ≠ 0 ∧
    (world.brokers broker).authPassword 0 ≠ 0

/-- The gate holds for a client in a state. -/
def Gated
    (world : World Index Os)
    (client : ClientId) : Prop :=
  (world.clients client).mqttConnected = true →
    Trace.Passed client world.trace

variable {broker : BrokerId}
variable {before after world : World Index Os}
variable {closable : World Index Os → ClientId → Prop}
variable {actor client : ClientId}

omit [Platform Os] in
/-- Changing a record without login. -/
theorem NoLogin.modifyClient
    (world : World Index Os)
    (client : ClientId)
    {change : MqttClient → MqttClient}
    (keeps :
      ∀ record, (change record).mqttConnected = true →
        record.mqttConnected = true) :
    NoLogin world (world.modifyClient client change) where
  mqttConnected other := by
    by_cases same : other = client
    · subst same
      rw [clients_modifyClient_self]
      exact keeps _
    · rw [clients_modifyClient_other world change same]
      exact id
  authUser _ := rfl
  authPassword _ := rfl
  trace := .refl _

/-- A change without login, or one of the two messages that connect. -/
theorem Change.noLogin_or
    (change : Change closable actor before after) :
    NoLogin before after ∨
      (after.clients actor).mqttConnected = true ∧
        (∀ other ≠ actor, after.clients other = before.clients other) ∧
        after.brokers = before.brokers ∧
        ((∃ mesg, mesg.kind? = some .connAck ∧
            .processed actor mesg ∈ before.trace ∧
            after.trace = before.trace) ∨
          ∃ mesg parent user password,
            mesg.kind? = some .connect ∧
              (before.clients actor).parent = some parent ∧
              CredentialsPass (before.brokers parent) user password ∧
              before.trace.head? = some (.processed actor mesg) ∧
              after.trace =
                .credentials actor user password :: before.trace) := by
  have grown := change.trace
  cases change with
  | note event isNote =>
      exact .inl ⟨fun _ => id, fun _ => rfl, fun _ => rfl, grown⟩
  | record change keeps =>
      exact .inl (.modifyClient before actor keeps.mqttConnected)
  | topics indexer =>
      exact .inl ⟨fun _ => id, fun _ => rfl, fun _ => rfl, grown⟩
  | callback topic payload =>
      exact .inl ⟨fun _ => id, fun _ => rfl, fun _ => rfl, grown⟩
  | login mesg parent user password isConnect attached pass first =>
      refine .inr ⟨by simp, fun other distinct => by simp [distinct], rfl,
        .inr ⟨mesg, parent, user, password, isConnect, attached, pass,
          first, rfl⟩⟩
  | connAck mesg isConnAck processed =>
      refine .inr ⟨by simp, fun other distinct => by simp [distinct], rfl,
        .inl ⟨mesg, isConnAck, processed, rfl⟩⟩
  | write bytes active =>
      exact .inl ⟨fun _ => id, fun _ => rfl, fun _ => rfl, grown⟩
  | close allowed =>
      refine .inl ⟨fun other connected => ?_, fun other => ?_,
        fun other => ?_, grown⟩
      · by_cases same : other = actor
        · subst same
          simp [clients_close_self] at connected
        · rwa [clients_close_other before same] at connected
      · rw [brokers_close]
        split <;> rfl
      · rw [brokers_close]
        split <;> rfl

omit [Platform Os] in
/-- A new client is not connected. -/
theorem NoLogin.create
    {record : MqttClient}
    (created : Created broker record before after)
    (isNew : record.mqttConnected = false)
    (grown : Grown (fun _ => True) before.trace after.trace) :
    NoLogin before after := by
  have sameFields (other : BrokerId) := created.brokers other
  simp only [MqttBroker.mk.injEq, true_and] at sameFields
  refine ⟨fun client connected => ?_, fun other => (sameFields other).1,
    fun other => (sameFields other).2.1, grown⟩
  by_cases same : client = before.next
  · rw [same, created.self, isNew] at connected
    contradiction
  · rwa [created.other client same] at connected

/-- An accept logs nobody in. -/
theorem noLogin_accept
    (before : World Index Os)
    (broker : BrokerId) :
    NoLogin before (before.accept broker) := by
  have grown := (trace_accept before broker).weaken fun _ _ => trivial
  cases found : before.device.checkAvail.1 with
  | none =>
      rw [accept_none broker found] at grown ⊢
      exact ⟨fun _ => id, fun _ => rfl, fun _ => rfl, grown⟩
  | some slot =>
      exact .create (created_accept broker found).1 rfl grown

/-- Only changes log a client in. -/
theorem Transition.noLogin_or
    (transition : Transition broker closable before after) :
    NoLogin before after ∨
      ∃ actor, Change closable actor before after := by
  have grown := transition.trace
  cases transition with
  | change actor _ change => exact .inr ⟨actor, change⟩
  | system os =>
      exact .inl ⟨fun _ => id, fun _ => rfl, fun _ => rfl, grown⟩
  | read client slot held =>
      exact .inl ⟨fun _ => id, fun _ => rfl, fun _ => rfl, grown⟩
  | forget slot failed =>
      exact .inl ⟨fun _ => id, fun _ => rfl, fun _ => rfl, grown⟩
  | fed client slot byte =>
      exact .inl ⟨fun _ => id, fun _ => rfl, fun _ => rfl, grown⟩
  | newLocal id alive =>
      exact .inl
        (.create (created_newLocal before broker id alive) rfl grown)
  | newUpstream alive vacant =>
      refine .inl ⟨fun client connected => ?_, fun other => ?_,
        fun other => ?_, grown⟩
      · by_cases same : client = before.next
        · subst same
          simp [upstreamLink, vacant, MqttClient.initial] at connected
        · simpa [upstreamLink, vacant, same] using connected
      · by_cases same : other = broker
        · subst same
          simp [upstreamLink, vacant]
        · simp [upstreamLink, vacant, same]
      · by_cases same : other = broker
        · subst same
          simp [upstreamLink, vacant]
        · simp [upstreamLink, vacant, same]
  | link upstream isUpstream change links =>
      exact .inl (.modifyClient before upstream links.mqttConnected)

/-- What is known about a client in a state. -/
structure GateInvariant
    (broker : BrokerId)
    (client : ClientId)
    (world : World Index Os) : Prop where
  asks : world.AsksCredentials broker
  gated : Trace.ConnAckAfterPassed client world.trace → world.Gated client

omit [Platform Os] in
/-- The gate survives whatever logs nobody in. -/
theorem GateInvariant.noLogin
    (invariant : GateInvariant broker client before)
    (noLogin : NoLogin before after) :
    GateInvariant broker client after where
  asks := by
    unfold AsksCredentials
    rw [noLogin.authUser, noLogin.authPassword]
    exact invariant.asks
  gated ordered connected :=
    (invariant.gated (ordered.shrink noLogin.trace)
      (noLogin.mqttConnected client connected)).grow noLogin.trace

/-- Every transition keeps the gate. -/
theorem GateInvariant.transition
    (invariant : GateInvariant broker client before)
    (linked : Linked broker before)
    (transition : Transition broker closable before after) :
    GateInvariant broker client after := by
  rcases transition.noLogin_or with noLogin | ⟨actor, change⟩
  · exact invariant.noLogin noLogin
  · have grown := change.trace
    rcases change.noLogin_or with noLogin |
      ⟨_, others, brokers, login⟩
    · exact invariant.noLogin noLogin
    · refine ⟨?_, ?_⟩
      · unfold AsksCredentials
        rw [brokers]
        exact invariant.asks
      intro ordered connected
      by_cases isActor : client = actor
      · subst isActor
        rcases login with ⟨mesg, isConnAck, processed, sameTrace⟩ |
          ⟨mesg, parent, user, password, isConnect, attached, pass,
            first, newTrace⟩
        · -- A CONNACK: the history says that a CONNECT passed before.
          rw [sameTrace] at ordered ⊢
          exact ordered.passed processed isConnAck
        · -- A CONNECT: none of the credentials could be left out.
          rw [linked.parentBroker client parent attached] at pass
          have userPassed : user = some true :=
            pass.1.resolve_right fun absent =>
              invariant.asks.2 absent.2
          have passwordPassed : password = some true :=
            pass.2.resolve_right fun absent =>
              invariant.asks.1 absent.2
          subst userPassed passwordPassed
          obtain ⟨earlier, shape⟩ := List.head?_eq_some_iff.mp first
          exact ⟨[], mesg, earlier, isConnect, by rw [newTrace, shape]; rfl⟩
      · rw [others client isActor] at connected
        exact (invariant.gated (ordered.shrink grown) connected).grow grown

variable [Indexer Index]

/--
In every run in which no CONNACK message of a client is processed before it
passed, the client is connected only after a CONNECT message for which both
checks returned true.
-/
theorem authentication_gate
    {condition : World Index Os → Action Os → Prop}
    (initial : Initial before broker)
    (asks : before.AsksCredentials broker)
    (run : Run broker condition before after)
    (client : ClientId)
    (ordered : Trace.ConnAckAfterPassed client after.trace) :
    after.Gated client := by
  have start : GateInvariant broker client before := by
    refine ⟨asks, fun _ connected => ?_⟩
    rw [initial.noClients] at connected
    simp [MqttClient.initial] at connected
  have invariant : GateInvariant broker client after :=
    (Run.invariant initial run start
      (fun world _ _ holds => holds.noLogin (noLogin_accept world broker))
      fun _ _ linked transition holds =>
        holds.transition linked transition).2
  exact invariant.gated ordered

/-- A peer that sends a CONNECT message with the right credentials. -/
def loginScript : Script where
  clock := 0
  connections := [5]
  receipts := Script.receive Script.connectPacket
  sendResults := []

/-- The run in which the peer logs in. -/
def loginRun : World StringIndexer Script :=
  performAll 0 always (.accept :: List.replicate 21 (.poll 0))
    loginScript.setup

/-- The gate, for a peer that logs in. -/
theorem authentication_gate_login :
    (loginRun.clients 0).mqttConnected = true ∧ loginRun.Gated 0 := by
  refine ⟨by decide, ?_⟩
  exact authentication_gate loginScript.initial_setup
    ⟨by decide, by decide⟩ (run_performAll 0 _ _ _) 0
    (Trace.connAckAfterPassed_of_forall (by decide))

/-- A peer that sends nothing but a CONNACK message. -/
def connAckScript : Script where
  clock := 0
  connections := [5]
  receipts := Script.receive [0x20, 0x02, 0x00, 0x00]
  sendResults := []

/-- The run in which it does so. -/
def connAckRun : World StringIndexer Script :=
  performAll 0 always [.accept, .poll 0, .poll 0, .poll 0, .poll 0]
    connAckScript.setup

/-- The peer is connected although no credentials were checked. -/
theorem not_gated_connAck :
    Initial connAckScript.setup 0 ∧
      connAckScript.setup.AsksCredentials 0 ∧
        Run 0 always connAckScript.setup connAckRun ∧
          (connAckRun.clients 0).Accepted ∧
            ¬ connAckRun.Gated 0 := by
  refine ⟨connAckScript.initial_setup, ⟨by decide, by decide⟩,
    run_performAll 0 _ _ _, ⟨by decide, by decide⟩, ?_⟩
  intro gated
  have noCredentials :
      .credentials 0 (some true) (some true) ∉ connAckRun.trace := by
    decide
  exact noCredentials (gated (by decide)).mem

end World

end SimpleTlsBroker
