import SimpleTlsBroker.StepTransitions
import SimpleTlsBroker.Scripts

namespace SimpleTlsBroker

/-!
# The deadline for CONNECT

The constructor for accepted clients gives them five seconds to log in, and
`MqttBroker::loop` takes the deadline away again as soon as it has created the
client.  A peer that never logs in keeps its session for as long as it likes.
-/

open History

namespace World

variable {Index Os : Type}

/--
Every accepted client of the list that is not logged in has a deadline at most
five seconds after it was accepted.
-/
def DeadlineKept
    (broker : BrokerId)
    (acceptedAt : ClientId → Nat)
    (world : World Index Os) : Prop :=
  ∀ client ∈ world.members broker,
    (world.clients client).client = true →
    (world.clients client).mqttConnected = false →
      (world.clients client).alive ≠ 0 ∧
        (world.clients client).alive ≤ acceptedAt client + 5000

/-- No connection was accepted in a run. -/
def AcceptedNobody (world : World Index Os) : Prop :=
  ∀ client slot, .accepted client slot ∉ world.trace

/-- The networked clients of the list were accepted. -/
def Admitted
    (broker : BrokerId)
    (world : World Index Os) : Prop :=
  ∀ client ∈ world.members broker,
    (world.clients client).client = true →
      ∃ slot, .accepted client slot ∈ world.trace

variable [Platform Os]
variable {broker : BrokerId}
variable {before after : World Index Os}
variable {closable : World Index Os → ClientId → Prop}

namespace Admitted

omit [Platform Os] in
/-- Members that were there before, with the pointers they had. -/
theorem keep
    {allowed : Event → Prop}
    (admitted : Admitted broker before)
    (members :
      ∀ client ∈ after.members broker, client ∈ before.members broker)
    (client :
      ∀ client ∈ after.members broker,
        (after.clients client).client = (before.clients client).client)
    (grown : Grown allowed before.trace after.trace) :
    Admitted broker after := by
  intro other member isRemote
  rw [client other member] at isRemote
  obtain ⟨slot, accepted⟩ := admitted other (members other member) isRemote
  exact ⟨slot, grown.mem accepted⟩

omit [Platform Os] in
/-- A new member, admitted or local. -/
theorem create
    {allowed : Event → Prop}
    {record : MqttClient}
    (admitted : Admitted broker before)
    (linked : Linked broker before)
    (created : Created broker record before after)
    (grown : Grown allowed before.trace after.trace)
    (new :
      record.client = true →
        ∃ slot, .accepted before.next slot ∈ after.trace) :
    Admitted broker after := by
  intro client member isRemote
  rw [created.members] at member
  rcases List.mem_append.mp member with wasMember | isNew
  · have distinct : client ≠ before.next :=
      Nat.ne_of_lt (linked.member_lt_next wasMember)
    rw [created.other client distinct] at isRemote
    obtain ⟨slot, accepted⟩ := admitted client wasMember isRemote
    exact ⟨slot, grown.mem accepted⟩
  · obtain rfl := List.mem_singleton.mp isNew
    rw [created.self] at isRemote
    exact new isRemote

/-- A transition admits nobody. -/
theorem transition
    (admitted : Admitted broker before)
    (linked : Linked broker before)
    (transition : Transition broker closable before after) :
    Admitted broker after := by
  have grown := transition.trace
  cases transition with
  | change actor _ change =>
      rcases change.quiet_or with quiet | ⟨bytes, _, rfl⟩ | ⟨_, rfl⟩
      · refine admitted.keep ?_ (fun other _ => quiet.client other) grown
        intro other member
        rw [members, quiet.brokers] at member
        exact member
      · exact admitted.keep (fun _ => id) (fun _ _ => rfl) grown
      · refine admitted.keep ?_ (fun other _ => client_close _ _ other) grown
        intro other member
        rw [linked.members_close] at member
        exact List.mem_of_mem_erase member
  | system os => exact admitted.keep (fun _ => id) (fun _ _ => rfl) grown
  | read client slot held =>
      exact admitted.keep (fun _ => id) (fun _ _ => rfl) grown
  | forget slot failed =>
      exact admitted.keep (fun _ => id) (fun _ _ => rfl) grown
  | fed client slot byte =>
      exact admitted.keep (fun _ => id) (fun _ _ => rfl) grown
  | newLocal id alive =>
      refine admitted.create linked (created_newLocal before broker id alive)
        grown ?_
      intro isRemote
      simp [localRecord, MqttClient.initial] at isRemote
  | newUpstream alive vacant =>
      have sameMembers :
          (before.upstreamLink broker alive).2.members broker =
            before.members broker := by
        simp [World.upstreamLink, vacant, members]
      refine admitted.keep (fun other => sameMembers ▸ id) ?_ grown
      intro other member
      rw [sameMembers] at member
      have distinct : other ≠ before.next :=
        Nat.ne_of_lt (linked.member_lt_next member)
      simp [World.upstreamLink, vacant, distinct]
  | link upstream isUpstream change links =>
      refine admitted.keep (fun _ => id) ?_ grown
      intro other member
      have distinct : other ≠ upstream := by
        rintro rfl
        exact (linked.outside other isUpstream).1 member
      rw [clients_modifyClient_other before change distinct]

/-- An accept admits the client that it creates. -/
theorem accept
    (admitted : Admitted broker before)
    (linked : Linked broker before) :
    Admitted broker (before.accept broker) := by
  have grown := trace_accept before broker
  cases found : before.device.checkAvail.1 with
  | none =>
      rw [accept_none broker found] at grown ⊢
      exact admitted.keep (fun _ => id) (fun _ _ => rfl) grown
  | some slot =>
      obtain ⟨created, device⟩ := created_accept broker found
      refine admitted.create linked created grown fun _ => ⟨slot, ?_⟩
      change _ ∈ (before.accept broker).device.trace
      rw [device]
      exact List.mem_cons_self

end Admitted

/-- A client that was just accepted has no deadline. -/
theorem not_deadlineKept_accept
    {slot : SlotId}
    (found : before.device.checkAvail.1 = some slot)
    (acceptedAt : ClientId → Nat) :
    ¬ DeadlineKept broker acceptedAt (before.accept broker) := by
  intro kept
  obtain ⟨created, _⟩ := created_accept broker found
  have member : before.next ∈ (before.accept broker).members broker := by
    rw [created.members]
    exact List.mem_append_right _ List.mem_cons_self
  have deadline := kept before.next member
  rw [created.self] at deadline
  exact (deadline rfl rfl).1 rfl

variable [Indexer Index]

/-- A client is only added by an accept that finds a session. -/
theorem Step.accepts_of_new
    {action : Action Os}
    {client : ClientId}
    {slot : SlotId}
    (linked : Linked broker before)
    (step : Step broker before action after)
    (accepted : .accepted client slot ∈ after.trace)
    (isNew : .accepted client slot ∉ before.trace) :
    after = before.accept broker ∧
      ∃ taken, before.device.checkAvail.1 = some taken := by
  rcases step.transitionsFree linked with ⟨rfl, rfl⟩ | transitions
  · refine ⟨rfl, ?_⟩
    cases found : before.device.checkAvail.1 with
    | none =>
        rw [accept_none broker found] at accepted
        have grown := before.device.acceptance_checkAvail.trace
        rcases grown.mem_or accepted with isOld | isDeletion
        · exact (isNew isOld).elim
        · exact isDeletion.elim
    | some taken => exact ⟨taken, rfl⟩
  · rcases transitions.admitsNobody.mem_or accepted with isOld | notAdmitted
    · exact (isNew isOld).elim
    · exact (notAdmitted trivial).elim

/-- A connection that was accepted in a run was accepted by one of its steps. -/
theorem Run.exists_accept
    (initial : Initial before broker)
    (run : Run broker always before after)
    {client : ClientId}
    {slot : SlotId}
    (accepted : .accepted client slot ∈ after.trace) :
    ∃ (middle : World Index Os) (taken : SlotId),
      middle.device.checkAvail.1 = some taken ∧
        Run broker always before (middle.accept broker) ∧
        Run broker always (middle.accept broker) after := by
  induction run with
  | refl =>
      rw [initial.noEvents] at accepted
      contradiction
  | @tail middle after earlier last inductionHypothesis =>
      by_cases isOld : .accepted client slot ∈ middle.trace
      · obtain ⟨first, taken, found, reached, later⟩ :=
          inductionHypothesis isOld
        exact ⟨first, taken, found, reached, later.tail last⟩
      · have whole := earlier.tail last
        obtain ⟨action, step, _⟩ := last
        obtain ⟨rfl, taken, found⟩ :=
          step.accepts_of_new (Linked.run initial earlier) accepted isOld
        exact ⟨middle, taken, found, whole, .refl⟩

/-- Runs only add to the trace. -/
theorem Run.trace
    {condition : World Index Os → Action Os → Prop}
    (linked : Linked broker before)
    (run : Run broker condition before after) :
    Linked broker after ∧
      Grown (fun _ => True) before.trace after.trace := by
  induction run with
  | refl => exact ⟨linked, .refl _⟩
  | tail _ last inductionHypothesis =>
      obtain ⟨linked, grown⟩ := inductionHypothesis
      obtain ⟨action, step, _⟩ := last
      refine ⟨linked.step step, grown.trans ?_⟩
      rcases step.transitionsFree linked with ⟨rfl, rfl⟩ | transitions
      · exact (trace_accept _ broker).weaken fun _ _ => trivial
      · exact transitions.admitsNobody.weaken fun _ _ => trivial

/--
In a run every accepted client has its deadline until it logs in, if and only
if no client is accepted.
-/
theorem deadlines_kept_iff
    (initial : Initial before broker)
    (run : Run broker always before after)
    (acceptedAt : ClientId → Nat) :
    (∀ middle,
        Run broker always before middle → Run broker always middle after →
          DeadlineKept broker acceptedAt middle) ↔
      AcceptedNobody after := by
  constructor
  · intro kept client slot accepted
    obtain ⟨middle, taken, found, earlier, later⟩ :=
      run.exists_accept initial accepted
    exact not_deadlineKept_accept found acceptedAt
      (kept _ earlier later)
  · intro nobody middle earlier later client member isRemote
    have start : Admitted broker before := by
      intro client member
      rw [initial.noMembers] at member
      contradiction
    obtain ⟨linked, admitted⟩ :=
      Run.invariant initial earlier start
        (fun _ linked _ admitted => admitted.accept linked)
        fun _ _ linked transition admitted =>
          admitted.transition linked transition
    obtain ⟨slot, accepted⟩ := admitted client member isRemote
    have grown := (later.trace linked).2
    exact (nobody client slot (grown.mem accepted)).elim

/-- A broker with a local client that no peer connects to. -/
def quietRun : World StringIndexer Script :=
  performAll 0 always [.newLocal [] 0]
    (Script.setup
      { clock := 0
        connections := []
        receipts := []
        sendResults := [] })

/-- Without peers every deadline is kept. -/
theorem deadlines_kept_quiet : DeadlineKept 0 (fun _ => 0) quietRun := by
  have run :
      Run 0 always
        (Script.setup
          { clock := 0
            connections := []
            receipts := []
            sendResults := [] })
        quietRun :=
    run_performAll 0 always _ _
  refine
    (deadlines_kept_iff (Script.initial_setup _) run _).mpr ?_ quietRun run
      .refl
  intro client slot accepted
  have noEvents : quietRun.trace = [] := by decide
  rw [noEvents] at accepted
  contradiction

/-- A peer connects and stays silent for a day. -/
def silentRun : World StringIndexer Script :=
  performAll 0 always
    [.accept,
      .environment
        { clock := 86400000
          connections := []
          receipts := []
          sendResults := [] },
      .expire 0]
    (Script.setup
      { clock := 0
        connections := [5]
        receipts := []
        sendResults := [] })

/-- The silent peer has no deadline and keeps its session. -/
theorem not_deadlineKept_silent :
    (∃ script : Script, Run 0 always script.setup silentRun) ∧
      silentRun.members 0 = [0] ∧
      (silentRun.clients 0).client = true ∧
      (silentRun.clients 0).mqttConnected = false ∧
      (silentRun.clients 0).alive = 0 ∧
      silentRun.device.fd 0 = 5 ∧
      ∀ acceptedAt, ¬ DeadlineKept 0 acceptedAt silentRun := by
  refine ⟨⟨_, run_performAll 0 always _ _⟩, by decide, by decide,
    by decide, by decide, by decide, ?_⟩
  intro acceptedAt kept
  have deadline := kept 0 (by decide) (by decide) (by decide)
  exact deadline.1 (by decide)

end World

end SimpleTlsBroker
