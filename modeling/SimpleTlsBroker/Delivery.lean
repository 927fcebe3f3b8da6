import SimpleTlsBroker.StepTransitions
import SimpleTlsBroker.Scripts

namespace SimpleTlsBroker

/-!
# Delivery to open sessions

A transfer that fails deletes the session but leaves the client in the list of
its broker, where the next publication finds it.  Until a transfer fails, the
clients of the list hold distinct open sessions, and `send_fn` is only called
with their descriptors.
-/

open History

namespace Trace

/-- `send_fn` was called with valid descriptors only. -/
def SendsOpen (trace : Trace) : Prop :=
  ∀ slot fd bytes ret, .sent slot fd bytes ret ∈ trace → 0 ≤ fd

/-- Growing without calls of `send_fn`. -/
theorem SendsOpen.grow
    {allowed : Event → Prop}
    {earlier later : Trace}
    (sends : SendsOpen earlier)
    (grown : Grown allowed earlier later)
    (valid : ∀ slot fd bytes ret,
      allowed (.sent slot fd bytes ret) → 0 ≤ fd) :
    SendsOpen later := by
  intro slot fd bytes ret member
  rcases grown.mem_or member with isOld | isNew
  · exact sends slot fd bytes ret isOld
  · exact valid slot fd bytes ret isNew

end Trace

namespace World

variable {Index Os : Type}

/-- Attached clients hold distinct open sessions. -/
structure Delivering (world : World Index Os) : Prop where
  opened : ∀ client slot, world.Holds client slot →
    0 ≤ world.device.fd slot ∧
      (world.device.hd.hdSd slot).handle = true
  unique : ∀ first second slot,
    world.Holds first slot → world.Holds second slot → first = second
  sends : world.trace.SendsOpen

variable [Platform Os]
variable {broker : BrokerId}
variable {before after : World Index Os}
variable {closable : World Index Os → ClientId → Prop}

omit [Platform Os] in
/-- No new holders, and the held sessions are still open. -/
theorem Delivering.keep
    (delivering : Delivering before)
    (holders : ∀ client slot, after.Holds client slot →
      before.Holds client slot)
    (sessions : ∀ client slot, after.Holds client slot →
      after.device.hd.hdSd slot = before.device.hd.hdSd slot)
    (sends : after.trace.SendsOpen) :
    Delivering after where
  opened client slot holds := by
    rw [Device.fd, sessions client slot holds]
    exact delivering.opened client slot (holders client slot holds)
  unique first second slot firstHolds secondHolds :=
    delivering.unique first second slot
      (holders first slot firstHolds) (holders second slot secondHolds)
  sends := sends

/-- Closing a client deletes no session that another one holds. -/
theorem Delivering.close
    (delivering : Delivering before)
    (actor : ClientId) :
    Delivering (before.close actor) := by
  have holders (client : ClientId) (slot : SlotId)
      (holds : (before.close actor).Holds client slot) :
      before.Holds client slot := (holds_of_close holds).2
  have device := before.device_close actor
  cases session : before.session? actor with
  | none =>
      rw [session] at device
      refine delivering.keep holders ?_ ?_
      · intro client slot _
        rw [device]
        rfl
      · simp only [trace, device]
        exact delivering.sends.grow
          (.single (rfl : Event.closed actor = .closed actor)) (by simp)
  | some slot =>
      rw [session] at device
      have own : before.Holds actor slot := holds_of_session? session
      refine delivering.keep holders ?_ ?_
      · intro client other holds
        obtain ⟨distinct, held⟩ := holds_of_close holds
        have otherSlot : other ≠ slot := by
          rintro rfl
          exact distinct (delivering.unique client actor other held own)
        rw [device, Device.hdSd_httpdSessDelete_other _ otherSlot]
        rfl
      · simp only [trace, device]
        have noted :
            Grown (fun event => event = .closed actor ∨
                event = .dropped actor slot (before.device.fd slot) ∨
                  event = .deleted slot (before.device.fd slot))
              before.device.trace
              (((before.device.log (.closed actor)).log
                (.dropped actor slot (before.device.fd slot))).httpdSessDelete
                  slot).trace := by
          refine ((Grown.single (.inl rfl)).cons (.inr (.inl rfl))).trans
            ((Device.trace_httpdSessDelete _ slot).weaken ?_)
          rintro event rfl
          exact .inr (.inr rfl)
        exact delivering.sends.grow noted (by simp)

/-- A write of an active client goes to an open session. -/
theorem Delivering.write
    {actor : ClientId}
    {bytes : List Byte}
    (delivering : Delivering before)
    (active : before.Active actor)
    (transportOk : (before.writeClient actor bytes).trace.TransportOk) :
    Delivering (before.writeClient actor bytes) := by
  cases connected : (before.clients actor).connection with
  | none =>
      rw [writeClient_unconnected connected]
      exact delivering
  | some slot =>
      have holds : before.Holds actor slot := by
        refine ⟨active.resolve_right ?_, connected⟩
        rw [connected]
        simp
      have grown :
          Grown (Event.OnSession slot (before.device.fd slot)) before.trace
            (before.writeClient actor bytes).trace := by
        simp only [trace, writeClient, connected]
        exact before.device.trace_writeData slot bytes
      have sameTable :
          (before.writeClient actor bytes).device.hd = before.device.hd := by
        simp only [trace, writeClient, connected] at transportOk ⊢
        exact before.device.hd_writeData slot bytes transportOk
      refine delivering.keep (fun _ _ => id) (fun _ _ _ => by rw [sameTable])
        (delivering.sends.grow grown ?_)
      rintro other fd bytes ret ⟨_, rfl⟩
      exact (delivering.opened actor slot holds).1

/-- A transition without failure keeps the sessions open. -/
theorem Delivering.transition
    (delivering : Delivering before)
    (linked : Linked broker before)
    (transition : Transition broker closable before after)
    (transportOk : after.trace.TransportOk) :
    Delivering after := by
  have holders (client : ClientId) (slot : SlotId) :
      after.Holds client slot → before.Holds client slot :=
    transition.holds linked
  have earlierOk := transportOk.shrink transition.trace
  cases transition with
  | change actor _ change =>
      rcases change.quiet_or with quiet | ⟨bytes, active, rfl⟩ | ⟨_, rfl⟩
      · refine delivering.keep holders
          (fun _ _ _ => by rw [quiet.hd]) ?_
        rcases quiet.trace with same | ⟨event, isQuiet, logged⟩
        · exact same ▸ delivering.sends
        · rw [logged]
          refine delivering.sends.grow (.single isQuiet) ?_
          exact fun _ _ _ _ impossible => impossible.elim
      · exact delivering.write active transportOk
      · exact delivering.close actor
  | system os =>
      exact delivering.keep holders (fun _ _ _ => rfl) delivering.sends
  | read client slot held =>
      have sameTable := before.device.hd_readData slot 1 transportOk
      refine delivering.keep holders (fun _ _ _ => by rw [sameTable]) ?_
      refine delivering.sends.grow (before.device.trace_readData slot 1) ?_
      rintro other fd bytes ret ⟨_, rfl⟩
      exact (delivering.opened client slot held).1
  | forget slot failed => exact absurd earlierOk failed
  | fed client slot byte held =>
      exact delivering.keep holders (fun _ _ _ => rfl)
        (delivering.sends.grow
          (.single (rfl : Event.fed client slot byte = _)) (by simp))
  | newLocal id alive =>
      exact delivering.keep holders (fun _ _ _ => rfl) delivering.sends
  | newUpstream alive vacant =>
      refine delivering.keep holders (fun _ _ _ => ?_) ?_
      · simp [upstreamLink, vacant]
      · simp only [upstreamLink, vacant]
        exact delivering.sends
  | link upstream isUpstream change links =>
      exact delivering.keep holders (fun _ _ _ => rfl) delivering.sends

/-- An accept takes a slot that nobody holds. -/
theorem Delivering.accept
    (delivering : Delivering before) :
    Delivering (before.accept broker) := by
  have acceptance := before.device.acceptance_checkAvail
  have table :
      (before.accept broker).device.hd = before.device.checkAvail.2.hd := by
    cases found : before.device.checkAvail.1 with
    | none =>
        rw [accept_none broker found]
    | some slot =>
        rw [(created_accept broker found).2]
        rfl
  have stillOpen {slot : SlotId} (isOpen : 0 ≤ before.device.fd slot) :=
    acceptance.kept slot isOpen
  -- A client that held a session before does not hold the new one.
  have distinct {client : ClientId} {slot : SlotId}
      (held : before.Holds client slot) :
      before.device.checkAvail.1 ≠ some slot := by
    intro taken
    have free := (acceptance.fresh slot taken).1
    have isOpen := (delivering.opened client slot held).1
    omega
  constructor
  case opened =>
    intro client slot holds
    rw [Device.fd, table]
    rcases holds_of_accept holds with held | ⟨_, taken⟩
    · obtain ⟨isOpen, handle⟩ := delivering.opened client slot held
      obtain ⟨sameFd, sameHandle⟩ := stillOpen isOpen
      rw [sameFd, sameHandle]
      exact ⟨isOpen, handle⟩
    · exact (acceptance.fresh slot taken).2
  case unique =>
    intro first second slot firstHolds secondHolds
    rcases holds_of_accept firstHolds with firstHeld | ⟨firstNew, taken⟩
    · rcases holds_of_accept secondHolds with secondHeld | ⟨_, taken⟩
      · exact delivering.unique first second slot firstHeld secondHeld
      · exact absurd taken (distinct firstHeld)
    · rcases holds_of_accept secondHolds with secondHeld | ⟨secondNew, _⟩
      · exact absurd taken (distinct secondHeld)
      · rw [firstNew, secondNew]
  case sends =>
    refine delivering.sends.grow (trace_accept before broker) ?_
    rintro slot fd bytes ret (impossible | ⟨_, impossible⟩)
    · exact impossible.elim
    · cases impossible

variable [Indexer Index]

/-- As long as no transfer fails, attached clients hold open sessions. -/
theorem Delivering.run
    {condition : World Index Os → Action Os → Prop}
    (initial : Initial before broker)
    (run : Run broker condition before after)
    (transportOk : after.trace.TransportOk) :
    Linked broker after ∧ Delivering after := by
  let invariant (world : World Index Os) : Prop :=
    world.trace.TransportOk → Delivering world
  have start : invariant before := by
    intro _
    constructor
    case opened =>
      intro client slot holds
      exact absurd holds (initial.not_holds client slot)
    case unique =>
      intro first second slot holds
      exact absurd holds (initial.not_holds first slot)
    case sends =>
      rw [initial.noEvents]
      intro slot fd bytes ret member
      simp at member
  obtain ⟨linked, delivering⟩ :=
    Run.invariant initial run start
      (fun world _ _ holds transportOk =>
        (holds (transportOk.shrink (trace_accept world broker))).accept)
      fun _ _ linked transition holds transportOk =>
        (holds (transportOk.shrink transition.trace)).transition linked
          transition transportOk
  exact ⟨linked, delivering transportOk⟩

/--
As long as no transfer fails, `send_fn` is only called on open sessions, and
every client of the list that has a session has an open one.
-/
theorem delivery_to_open_sessions
    {condition : World Index Os → Action Os → Prop}
    (initial : Initial before broker)
    (run : Run broker condition before after)
    (transportOk : after.trace.TransportOk) :
    after.trace.SendsOpen ∧
      ∀ client ∈ after.members broker, ∀ slot,
        (after.clients client).connection = some slot →
        0 ≤ after.device.fd slot := by
  obtain ⟨linked, delivering⟩ := Delivering.run initial run transportOk
  refine ⟨delivering.sends, ?_⟩
  intro client member slot connected
  have holds : after.Holds client slot :=
    ⟨by simp [linked.memberParent client member], connected⟩
  exact (delivering.opened client slot holds).1

/-- A peer that logs in, subscribes to `"a"` and breaks off. -/
def lostScript : Script where
  clock := 0
  connections := [5]
  receipts :=
    Script.receive (Script.connectPacket ++ Script.subscribePacket) ++
      [(-1, [])]
  sendResults := []

/-- The run up to the subscription, and a publication of the application. -/
def deliveredRun : World StringIndexer Script :=
  performAll 0 always
    (.accept :: List.replicate 29 (.poll 0) ++
      [.newLocal [] 0, .publish 1 ⟨1⟩ []])
    lostScript.setup

/-- Delivery before the connection breaks. -/
theorem delivery_to_open_sessions_delivered :
    .sent 0 5 [0x30, 0x03, 0x00, 0x01, 0x61] 5 ∈ deliveredRun.trace ∧
      deliveredRun.trace.SendsOpen := by
  refine ⟨by decide, ?_⟩
  exact (delivery_to_open_sessions lostScript.initial_setup
    (run_performAll 0 always _ _) (by decide)).1

/-- The same run, with the publication after the connection broke. -/
def lostRun : World StringIndexer Script :=
  performAll 0 always
    (.accept :: List.replicate 30 (.poll 0) ++
      [.newLocal [] 0, .publish 1 ⟨1⟩ []])
    lostScript.setup

/-- The client is still listed, and `send_fn` gets the descriptor -1. -/
theorem not_sendsOpen_lost :
    Initial lostScript.setup 0 ∧
      Run 0 always lostScript.setup lostRun ∧
        0 ∈ lostRun.members 0 ∧
          (lostRun.clients 0).connection = some 0 ∧
            lostRun.device.fd 0 = -1 ∧
              ¬ lostRun.trace.SendsOpen := by
  refine ⟨lostScript.initial_setup, run_performAll 0 _ _ _, by decide,
    by decide, by decide, ?_⟩
  intro sendsOpen
  have negative := sendsOpen 0 (-1) [0x30, 0x03, 0x00, 0x01, 0x61] 5
    (by decide)
  contradiction

end World

end SimpleTlsBroker
