import SimpleTlsBroker.StepTransitions
import SimpleTlsBroker.Scripts

namespace SimpleTlsBroker

/-!
# Who owns a session

A client keeps the pointer to its session for as long as it lives, also when
the session has been deleted under it by a failed transfer.  As long as no
accept takes a slot that a client of the list still points to, sessions belong
to the client that was made for them.
-/

open History

namespace Trace

/-- Every byte was fed to the client made for the last accept of its slot. -/
def OwnBytes (trace : Trace) : Prop :=
  Checked
    (fun event earlier =>
      ∀ client slot byte, event = .fed client slot byte →
        owner? slot earlier = some client)
    trace

/-- Every open session that a closed client dropped was its own. -/
def OwnDeletions (trace : Trace) : Prop :=
  Checked
    (fun event earlier =>
      ∀ client slot fd, event = .dropped client slot fd → 0 ≤ fd →
        owner? slot earlier = some client)
    trace

end Trace

namespace Event

/-- Events that neither give a session away nor use one. -/
def IsNeutral : Event → Prop
  | .accepted _ _ => False
  | .fed _ _ _ => False
  | .dropped _ _ _ => False
  | _ => True

theorem IsQuiet.isNeutral
    {event : Event}
    (isQuiet : event.IsQuiet) :
    event.IsNeutral := by
  cases event <;> simp_all [IsQuiet, IsNeutral]

theorem OnSession.isNeutral
    {slot : SlotId}
    {fd : Int}
    {event : Event}
    (onSession : event.OnSession slot fd) :
    event.IsNeutral := by
  cases event <;> simp_all [OnSession, IsNeutral]

theorem IsDeletion.isNeutral
    {event : Event}
    (isDeletion : event.IsDeletion) :
    event.IsNeutral := by
  cases event <;> simp_all [IsDeletion, IsNeutral]

end Event

namespace Trace

/-- Neutral events leave the owners as they are. -/
theorem owner?_grown
    {earlier later : Trace}
    (grown : Grown Event.IsNeutral earlier later)
    (slot : SlotId) :
    owner? slot later = owner? slot earlier := by
  obtain ⟨since, rfl, neutral⟩ := grown
  induction since with
  | nil => rfl
  | cons event rest inductionHypothesis =>
      have isNeutral := neutral event List.mem_cons_self
      have restNeutral :
          ∀ other ∈ rest, other.IsNeutral := fun other member =>
        neutral other (List.mem_cons_of_mem event member)
      rw [List.cons_append, owner?]
      cases event <;>
        simp_all [Event.acceptedBy?, Event.IsNeutral]

end Trace

namespace World

variable {Index Os : Type}

/-- Attached clients own their sessions. -/
def Owned (world : World Index Os) : Prop :=
  ∀ client slot, world.Holds client slot →
    world.trace.owner? slot = some client

/-- Everything the sessions of a run are used for is in order. -/
structure Ownership (world : World Index Os) : Prop where
  owned : world.Owned
  bytes : world.trace.OwnBytes
  deletions : world.trace.OwnDeletions

variable [Platform Os]

/-- Is this an attempt to accept a connection? -/
def Action.isAccept : Action Os → Bool
  | .accept => true
  | _ => false

/-- An accept takes no slot that a client of the list still points to. -/
def TakesFreeSlot
    (broker : BrokerId)
    (world : World Index Os)
    (action : Action Os) : Prop :=
  action.isAccept = true →
    ∀ slot ∈ world.device.checkAvail.1,
      ∀ client ∈ world.members broker,
        (world.clients client).connection ≠ some slot

instance
    (broker : BrokerId)
    (world : World Index Os)
    (action : Action Os) :
    Decidable (world.TakesFreeSlot broker action) :=
  inferInstanceAs (Decidable (_ → _))

variable {broker : BrokerId}
variable {before after : World Index Os}
variable {closable : World Index Os → ClientId → Prop}

omit [Platform Os] in
/-- Neutral events without new holders keep everything in order. -/
theorem Ownership.neutral
    (ownership : Ownership before)
    (grown : Grown Event.IsNeutral before.trace after.trace)
    (holders : ∀ client slot, after.Holds client slot →
      before.Holds client slot) :
    Ownership after where
  owned client slot holds := by
    rw [Trace.owner?_grown grown]
    exact ownership.owned client slot (holders client slot holds)
  bytes := by
    refine ownership.bytes.grow grown ?_
    rintro event neutral earlier client slot byte rfl
    exact neutral.elim
  deletions := by
    refine ownership.deletions.grow grown ?_
    rintro event neutral earlier client slot fd rfl
    exact neutral.elim

omit [Platform Os] in
/-- Noting that a client drops the session it owns. -/
theorem Ownership.drop
    (ownership : Ownership before)
    {client : ClientId}
    {slot : SlotId}
    (owns : before.trace.owner? slot = some client)
    (fd : Int) :
    Ownership (before.log (.dropped client slot fd)) where
  owned := ownership.owned
  bytes := ⟨by simp, ownership.bytes⟩
  deletions := by
    refine ⟨?_, ownership.deletions⟩
    rintro client slot fd ⟨⟩ _
    exact owns

/-- A client that is closed drops its own session. -/
theorem Ownership.close
    (ownership : Ownership before)
    (actor : ClientId) :
    Ownership (before.close actor) := by
  have holders (client : ClientId) (slot : SlotId)
      (holds : (before.close actor).Holds client slot) :
      before.Holds client slot := (holds_of_close holds).2
  have noted : Ownership (before.log (.closed actor)) :=
    ownership.neutral (.single trivial) fun _ _ => id
  have device := before.device_close actor
  cases session : before.session? actor with
  | none =>
      rw [session] at device
      refine noted.neutral ?_ holders
      simp only [World.trace, device]
      exact .refl _
  | some slot =>
      rw [session] at device
      have owns : before.trace.owner? slot = some actor :=
        ownership.owned actor slot (holds_of_session? session)
      have dropped :=
        Ownership.drop noted owns (before.device.fd slot)
      refine dropped.neutral ?_ holders
      simp only [World.trace, device]
      refine (Device.trace_httpdSessDelete _ slot).weaken ?_
      rintro event rfl
      exact trivial

/-- A transition keeps the sessions in order. -/
theorem Ownership.transition
    (ownership : Ownership before)
    (linked : Linked broker before)
    (transition : Transition broker closable before after) :
    Ownership after := by
  have holders (client : ClientId) (slot : SlotId) :
      after.Holds client slot → before.Holds client slot :=
    transition.holds linked
  cases transition with
  | change actor _ change =>
      rcases change.quiet_or with quiet | ⟨bytes, _, rfl⟩ | ⟨_, rfl⟩
      · refine ownership.neutral ?_ holders
        rcases quiet.trace with same | ⟨event, isQuiet, logged⟩
        · exact same ▸ .refl _
        · exact logged ▸ .single isQuiet.isNeutral
      · cases connected : (before.clients actor).connection with
        | none =>
            rw [writeClient_unconnected connected]
            exact ownership
        | some slot =>
            refine ownership.neutral ?_ holders
            simp only [trace, writeClient, connected]
            exact (before.device.trace_writeData slot bytes).weaken
              fun _ onSession => onSession.isNeutral
      · exact ownership.close actor
  | system os => exact ownership.neutral (.refl _) holders
  | read client slot held =>
      exact ownership.neutral
        ((before.device.trace_readData slot 1).weaken
          fun _ onSession => onSession.isNeutral) holders
  | forget slot failed =>
      refine ownership.neutral
        ((before.device.trace_httpdSessDelete slot).weaken ?_) holders
      rintro event rfl
      exact trivial
  | fed client slot byte held =>
      refine ⟨ownership.owned, ⟨?_, ownership.bytes⟩,
        ⟨by simp, ownership.deletions⟩⟩
      rintro client slot byte ⟨⟩
      exact ownership.owned client slot held
  | newLocal id alive => exact ownership.neutral (.refl _) holders
  | newUpstream alive vacant =>
      refine ownership.neutral ?_ holders
      simp only [upstreamLink, vacant]
      exact .refl _
  | link upstream isUpstream change links =>
      exact ownership.neutral (.refl _) holders

/-- An accept into a slot that nobody points to keeps the sessions in order. -/
theorem Ownership.accept
    (ownership : Ownership before)
    (linked : Linked broker before)
    (free : before.TakesFreeSlot broker .accept) :
    Ownership (before.accept broker) := by
  have grown :
      Grown Event.IsNeutral before.trace before.device.checkAvail.2.trace :=
    before.device.acceptance_checkAvail.trace.weaken
      fun _ isDeletion => isDeletion.isNeutral
  have waiting :
      Ownership { before with device := before.device.checkAvail.2 } :=
    ownership.neutral grown fun _ _ => id
  cases found : before.device.checkAvail.1 with
  | none =>
      rw [accept_none broker found]
      exact waiting
  | some slot =>
      have newTrace :
          (before.accept broker).trace =
            .accepted before.next slot ::
              before.device.checkAvail.2.trace := by
        simp only [trace, (created_accept broker found).2]
        rfl
      constructor
      case owned =>
        intro client other holds
        rw [newTrace, Trace.owner?]
        rcases holds_of_accept holds with held | ⟨isNew, sameSlot⟩
        · have distinct : slot ≠ other := by
            rintro rfl
            rcases linked.attached client held.1 with member | isUpstream
            · exact free rfl slot (by simp [found]) client member held.2
            · have unconnected := linked.unconnected client isUpstream
              rw [held.2] at unconnected
              contradiction
          simp only [Event.acceptedBy?, distinct, ↓reduceIte]
          exact waiting.owned client other held
        · rw [found] at sameSlot
          simp [Event.acceptedBy?, Option.some.inj sameSlot, isNew]
      case bytes =>
        rw [newTrace]
        exact ⟨by simp, waiting.bytes⟩
      case deletions =>
        rw [newTrace]
        exact ⟨by simp, waiting.deletions⟩

variable [Indexer Index]

/--
As long as no accept takes a slot that a client of the list still points to,
every byte is fed to the client made for its session, every client drops its
own session only, and no two clients of the list hold one session.
-/
theorem session_ownership
    (initial : Initial before broker)
    (run : Run broker (TakesFreeSlot broker) before after) :
    after.trace.OwnBytes ∧
      after.trace.OwnDeletions ∧
        ∀ first ∈ after.members broker, ∀ second ∈ after.members broker,
          ∀ slot,
            (after.clients first).connection = some slot →
            (after.clients second).connection = some slot →
            first = second := by
  have start : Ownership before := by
    constructor
    case owned =>
      intro client slot holds
      exact absurd holds (initial.not_holds client slot)
    case bytes =>
      rw [initial.noEvents]
      trivial
    case deletions =>
      rw [initial.noEvents]
      trivial
  obtain ⟨linked, ownership⟩ :=
    Run.invariant initial run start
      (fun _ linked free holds => holds.accept linked free)
      fun _ _ linked transition holds => holds.transition linked transition
  refine ⟨ownership.bytes, ownership.deletions, ?_⟩
  intro first firstMember second secondMember slot firstHolds secondHolds
  have firstOwns := ownership.owned first slot
    ⟨by simp [linked.memberParent first firstMember], firstHolds⟩
  have secondOwns := ownership.owned second slot
    ⟨by simp [linked.memberParent second secondMember], secondHolds⟩
  exact Option.some.inj (firstOwns.symm.trans secondOwns)

/-- Two peers, of which the first sends two bytes and breaks off. -/
def brokenScript : Script where
  clock := 0
  connections := [5, 6]
  receipts := Script.receive [0x10, 0x13] ++ [(-1, []), (1, [0x10])]
  sendResults := []

/-- A run in which both peers are accepted before the first one fails. -/
def separateRun : World StringIndexer Script :=
  performAll 0 (TakesFreeSlot 0)
    [.accept, .accept, .poll 0, .poll 0, .poll 0, .poll 1]
    brokenScript.setup

/-- Ownership, in a run in which the second peer got a slot of its own. -/
theorem session_ownership_separate :
    separateRun.members 0 = [0, 1] ∧
      separateRun.trace.fedTo 1 = [0x10] ∧
        separateRun.trace.OwnBytes :=
  ⟨by decide, by decide,
    (session_ownership brokenScript.initial_setup
      (run_performAll 0 _ _ _)).1⟩

/-- A run in which the second peer gets the slot of the failed one. -/
def reusedRun : World StringIndexer Script :=
  performAll 0 always
    [.accept, .poll 0, .poll 0, .poll 0, .accept, .poll 0]
    brokenScript.setup

/-- Both clients hold the open slot, and the first one takes the bytes. -/
theorem not_ownBytes_reused :
    Initial brokenScript.setup 0 ∧
      Run 0 always brokenScript.setup reusedRun ∧
        reusedRun.members 0 = [0, 1] ∧
          (reusedRun.clients 0).connection = some 0 ∧
            (reusedRun.clients 1).connection = some 0 ∧
              0 ≤ reusedRun.device.fd 0 ∧
                ¬ reusedRun.trace.OwnBytes := by
  refine ⟨brokenScript.initial_setup, run_performAll 0 _ _ _, by decide,
    by decide, by decide, by decide, ?_⟩
  intro ownBytes
  have lastEvent :
      reusedRun.trace = .fed 0 0 0x10 :: reusedRun.trace.tail := by
    decide
  rw [lastEvent] at ownBytes
  have owner := ownBytes.1 0 0 0x10 rfl
  have otherOwner : Trace.owner? 0 reusedRun.trace.tail = some 1 := by
    decide
  rw [otherOwner] at owner
  contradiction

end World

end SimpleTlsBroker
