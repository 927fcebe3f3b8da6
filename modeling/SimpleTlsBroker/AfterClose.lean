import SimpleTlsBroker.Bystanders
import SimpleTlsBroker.Deadlines
import SimpleTlsBroker.Delivery
import SimpleTlsBroker.Streams

namespace SimpleTlsBroker

/-!
# After a client is closed

A networked client is closed by one of its own messages or by a timeout.  From
then on its session has no descriptor, so that the read loop stops, and no list
holds it, so that no step of the broker has to do with it any more.  The
messages it has processed by then are all it ever processes.
-/

open History

/-- Who owns a slot is decided by accepts only. -/
theorem Trace.owner?_of_admitsNobody
    {earlier later : Trace}
    (grown : Grown (fun event => ¬ event.IsAdmission) earlier later)
    (slot : SlotId) :
    owner? slot later = owner? slot earlier := by
  obtain ⟨since, rfl, admitsNobody⟩ := grown
  induction since with
  | nil => rfl
  | cons event rest inductionHypothesis =>
      have notAccepted : event.acceptedBy? slot = none := by
        have noAdmission := admitsNobody event List.mem_cons_self
        cases event <;> simp_all [Event.IsAdmission, Event.acceptedBy?]
      rw [List.cons_append, owner?, notAccepted]
      exact inductionHypothesis fun other member =>
        admitsNobody other (List.mem_cons_of_mem event member)

/-- Events about others are no receptions. -/
theorem Event.not_isReception
    {client : ClientId}
    {event : Event}
    (others : event.client? ≠ some client) :
    ¬ event.IsReception client := by
  cases event <;> simp_all [IsReception, client?]

namespace World

open MqttMessage (receive)

variable {Index Os : Type}

/-- The client is in the list of the broker and has a session. -/
structure Attached
    (world : World Index Os)
    (broker : BrokerId)
    (client : ClientId)
    (slot : SlotId) : Prop where
  member : client ∈ world.members broker
  connection : (world.clients client).connection = some slot

/-- The client has just been closed, and its session with it. -/
structure Closed
    (world : World Index Os)
    (client : ClientId)
    (slot : SlotId) : Prop where
  detached : (world.clients client).parent = none
  loggedOut : (world.clients client).mqttConnected = false
  connection : (world.clients client).connection = some slot
  shut : world.device.fd slot = -1
  closed : .closed client ∈ world.trace

/--
What still holds of a client some time after it was closed.  Until its slot is
given to another client the slot has no descriptor, and none of the events
since then is about the client: nothing was fed to it, processed by it or sent
to it.
-/
structure Over
    (broker : BrokerId)
    (client : ClientId)
    (slot : SlotId)
    (closed later : World Index Os) : Prop where
  notMember : client ∉ later.members broker
  detached : (later.clients client).parent = none
  loggedOut : (later.clients client).mqttConnected = false
  connection : (later.clients client).connection = some slot
  shut :
    later.trace.owner? slot = some client → later.device.fd slot = -1
  silent :
    Grown (fun event => event.client? ≠ some client)
      closed.trace later.trace
  fedTo : later.trace.fedTo client = closed.trace.fedTo client
  processedBy :
    later.trace.processedBy client = closed.trace.processedBy client

variable {broker : BrokerId}
variable {client : ClientId}
variable {slot : SlotId}
variable {before start first second middle after later world :
  World Index Os}

namespace Attached

/-- An attached client is polled. -/
theorem polled (attached : Attached world broker client slot) :
    world.Polled broker client :=
  .inl attached.member

/-- It points to its broker. -/
theorem parent
    (attached : Attached world broker client slot)
    (linked : Linked broker world) :
    (world.clients client).parent = some broker :=
  linked.memberParent client attached.member

/-- It is networked. -/
theorem remote
    (attached : Attached world broker client slot)
    (linked : Linked broker world) :
    (world.clients client).client = true :=
  linked.remote client slot attached.connection

/-- It holds its session. -/
theorem holds
    (attached : Attached world broker client slot)
    (linked : Linked broker world) :
    world.Holds client slot :=
  ⟨by simp [attached.parent linked], attached.connection⟩

/-- Keeping the links keeps it attached. -/
theorem kept
    (attached : Attached before broker client slot)
    (kept : LinksKept before after) :
    Attached after broker client slot where
  member := by
    rw [members, kept.brokers]
    exact attached.member
  connection := (kept.connection client).trans attached.connection

/-- A member that keeps its place stays attached. -/
theorem memberKept
    (attached : Attached before broker client slot)
    (kept : MemberKept broker client before after) :
    Attached after broker client slot :=
  ⟨kept.member, kept.connection.trans attached.connection⟩

end Attached

/--
The message of a client that a step completes, and the world in which it is
processed.
-/
def completes
    [Platform Os]
    (world : World Index Os)
    (client : ClientId) : Action Os → List (World Index Os × MqttMessage)
  | .poll other =>
      if other = client then (world.arriving? client).toList else []
  | _ => []

/-- A run, with the messages of a client that its steps complete. -/
inductive Listening
    [Indexer Index]
    [Platform Os]
    (broker : BrokerId)
    (condition : World Index Os → Action Os → Prop)
    (client : ClientId)
    (start : World Index Os) :
    List (World Index Os × MqttMessage) → World Index Os → Prop where
  | start : Listening broker condition client start [] start
  | next
      (heard : List (World Index Os × MqttMessage))
      (action : Action Os)
      (before after : World Index Os)
      (earlier : Listening broker condition client start heard before)
      (step : Step broker before action after)
      (allowed : condition before action) :
      Listening broker condition client start
        (heard ++ before.completes client action) after

/-- The session of a slot can be deleted, or has been. -/
structure Deletable
    (world : World Index Os)
    (slot : SlotId) : Prop where
  handle : (world.device.hd.hdSd slot).handle = true
  valid : 0 ≤ world.device.fd slot ∨ world.device.fd slot = -1

/-- Deleting sessions keeps them deletable. -/
theorem Deletable.shrunk
    (deletable : Deletable before slot)
    (shrunk : SlotsShrunk before.device.hd after.device.hd) :
    Deletable after slot := by
  rcases shrunk slot with same | closed
  · constructor
    · rw [same]
      exact deletable.handle
    · rw [Device.fd, same]
      exact deletable.valid
  · constructor
    · rw [closed]
      exact deletable.handle
    · right
      rw [Device.fd, closed]

variable [Platform Os]

/-! ## Closing -/

/-- `close` takes the session along. -/
theorem closed_close
    (attached : Attached world broker client slot)
    (linked : Linked broker world)
    (deletable : Deletable world slot) :
    Closed (world.close client) client slot := by
  have session : world.session? client = some slot := by
    simp [session?, attached.parent linked, attached.remote linked,
      attached.connection]
  have device := world.device_close client
  rw [session] at device
  dsimp only at device
  constructor
  case detached => rw [clients_close_self]
  case loggedOut => rw [clients_close_self]
  case connection =>
    rw [connection_close]
    exact attached.connection
  case shut =>
    rw [device]
    exact Device.fd_httpdSessDelete deletable.handle deletable.valid
  case closed =>
    simp only [trace, device]
    exact (Device.trace_httpdSessDelete _ slot).mem (by simp [Device.log])

omit [Platform Os] in
/-- Changing fields that nobody relies on keeps a client closed. -/
theorem Closed.modifyClient
    (closed : Closed world client slot)
    {change : MqttClient → MqttClient}
    (keeps : KeepsLogin change) :
    Closed (world.modifyClient client change) client slot where
  detached := by
    rw [clients_modifyClient_self, keeps.parent]
    exact closed.detached
  loggedOut := by
    rw [clients_modifyClient_self]
    by_contra connected
    have before :=
      keeps.mqttConnected _ (Bool.not_eq_false _ ▸ connected)
    rw [closed.loggedOut] at before
    contradiction
  connection := by
    rw [clients_modifyClient_self, keeps.connection]
    exact closed.connection
  shut := closed.shut
  closed := closed.closed

/-- So does setting the deadline. -/
theorem Closed.clientAlive
    (closed : Closed world client slot)
    (moreSeconds : Nat) :
    Closed (world.clientAlive client moreSeconds) client slot := by
  obtain ⟨change, keeps, result⟩ := clientAlive_eq world client moreSeconds
  rw [result]
  exact closed.modifyClient keeps.toKeepsLogin

/-- Every transition deletes sessions at most. -/
theorem Transition.slots
    {closable : World Index Os → ClientId → Prop}
    (transition : Transition broker closable before after) :
    SlotsShrunk before.device.hd after.device.hd := by
  cases transition with
  | change actor _ change =>
      rcases change.quiet_or with quiet | ⟨bytes, _, rfl⟩ | ⟨_, rfl⟩
      · rw [quiet.hd]
        exact .refl _
      · exact (Spared.writeClient actor before actor bytes).slots
      · exact (Spared.close actor before actor).slots
  | system os => exact .refl _
  | read other session held => exact before.device.slotsShrunk_readData _ 1
  | forget session failed => exact before.device.hdSd_httpdSessDelete session
  | fed other session byte held => exact .refl _
  | newLocal id alive => exact .refl _
  | newUpstream alive vacant =>
      simp only [upstreamLink, vacant]
      exact .refl _
  | link upstream isUpstream change links => exact .refl _

/-- The timeout check closes an attached client if it is overdue. -/
theorem expire_of_attached
    (attached : Attached world broker client slot)
    (linked : Linked broker world) :
    world.expire client = world ∨
      world.Overdue client ∧ world.expire client = world.close client := by
  unfold expire
  dsimp only
  rw [attached.parent linked]
  dsimp only
  split
  · rename_i overdue
    exact .inr ⟨overdue, rfl⟩
  · exact .inl rfl

/-- Transitions delete sessions at most. -/
theorem Transitions.slots
    {closable : World Index Os → ClientId → Prop}
    (transitions : Transitions broker closable before after) :
    SlotsShrunk before.device.hd after.device.hd := by
  induction transitions with
  | refl => exact .refl _
  | tail _ last inductionHypothesis =>
      exact inductionHypothesis.trans last.slots

variable [Indexer Index]

/-- A message leaves its client where it is, or closes it. -/
theorem processMessage_keepsOrCloses
    (attached : Attached world broker client slot)
    (linked : Linked broker world)
    (deletable : Deletable world slot)
    (mesg : MqttMessage) :
    world.closes client mesg = false ∧
        LinksKept world (world.processMessage client mesg) ∨
      world.closes client mesg = true ∧
        Closed (world.processMessage client mesg) client slot := by
  have isProcessed :
      world.processMessage client mesg =
        world.processMessageWith
          (fun broker source topic mesg world =>
            (world.publish broker source topic mesg).2) client mesg := rfl
  rw [isProcessed]
  obtain ⟨active, activity, outcome⟩ :=
    processMessageWith_outcome
      (fun broker source topic mesg world =>
        (world.publish broker source topic mesg).2) world client mesg
  have logged : LinksKept world (world.log (.processed client mesg)) :=
    .log world _
  have isActive : (world.log (.processed client mesg)).Active client :=
    (linked.active_of_polled attached.polled).kept logged
  have changes :
      Changes never (fun _ => True) (world.log (.processed client mesg))
        active := by
    refine activity.changes trivial isActive rfl ?_
    intro parent topic middle isPublish isParent _ kept
    rw [linked.parentBroker client parent isParent]
    have published :
        Changes never _ middle (middle.publish broker client topic mesg).2 :=
      publish_changes (linked.deliverable.kept (logged.trans kept)) client
        topic (complete_of_publish isPublish) fun other =>
          absurd isPublish other
    exact published.weaken (fun _ _ => id) fun _ _ => trivial
  have kept : LinksKept world active := logged.trans changes.kept
  -- The activity deletes sessions at most, so `close` still finds this one.
  have spared : Spared client (world.log (.processed client mesg)) active := by
    refine activity.spared client fun parent topic middle isRemote entered => ?_
    exact publish_spared (entered.remote.trans isRemote) parent client topic
      mesg
  have closed : Closed (active.close client) client slot :=
    closed_close (attached.kept kept) (linked.kept kept)
      (deletable.shrunk spared.slots)
  generalize world.processMessageWith _ client mesg = after at outcome ⊢
  cases outcome with
  | rejected notAllowed closes => exact .inr ⟨closes, closed⟩
  | disconnected isDisconnect moreSeconds =>
      have closes : world.closes client mesg = true := by
        unfold World.closes
        rw [isDisconnect]
      exact .inr ⟨closes, closed.clientAlive moreSeconds⟩
  | taken stays =>
      have timed :
          Changes never (fun _ => True) active
            (active.clientAlive client
              (if (active.clients client).parent.isSome then 5 else 0)) :=
        Changes.clientAlive .refl trivial _
      exact .inl ⟨stays, kept.trans timed.kept⟩

/-- A round processes the message that it completes, and no other one. -/
theorem processedBy_poll
    (isRemote : (world.clients client).client = true) :
    (world.poll client).2.trace.processedBy client =
      world.trace.processedBy client ++
        (world.arriving? client).toList.map Prod.snd := by
  obtain ⟨device, work, cases⟩ := world.poll_arriving client
  have kept : ReceptionKept client world { world with device := device } :=
    .of_device work.trace
  have fed (slot : SlotId) (byte : Byte) :
      (({ world with device := device }.log
        (.fed client slot byte)).takeByte client byte).trace.processedBy
          client =
        world.trace.processedBy client := by
    rw [takeByte, trace_modifyClient, trace_log, Trace.processedBy_cons,
      kept.processedBy]
    simp [Event.processedBy?]
  rcases cases with ⟨nothing, result | ⟨slot, byte, result⟩⟩ |
    ⟨slot, byte, middle, mesg, _, arriving, isMiddle, result⟩
  · rw [nothing, result, kept.processedBy]
    exact (List.append_nil _).symm
  · rw [nothing, result, fed]
    exact (List.append_nil _).symm
  · have middleRemote : (middle.clients client).client = true := by
      rw [isMiddle]
      simpa [takeByte] using isRemote
    rw [arriving, result, trace_modifyClient,
      processedBy_processMessage middleRemote, isMiddle, fed]
    rfl

/-- A round leaves the client where it is, or completes the closing message. -/
theorem poll_keepsOrCloses
    (attached : Attached world broker client slot)
    (linked : Linked broker world)
    (deletable : Deletable world slot) :
    (Attached (world.poll client).2 broker client slot ∧
        ∀ message ∈ world.arriving? client,
          message.1.closes client message.2 = false) ∨
      Closed (world.poll client).2 client slot ∧
        ∃ middle mesg,
          world.arriving? client = some (middle, mesg) ∧
            middle.closes client mesg = true := by
  obtain ⟨device, work, cases⟩ := world.poll_arriving client
  have read (session : SlotId) (byte : Byte) :
      LinksKept world
        (({ world with device := device }.log
          (.fed client session byte)).takeByte client byte) := by
    have keeps := keepsLogin_message fun message => message.incoming byte
    exact ((LinksKept.device world device).trans (.log _ _)).trans
      (.modifyClient _ client keeps.toKeepsLinks)
  rcases cases with ⟨nothing, result | ⟨session, byte, result⟩⟩ |
    ⟨session, byte, middle, mesg, _, arriving, isMiddle, result⟩
  · rw [nothing, result]
    exact .inl ⟨⟨attached.member, attached.connection⟩,
      fun _ member => absurd member (Option.not_mem_none _)⟩
  · rw [nothing, result]
    exact .inl ⟨attached.kept (read session byte),
      fun _ member => absurd member (Option.not_mem_none _)⟩
  · have kept : LinksKept world middle := isMiddle ▸ read session byte
    have middleDeletable : Deletable middle slot := by
      have worked : Deletable { world with device := device } slot :=
        deletable.shrunk work.slots
      rw [isMiddle]
      exact ⟨worked.handle, worked.valid⟩
    have reset :=
      keepsLogin_message MqttMessage.reset
    rw [arriving, result]
    rcases processMessage_keepsOrCloses (attached.kept kept)
      (linked.kept kept) middleDeletable mesg with
      ⟨stays, keptOn⟩ | ⟨closes, closed⟩
    · refine .inl ⟨attached.kept ((kept.trans keptOn).trans
        (.modifyClient _ client reset.toKeepsLinks)), ?_⟩
      rintro message ⟨⟩
      exact stays
    · exact .inr ⟨closed.modifyClient reset, middle, mesg, rfl, closes⟩

/--
The step in which a client is closed: it completes a message that calls
`close`, or the client is overdue.
-/
structure ClosedBy
    (broker : BrokerId)
    (client : ClientId)
    (slot : SlotId)
    (first : World Index Os)
    (action : Action Os)
    (second : World Index Os) : Prop where
  step : Step broker first action second
  attached : Attached first broker client slot
  closed : Closed second client slot
  cause :
    (action = .poll client ∧
      ∃ middle mesg,
        first.completes client action = [(middle, mesg)] ∧
          middle.closes client mesg = true) ∨
      action = .expire client ∧ first.Overdue client

/-- Any other client may be closed, and local ones. -/
def Sparing
    (spared : ClientId)
    (world : World Index Os)
    (client : ClientId) : Prop :=
  client ≠ spared ∨ (world.clients client).client = false

/-- Actions other than its own poll and timeout keep a client attached. -/
theorem Step.keepsAttached
    {action : Action Os}
    (linked : Linked broker before)
    (attached : Attached before broker client slot)
    (step : Step broker before action after)
    (notPoll : action ≠ .poll client)
    (notExpire : action ≠ .expire client) :
    Attached after broker client slot := by
  have notUpstream : (before.brokers broker).broker ≠ some client :=
    fun isUpstream => (linked.outside client isUpstream).1 attached.member
  have born := linked.member_lt_next attached.member
  have transitions :
      action = .accept ∧ after = before.accept broker ∨
        Transitions broker (Sparing client) before after := by
    refine step.transitions linked ?_ ?_ ?_ ?_
    · rintro other rfl middle _
      exact .inl fun same => notPoll (same ▸ rfl)
    · rintro other rfl _
      exact .inl fun same => notExpire (same ▸ rfl)
    · intro _ _ _ _ _ middle other isLocal
      exact .inr isLocal
    · intro alive middle
      exact .inl (ne_upstreamLink notUpstream born alive).symm
  rcases transitions with ⟨_, rfl⟩ | transitions
  · exact attached.memberKept (accept_memberKept linked attached.member)
  · let linkedAttached (world : World Index Os) : Prop :=
      Linked broker world ∧ Attached world broker client slot
    have preserves :
        ∀ first second, Transition broker (Sparing client) first second →
          linkedAttached first → linkedAttached second := by
      rintro first second transition ⟨linked, attached⟩
      have spared : ¬ Sparing client first client := by
        rintro (other | isLocal)
        · exact other rfl
        · rw [attached.remote linked] at isLocal
          contradiction
      exact ⟨linked.transition transition, attached.memberKept
        (transition.memberKept linked attached.member spared)⟩
    exact (run_preserves preserves transitions ⟨linked, attached⟩).2

omit [Indexer Index] in
/-- Only polling a client completes a message of it. -/
theorem completes_of_ne
    (world : World Index Os)
    {action : Action Os}
    (notPoll : action ≠ .poll client) :
    world.completes client action = [] := by
  unfold completes
  split
  · rw [if_neg]
    rintro rfl
    exact notPoll rfl
  · rfl

/-- Every step keeps a client attached or closes it. -/
theorem Step.keepsOrCloses
    {action : Action Os}
    (linked : Linked broker before)
    (attached : Attached before broker client slot)
    (deletable : Deletable before slot)
    (step : Step broker before action after) :
    (Attached after broker client slot ∧
        ∀ message ∈ before.completes client action,
          message.1.closes client message.2 = false) ∨
      ClosedBy broker client slot before action after := by
  by_cases isPoll : action = .poll client
  · subst isPoll
    have completed :
        before.completes client (.poll client) =
          (before.arriving? client).toList := if_pos rfl
    have polled := step
    cases step with
    | poll =>
        rcases poll_keepsOrCloses attached linked deletable with
          ⟨kept, stays⟩ | ⟨closed, middle, mesg, arriving, closes⟩
        · rw [completed]
          exact .inl ⟨kept, fun message member =>
            stays message (Option.mem_toList.mp member)⟩
        · rw [arriving] at completed
          exact .inr ⟨polled, attached, closed,
            .inl ⟨rfl, middle, mesg, completed, closes⟩⟩
  · have nothing := before.completes_of_ne isPoll
    by_cases isExpire : action = .expire client
    · subst isExpire
      have expired := step
      cases step with
      | expire =>
          rcases expire_of_attached attached linked with
            same | ⟨overdue, closed⟩
          · rw [same, nothing]
            exact .inl ⟨attached, fun _ member => nomatch member⟩
          · rw [closed] at expired ⊢
            exact .inr ⟨expired, attached,
              closed_close attached linked deletable,
              .inr ⟨rfl, overdue⟩⟩
    · rw [nothing]
      exact .inl ⟨step.keepsAttached linked attached isPoll isExpire,
        fun _ member => nomatch member⟩

/-! ## Afterwards -/

/-- A slot without descriptor is given to another client, or stays without. -/
theorem Step.shut
    {action : Action Os}
    (linked : Linked broker before)
    (step : Step broker before action after)
    (born : client < before.next)
    (shut :
      before.trace.owner? slot = some client → before.device.fd slot = -1)
    (owns : after.trace.owner? slot = some client) :
    after.device.fd slot = -1 := by
  rcases step.transitionsFree linked with ⟨rfl, rfl⟩ | transitions
  · have acceptance := before.device.acceptance_checkAvail
    have sameOwner :
        before.device.checkAvail.2.trace.owner? slot =
          before.trace.owner? slot := by
      refine Trace.owner?_of_admitsNobody (acceptance.trace.weaken ?_) slot
      intro event isDeletion
      cases event <;> simp_all [Event.IsDeletion, Event.IsAdmission]
    cases found : before.device.checkAvail.1 with
    | none =>
        rw [accept_none broker found] at owns ⊢
        have shutBefore := shut (sameOwner.symm.trans owns)
        exact (acceptance.shut slot shutBefore).resolve_left (by simp [found])
    | some taken =>
        have device := (created_accept broker found).2
        simp only [trace, device, Device.log, Trace.owner?,
          Event.acceptedBy?] at owns
        by_cases same : taken = slot
        · simp only [same, ↓reduceIte, Option.some.injEq] at owns
          exact absurd owns (Nat.ne_of_gt born)
        · simp only [same, ↓reduceIte] at owns
          have shutBefore := shut (sameOwner.symm.trans owns)
          rw [device]
          exact (acceptance.shut slot shutBefore).resolve_left
            (by simpa [found] using same)
  · rw [Trace.owner?_of_admitsNobody transitions.admitsNobody] at owns
    have shutBefore := shut owns
    unfold Device.fd at shutBefore ⊢
    rcases transitions.slots slot with same | deleted
    · rw [same]
      exact shutBefore
    · rw [deleted]

/-- A client that was closed has no part in the rest of the run. -/
theorem Closed.isOver
    {condition : World Index Os → Action Os → Prop}
    (linked : Linked broker second)
    (closed : Closed second client slot)
    (run : Run broker condition second later) :
    Over broker client slot second later := by
  have bystander :
      Linked broker later ∧ Aside client second later ∧
        (later.trace.owner? slot = some client →
          later.device.fd slot = -1) := by
    induction run with
    | refl => exact ⟨linked, .refl client second, fun _ => closed.shut⟩
    | @tail middle after _ last inductionHypothesis =>
        obtain ⟨linked, aside, shut⟩ := inductionHypothesis
        obtain ⟨action, step, _⟩ := last
        have detached : (middle.clients client).parent = none := by
          rw [aside.record]
          exact closed.detached
        have connected :
            (middle.clients client).connection = some slot := by
          rw [aside.record]
          exact closed.connection
        have idle := linked.not_polled detached connected
        have born := linked.lt_next connected
        exact ⟨linked.step step,
          aside.trans (step.aside linked
            (linked.remote client slot connected) idle born),
          step.shut linked born shut⟩
  obtain ⟨linked, aside, shut⟩ := bystander
  have detached : (later.clients client).parent = none := by
    rw [aside.record]
    exact closed.detached
  have received :=
    Trace.reception_grown
      (aside.trace.weaken fun _ others => Event.not_isReception others)
  constructor
  case notMember =>
    intro member
    rw [linked.memberParent client member] at detached
    contradiction
  case detached => exact detached
  case loggedOut =>
    rw [aside.record]
    exact closed.loggedOut
  case connection =>
    rw [aside.record]
    exact closed.connection
  case shut => exact shut
  case silent => exact aside.trace
  case fedTo => exact received.1
  case processedBy => exact received.2

/-- The read loop of a closed client stops at once. -/
theorem Closed.poll
    (closed : Closed world client slot) :
    world.poll client = (false, world) := by
  refine poll_of_shut fun other connected => .inr ?_
  rw [closed.connection] at connected
  obtain rfl := Option.some.inj connected
  rw [closed.shut]
  decide

namespace Listening

variable {condition : World Index Os → Action Os → Prop}
variable {heard : List (World Index Os × MqttMessage)}

/-- It is a run. -/
theorem run
    (listening : Listening broker condition client start heard after) :
    Run broker condition start after := by
  induction listening with
  | start => exact .refl
  | next heard action before after _ step allowed inductionHypothesis =>
      exact inductionHypothesis.tail ⟨action, step, allowed⟩

/-- The messages are those that the client processes. -/
theorem processedBy
    (listening : Listening broker condition client start heard after)
    (isRemote : (start.clients client).client = true)
    (born : client < start.next) :
    after.trace.processedBy client =
      start.trace.processedBy client ++ heard.map Prod.snd := by
  induction listening with
  | start => exact (List.append_nil _).symm
  | next heard action before after earlier step _ inductionHypothesis =>
      obtain ⟨bytes, receives⟩ := Run.receives earlier.run isRemote born
      have stillRemote := receives.remote.trans isRemote
      have stillBorn := Nat.lt_of_lt_of_le born receives.next
      rw [List.map_append, ← List.append_assoc, ← inductionHypothesis]
      by_cases isPoll : action = .poll client
      · subst isPoll
        have completed :
            before.completes client (.poll client) =
              (before.arriving? client).toList := if_pos rfl
        rw [completed]
        cases step with
        | poll => exact processedBy_poll stillRemote
      · rw [before.completes_of_ne isPoll,
          (step.receptionKept stillRemote stillBorn isPoll).processedBy]
        exact (List.append_nil _).symm

/-- The client stays attached until a step closes it, and hears no more then. -/
theorem attachedOrClosed
    (initial : Initial world broker)
    (earlier : Run broker condition world start)
    (attached : Attached start broker client slot)
    (listening : Listening broker condition client start heard after)
    (transportOk : after.trace.TransportOk) :
    (Attached after broker client slot ∧
        ∀ message ∈ heard, message.1.closes client message.2 = false) ∨
      ∃ stayed first action second,
        Listening broker condition client start stayed first ∧
          (∀ message ∈ stayed,
            message.1.closes client message.2 = false) ∧
            ClosedBy broker client slot first action second ∧
              heard = stayed ++ first.completes client action ∧
                Run broker condition second after := by
  induction listening with
  | start => exact .inl ⟨attached, fun _ member => nomatch member⟩
  | next heard action middle after reached step allowed
      inductionHypothesis =>
      have linked := Linked.run initial (earlier.trans reached.run)
      have last : Run broker condition middle after :=
        .single ⟨action, step, allowed⟩
      have middleOk : middle.trace.TransportOk :=
        transportOk.shrink (Run.trace linked last).2
      rcases inductionHypothesis middleOk with
        ⟨attached, stays⟩ |
        ⟨stayed, first, closing, second, until', stays, closedBy, isHeard,
          later⟩
      · have delivering :=
          (Delivering.run initial (earlier.trans reached.run) middleOk).2
        obtain ⟨isOpen, handle⟩ :=
          delivering.opened client slot (attached.holds linked)
        rcases step.keepsOrCloses linked attached
          ⟨handle, .inl isOpen⟩ with ⟨kept, staysOn⟩ | closedBy
        · refine .inl ⟨kept, fun message member => ?_⟩
          rcases List.mem_append.mp member with isEarlier | isLast
          · exact stays message isEarlier
          · exact staysOn message isLast
        · exact .inr ⟨heard, middle, action, after, reached, stays,
            closedBy, rfl, .refl⟩
      · have linkedThen :=
          (Linked.run initial (earlier.trans until'.run)).step closedBy.step
        have isOver := closedBy.closed.isOver linkedThen later
        have notPolled : action ≠ .poll client := by
          rintro rfl
          cases step with
          | poll other polled =>
              exact linked.not_polled isOver.detached isOver.connection
                polled
        rw [middle.completes_of_ne notPolled, List.append_nil]
        exact .inr ⟨stayed, first, closing, second, until', stays, closedBy,
          isHeard, later.trans last⟩

end Listening

/--
The messages of an attached client are what `receive` makes of its bytes, up to
the first one whose processing calls `close`, which takes the client out of the
list, or up to its timeout.  From then on the read loop of the client stops at
once, its session has no descriptor, and no step has to do with it.
-/
theorem nothing_after_close
    {condition : World Index Os → Action Os → Prop}
    {heard : List (World Index Os × MqttMessage)}
    (initial : Initial before broker)
    (earlier : Run broker condition before start)
    (attached : Attached start broker client slot)
    (listening : Listening broker condition client start heard after)
    (transportOk : after.trace.TransportOk) :
    (∃ bytes,
      after.trace.fedTo client = start.trace.fedTo client ++ bytes ∧
        after.trace.processedBy client =
            start.trace.processedBy client ++ heard.map Prod.snd ∧
          heard.map Prod.snd =
              (Decoder.feed receive (start.clients client).message bytes).2 ∧
            ∀ stream, bytes <+: stream →
              heard.map Prod.snd <+:
                (Decoder.feed receive (start.clients client).message
                  stream).2) ∧
      ((Attached after broker client slot ∧
          ∀ message ∈ heard, message.1.closes client message.2 = false) ∨
        ∃ stayed first action second,
          Listening broker condition client start stayed first ∧
            (∀ message ∈ stayed,
              message.1.closes client message.2 = false) ∧
              ClosedBy broker client slot first action second ∧
                heard = stayed ++ first.completes client action ∧
                  Run broker condition second after ∧
                    second.poll client = (false, second) ∧
                      ∀ later, Run broker condition second later →
                        Over broker client slot second later) := by
  have linked := Linked.run initial earlier
  have isRemote := attached.remote linked
  have born := linked.member_lt_next attached.member
  constructor
  · obtain ⟨bytes, receives⟩ := Run.receives listening.run isRemote born
    have processed := listening.processedBy isRemote born
    have isHeard :
        heard.map Prod.snd =
          (Decoder.feed receive (start.clients client).message bytes).2 :=
      List.append_cancel_left (processed.symm.trans receives.processedBy)
    refine ⟨bytes, receives.fedTo, processed, isHeard, ?_⟩
    rintro stream ⟨rest, rfl⟩
    rw [isHeard, Decoder.feed_append]
    exact List.prefix_append _ _
  · rcases listening.attachedOrClosed initial earlier attached
      transportOk with
      kept | ⟨stayed, first, action, second, reached, stays, closedBy,
        isHeard, later⟩
    · exact .inl kept
    · have linkedThen :=
        (Linked.run initial (earlier.trans reached.run)).step closedBy.step
      exact .inr ⟨stayed, first, action, second, reached, stays, closedBy,
        isHeard, later, closedBy.closed.poll,
        fun _ later => closedBy.closed.isOver linkedThen later⟩

/-! ## A peer that leaves -/

/-- The messages of a client while actions are performed. -/
def heardAll
    (broker : BrokerId)
    (condition : World Index Os → Action Os → Prop)
    [∀ world action, Decidable (condition world action)]
    (client : ClientId) :
    List (Action Os) → World Index Os → List (World Index Os × MqttMessage)
  | [], _ => []
  | action :: rest, world =>
      if world.allows broker action ∧ condition world action then
        world.completes client action ++
          heardAll broker condition client rest (world.perform broker action)
      else
        []

/-- Performing actions is listening to a client. -/
theorem Listening.performAll
    {condition : World Index Os → Action Os → Prop}
    [∀ world action, Decidable (condition world action)]
    {heard : List (World Index Os × MqttMessage)}
    (earlier : Listening broker condition client start heard world)
    (actions : List (Action Os)) :
    Listening broker condition client start
      (heard ++ heardAll broker condition client actions world)
      (World.performAll broker condition actions world) := by
  induction actions generalizing world heard with
  | nil =>
      rw [heardAll, World.performAll, List.append_nil]
      exact earlier
  | cons action rest inductionHypothesis =>
      rw [heardAll, World.performAll]
      split
      · rename_i permitted
        rw [← List.append_assoc]
        exact inductionHypothesis
          (.next heard action world _ earlier (step_perform permitted.1)
            permitted.2)
      · rw [List.append_nil]
        exact earlier

/-- A peer that logs in, sends PINGREQ, DISCONNECT and PINGREQ again. -/
def leavingPeer : World StringIndexer Script :=
  acceptedPeer
    (Script.connectPacket ++ [0xC0, 0x00, 0xE0, 0x00, 0xC0, 0x00])

/-- All that it sends would be there to be read. -/
def leavingPolls : List (Action Script) :=
  List.replicate 27 (.poll 0)

/-- The DISCONNECT message is the last one, and what follows is never read. -/
theorem nothing_after_close_leavingPeer :
    (heardAll 0 always 0 leavingPolls leavingPeer).map
          (fun message => (message.2.kind?, message.1.closes 0 message.2)) =
        [(some .connect, false), (some .pingReq, false),
          (some .disconnect, true)] ∧
      ∃ closed,
        Over 0 0 0 closed (performAll 0 always leavingPolls leavingPeer) := by
  have initial : Initial _ 0 :=
    Script.initial_setup
      { clock := 0
        connections := [5]
        receipts :=
          Script.receive
            (Script.connectPacket ++ [0xC0, 0x00, 0xE0, 0x00, 0xC0, 0x00])
        sendResults := [] }
  have attached : Attached leavingPeer 0 0 0 := ⟨by decide, by decide⟩
  have listening :=
    (Listening.start : Listening 0 always 0 leavingPeer [] leavingPeer
      ).performAll leavingPolls
  refine ⟨by decide +kernel, ?_⟩
  rcases (nothing_after_close initial (run_performAll 0 always [.accept] _)
    attached listening (by decide +kernel)).2 with
    ⟨still, _⟩ | ⟨_, _, _, closed, _, _, _, _, later, _, ended⟩
  · have notMember :
        0 ∉ (performAll 0 always leavingPolls leavingPeer).members 0 := by
      decide +kernel
    exact absurd still.member notMember
  · exact ⟨closed, ended _ later⟩

end World

end SimpleTlsBroker
