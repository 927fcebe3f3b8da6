import SimpleTlsBroker.Effects
import SimpleTlsBroker.SessionEffects

namespace SimpleTlsBroker

/-!
# The changes that messages make

A message that is processed or published changes the world one client at a
time.  `Change` is one such change and `Changes` a sequence of them.  Which
clients may act, and which of them may be closed, are parameters: a published
message closes nobody, and a step of one client leaves the others alone.
-/

/-- Events that say nothing about sessions. -/
def Event.IsQuiet : Event → Prop
  | .processed _ _ => True
  | .credentials _ _ _ => True
  | .sentTo _ _ => True
  | .callback _ _ _ => True
  | _ => False

/-- The creation of a client for an accepted session. -/
def Event.IsAdmission : Event → Prop
  | .accepted _ _ => True
  | _ => False

/-- The events of a session are about no client. -/
theorem Event.OnSession.client?
    {slot : SlotId}
    {fd : Int}
    {event : Event}
    (onSession : event.OnSession slot fd) :
    event.client? = none := by
  cases event <;> simp_all [OnSession, Event.client?]

/-- The notes of a client are about itself. -/
theorem Event.IsNote.client?
    {client : ClientId}
    {event : Event}
    (isNote : event.IsNote client) :
    event.client? = some client := by
  rcases isNote with ⟨mesg, rfl⟩ | isReply
  · rfl
  · cases event <;> simp_all [IsReply, Event.client?]

/-- Quiet events admit nobody. -/
theorem Event.IsQuiet.not_isAdmission
    {event : Event}
    (isQuiet : event.IsQuiet) :
    ¬ event.IsAdmission := by
  cases event <;> simp_all [IsQuiet, IsAdmission]

/-- Nor do the events of a session. -/
theorem Event.OnSession.not_isAdmission
    {slot : SlotId}
    {fd : Int}
    {event : Event}
    (onSession : event.OnSession slot fd) :
    ¬ event.IsAdmission := by
  cases event <;> simp_all [OnSession, IsAdmission]

/-- What a client notes about its message is quiet. -/
theorem Event.IsNote.isQuiet
    {client : ClientId}
    {event : Event}
    (isNote : event.IsNote client) :
    event.IsQuiet := by
  rcases isNote with ⟨mesg, rfl⟩ | isReply
  · exact trivial
  · cases event <;> simp_all [IsReply, IsQuiet]

open History

namespace World

variable {Index Os : Type}

/-! ## What stays the same -/

/-- Nobody was attached, detached or created. -/
structure LinksKept (before after : World Index Os) : Prop where
  parent : ∀ client,
    (after.clients client).parent = (before.clients client).parent
  client : ∀ client,
    (after.clients client).client = (before.clients client).client
  connection : ∀ client,
    (after.clients client).connection = (before.clients client).connection
  brokers : after.brokers = before.brokers
  next : after.next = before.next

/-- The sessions did not notice anything either. -/
structure Quiet (before after : World Index Os) : Prop
    extends LinksKept before after where
  hd : after.device.hd = before.device.hd
  os : after.device.os = before.device.os
  trace :
    after.trace = before.trace ∨
      ∃ event : Event, event.IsQuiet ∧ after.trace = event :: before.trace

namespace LinksKept

variable {before middle after : World Index Os}

theorem refl (world : World Index Os) : LinksKept world world :=
  ⟨fun _ => rfl, fun _ => rfl, fun _ => rfl, rfl, rfl⟩

theorem trans
    (first : LinksKept before middle)
    (second : LinksKept middle after) :
    LinksKept before after where
  parent client := (second.parent client).trans (first.parent client)
  client client := (second.client client).trans (first.client client)
  connection client :=
    (second.connection client).trans (first.connection client)
  brokers := second.brokers.trans first.brokers
  next := second.next.trans first.next

/-- Logging an event. -/
theorem log
    (world : World Index Os)
    (event : Event) :
    LinksKept world (world.log event) :=
  ⟨fun _ => rfl, fun _ => rfl, fun _ => rfl, rfl, rfl⟩

/-- Work on the device. -/
theorem device
    (world : World Index Os)
    (device : Device Os) :
    LinksKept world { world with device := device } :=
  ⟨fun _ => rfl, fun _ => rfl, fun _ => rfl, rfl, rfl⟩

/-- Work on the topics. -/
theorem indexer
    (world : World Index Os)
    (indexer : Index) :
    LinksKept world { world with indexer := indexer } :=
  ⟨fun _ => rfl, fun _ => rfl, fun _ => rfl, rfl, rfl⟩

/-- Changing the record of a client within `KeepsLinks`. -/
theorem modifyClient
    (world : World Index Os)
    (client : ClientId)
    {change : MqttClient → MqttClient}
    (keeps : KeepsLinks change) :
    LinksKept world (world.modifyClient client change) := by
  constructor
  case parent =>
    intro other
    by_cases same : other = client
    · subst same
      simp [keeps.parent]
    · simp [same]
  case client =>
    intro other
    by_cases same : other = client
    · subst same
      simp [keeps.client]
    · simp [same]
  case connection =>
    intro other
    by_cases same : other = client
    · subst same
      simp [keeps.connection]
    · simp [same]
  case brokers => rfl
  case next => rfl

/-- Setting the deadline. -/
theorem clientAlive
    [Platform Os]
    (world : World Index Os)
    (client : ClientId)
    (moreSeconds : Nat) :
    LinksKept world (world.clientAlive client moreSeconds) := by
  obtain ⟨change, keeps, result⟩ := clientAlive_eq world client moreSeconds
  rw [result]
  exact .modifyClient world client keeps.toKeepsLinks

end LinksKept

/-- Changing the record of a client is quiet. -/
theorem Quiet.modifyClient
    (world : World Index Os)
    (client : ClientId)
    {change : MqttClient → MqttClient}
    (keeps : KeepsLinks change) :
    Quiet world (world.modifyClient client change) :=
  { LinksKept.modifyClient world client keeps with
    hd := rfl
    os := rfl
    trace := .inl rfl }

/-- A quiet event is quiet. -/
theorem Quiet.log
    (world : World Index Os)
    {event : Event}
    (isQuiet : event.IsQuiet) :
    Quiet world (world.log event) :=
  { LinksKept.log world event with
    hd := rfl
    os := rfl
    trace := .inr ⟨event, isQuiet, rfl⟩ }

/-- Marking a client as connected keeps its links. -/
theorem keepsLinks_connect :
    KeepsLinks fun record => { record with mqttConnected := true } :=
  ⟨fun _ => rfl, fun _ => rfl, fun _ => rfl⟩

/-- The client is attached to a broker, or has no session to disturb. -/
def Active
    (world : World Index Os)
    (client : ClientId) : Prop :=
  (world.clients client).parent ≠ none ∨
    (world.clients client).connection = none

/-- An active client stays active as long as its links are kept. -/
theorem Active.kept
    {before after : World Index Os}
    {client : ClientId}
    (active : before.Active client)
    (kept : LinksKept before after) :
    after.Active client := by
  unfold Active
  rw [kept.parent, kept.connection]
  exact active

variable [Platform Os]

/-! ## One change -/

/-- One change made by the client `actor`. -/
inductive Change
    (closable : World Index Os → ClientId → Prop)
    (actor : ClientId)
    (world : World Index Os) : World Index Os → Prop where
  | note
      (event : Event)
      (isNote : event.IsNote actor) :
      Change closable actor world (world.log event)
  | record
      (change : MqttClient → MqttClient)
      (keeps : KeepsLogin change) :
      Change closable actor world (world.modifyClient actor change)
  | topics (indexer : Index) :
      Change closable actor world { world with indexer := indexer }
  | callback
      (topic : Topic)
      (payload : List Byte) :
      Change closable actor world
        (world.log (.callback actor topic payload))
  | login
      (mesg : MqttMessage)
      (parent : BrokerId)
      (user password : Option Bool)
      (isConnect : mesg.kind? = some .connect)
      (attached : (world.clients actor).parent = some parent)
      (pass : CredentialsPass (world.brokers parent) user password)
      (first : world.trace.head? = some (.processed actor mesg)) :
      Change closable actor world
        ((world.log (.credentials actor user password)).modifyClient actor
          fun record => { record with mqttConnected := true })
  | connAck
      (mesg : MqttMessage)
      (isConnAck : mesg.kind? = some .connAck)
      (processed : .processed actor mesg ∈ world.trace) :
      Change closable actor world
        (world.modifyClient actor
          fun record => { record with mqttConnected := true })
  | write
      (bytes : List Byte)
      (active : world.Active actor) :
      Change closable actor world (world.writeClient actor bytes)
  | close (allowed : closable world actor) :
      Change closable actor world (world.close actor)

variable {closable : World Index Os → ClientId → Prop}
variable {actor : ClientId}
variable {before after : World Index Os}

/-- A change is quiet, a write or a closing. -/
theorem Change.quiet_or
    (change : Change closable actor before after) :
    Quiet before after ∨
      (∃ bytes, before.Active actor ∧
        after = before.writeClient actor bytes) ∨
      closable before actor ∧ after = before.close actor := by
  cases change with
  | note event isNote =>
      exact .inl (.log before isNote.isQuiet)
  | record change keeps =>
      exact .inl (.modifyClient before actor keeps.toKeepsLinks)
  | topics indexer =>
      exact .inl { LinksKept.refl before with
        hd := rfl, os := rfl, trace := .inl rfl }
  | callback topic payload =>
      exact .inl (.log before trivial)
  | login _ parent user password =>
      refine .inl { LinksKept.modifyClient _ actor keepsLinks_connect with
        hd := rfl
        os := rfl
        trace := .inr ⟨.credentials actor user password, trivial, rfl⟩ }
  | connAck =>
      exact .inl (.modifyClient before actor keepsLinks_connect)
  | write bytes active =>
      exact .inr (.inl ⟨bytes, active, rfl⟩)
  | close allowed =>
      exact .inr (.inr ⟨allowed, rfl⟩)

/-! ## Closing -/

/-- `removeClient` leaves all client records as they are. -/
@[simp] theorem clients_dropSession
    (world : World Index Os)
    (client : ClientId) :
    (world.dropSession client).clients = world.clients := by
  unfold dropSession
  split <;> rfl

@[simp] theorem brokers_dropSession
    (world : World Index Os)
    (client : ClientId) :
    (world.dropSession client).brokers = world.brokers := by
  unfold dropSession
  split <;> rfl

@[simp] theorem next_dropSession
    (world : World Index Os)
    (client : ClientId) :
    (world.dropSession client).next = world.next := by
  unfold dropSession
  split <;> rfl

/-- A closed client, as a record. -/
theorem clients_close_self
    (world : World Index Os)
    (client : ClientId) :
    (world.close client).clients client =
      { world.clients client with mqttConnected := false, parent := none } := by
  unfold close
  simp only [clients_modifyClient_self, clients_log]
  split
  · simp [removeClient]
  · rename_i detached
    simp only [clients_modifyClient_self, clients_log]
    rw [← detached]

/-- Closing one client leaves the record of another as it is. -/
@[simp] theorem clients_close_other
    (world : World Index Os)
    {client other : ClientId}
    (distinct : other ≠ client) :
    (world.close client).clients other = world.clients other := by
  unfold close
  simp only [clients_modifyClient_self, clients_log]
  split <;> simp [removeClient, distinct]

@[simp] theorem next_close
    (world : World Index Os)
    (client : ClientId) :
    (world.close client).next = world.next := by
  unfold close
  simp only [clients_modifyClient_self, clients_log]
  split <;> simp [removeClient]

/-- Closing keeps which session a client holds. -/
theorem connection_close
    (world : World Index Os)
    (client other : ClientId) :
    ((world.close client).clients other).connection =
      (world.clients other).connection := by
  by_cases same : other = client
  · subst same
    simp [clients_close_self]
  · simp [same]

/-- Closing keeps whether a client is a networked one. -/
theorem client_close
    (world : World Index Os)
    (client other : ClientId) :
    ((world.close client).clients other).client =
      (world.clients other).client := by
  by_cases same : other = client
  · subst same
    simp [clients_close_self]
  · simp [same]

/-- Closing takes a client off one list and changes nothing else there. -/
theorem brokers_close
    (world : World Index Os)
    (client : ClientId)
    (broker : BrokerId) :
    (world.close client).brokers broker =
      if (world.clients client).parent = some broker then
        { world.brokers broker with
          clients := (world.members broker).erase client }
      else
        world.brokers broker := by
  unfold close
  simp only [clients_modifyClient_self, clients_log]
  split
  · rename_i parent attached
    by_cases same : broker = parent
    · subst same
      simp [removeClient, attached, members]
    · have other : (world.clients client).parent ≠ some broker := by
        rw [attached]
        simpa using fun equal => same equal.symm
      rw [if_neg other]
      simp [removeClient, same]
  · rename_i detached
    simp [detached]

/-- The fields of a broker other than its client list survive a closing. -/
theorem upstream_close
    (world : World Index Os)
    (client : ClientId)
    (broker : BrokerId) :
    ((world.close client).brokers broker).broker =
      (world.brokers broker).broker := by
  rw [brokers_close]
  split <;> rfl

/-- The session a client would drop when it is closed. -/
def session?
    (world : World Index Os)
    (client : ClientId) : Option SlotId :=
  let record := world.clients client
  if record.parent ≠ none ∧ record.client = true then
    record.connection
  else
    none

/-- The client is attached and holds a slot. -/
def Holds
    (world : World Index Os)
    (client : ClientId)
    (slot : SlotId) : Prop :=
  (world.clients client).parent ≠ none ∧
    (world.clients client).connection = some slot

omit [Platform Os] in
/-- A client drops a session that it holds. -/
theorem holds_of_session?
    {world : World Index Os}
    {client : ClientId}
    {slot : SlotId}
    (session : world.session? client = some slot) :
    world.Holds client slot := by
  simp only [session?] at session
  split at session
  · rename_i attached
    exact ⟨attached.1, session⟩
  · simp at session

/-- After a closing the other clients hold what they held before. -/
theorem holds_of_close
    {world : World Index Os}
    {actor client : ClientId}
    {slot : SlotId}
    (holds : (world.close actor).Holds client slot) :
    client ≠ actor ∧ world.Holds client slot := by
  have distinct : client ≠ actor := by
    rintro rfl
    exact holds.1 (by simp [clients_close_self])
  unfold Holds at holds
  rw [clients_close_other world distinct] at holds
  exact ⟨distinct, holds⟩

/-- Closing touches the device for the sake of the own session only. -/
theorem device_close
    (world : World Index Os)
    (client : ClientId) :
    (world.close client).device =
      match world.session? client with
      | some slot =>
          ((world.device.log (.closed client)).log
            (.dropped client slot (world.device.fd slot))).httpdSessDelete
              slot
      | none => world.device.log (.closed client) := by
  unfold close
  simp only [clients_modifyClient_self, clients_log]
  cases attached : (world.clients client).parent with
  | none =>
      simp [session?, attached]
      rfl
  | some parent =>
      cases remote : (world.clients client).client with
      | false =>
          simp [session?, attached, remote, removeClient, dropSession]
          rfl
      | true =>
          cases connected : (world.clients client).connection with
          | none =>
              simp [session?, attached, remote, connected, removeClient,
                dropSession]
              rfl
          | some slot =>
              simp [session?, attached, remote, connected, removeClient,
                dropSession]
              rfl

/-- A write without session does nothing. -/
theorem writeClient_unconnected
    {world : World Index Os}
    {client : ClientId}
    (unconnected : (world.clients client).connection = none)
    (bytes : List Byte) :
    world.writeClient client bytes = world := by
  simp [writeClient, unconnected, Device.writeData]

/-- A change adds events to the trace, and no new clients. -/
theorem Change.admitsNobody
    (change : Change closable actor before after) :
    Grown (fun event => ¬ event.IsAdmission) before.trace after.trace := by
  rcases change.quiet_or with quiet | ⟨bytes, _, rfl⟩ | ⟨_, rfl⟩
  · rcases quiet.trace with same | ⟨event, isQuiet, logged⟩
    · exact same ▸ .refl _
    · exact logged ▸ .single isQuiet.not_isAdmission
  · cases connected : (before.clients actor).connection with
    | none =>
        rw [writeClient_unconnected connected]
        exact .refl _
    | some slot =>
        simp only [trace, writeClient, connected]
        exact (before.device.trace_writeData slot bytes).weaken
          fun _ onSession => onSession.not_isAdmission
  · simp only [World.trace, device_close]
    split
    · refine ((Grown.refl _).cons id |>.cons id).trans
        ((Device.trace_httpdSessDelete _ _).weaken ?_)
      rintro event rfl
      exact id
    · exact .single id

/-- The events of a change are about no other client than the one that acts. -/
theorem Change.sparesOthers
    {client : ClientId}
    (change : Change closable actor before after)
    (distinct : client ≠ actor) :
    Grown (fun event => event.client? ≠ some client)
      before.trace after.trace := by
  have aboutActor {event : Event} (about : event.client? = some actor) :
      event.client? ≠ some client := by
    rw [about]
    simpa using distinct.symm
  cases change with
  | note event isNote => exact .single (aboutActor isNote.client?)
  | record change keeps => exact .refl _
  | topics indexer => exact .refl _
  | callback topic payload => exact .single (aboutActor rfl)
  | login => exact .single (aboutActor rfl)
  | connAck => exact .refl _
  | write bytes active =>
      cases connected : (before.clients actor).connection with
      | none =>
          rw [writeClient_unconnected connected]
          exact .refl _
      | some slot =>
          simp only [trace, writeClient, connected]
          refine (before.device.trace_writeData slot bytes).weaken ?_
          intro event onSession
          simp [onSession.client?]
  | close allowed =>
      simp only [World.trace, device_close]
      split
      · rename_i slot _
        have noted :
            Grown (fun event => event.client? ≠ some client) before.trace
              (.dropped actor slot (before.device.fd slot) ::
                .closed actor :: before.trace) :=
          .cons (aboutActor rfl) (.single (aboutActor rfl))
        refine noted.trans
          ((Device.trace_httpdSessDelete _ slot).weaken ?_)
        rintro event rfl
        simp [Event.client?]
      · exact .single (aboutActor rfl)

/-- A change adds events to the trace and removes none. -/
theorem Change.trace
    (change : Change closable actor before after) :
    Grown (fun _ => True) before.trace after.trace :=
  change.admitsNobody.weaken fun _ _ => trivial

/-! ## Sequences of changes -/

/-- Changes made by some clients, of which some may be closed. -/
abbrev Changes
    (closable : World Index Os → ClientId → Prop)
    (actors : ClientId → Prop) :
    World Index Os → World Index Os → Prop :=
  Relation.ReflTransGen fun before after =>
    ∃ actor, actors actor ∧ Change closable actor before after

/-- Nobody may be closed. -/
def never (_ : World Index Os) (_ : ClientId) : Prop :=
  False

namespace Changes

variable {actors : ClientId → Prop}

/-- One more change. -/
theorem snoc
    {middle : World Index Os}
    (earlier : Changes closable actors before middle)
    (acts : actors actor)
    (change : Change closable actor middle after) :
    Changes closable actors before after :=
  earlier.tail ⟨actor, acts, change⟩

/-- More clients may act and be closed. -/
theorem weaken
    {closable' : World Index Os → ClientId → Prop}
    {actors' : ClientId → Prop}
    (changes : Changes closable actors before after)
    (closes : ∀ world client, closable world client → closable' world client)
    (acts : ∀ client, actors client → actors' client) :
    Changes closable' actors' before after := by
  refine Relation.ReflTransGen.mono ?_ _ _ changes
  rintro first second ⟨actor, isActor, change⟩
  refine ⟨actor, acts actor isActor, ?_⟩
  cases change with
  | note event isNote => exact .note event isNote
  | record change keeps => exact .record change keeps
  | topics indexer => exact .topics indexer
  | callback topic payload => exact .callback topic payload
  | login mesg parent user password isConnect attached pass first =>
      exact .login mesg parent user password isConnect attached pass first
  | connAck mesg isConnAck processed =>
      exact .connAck mesg isConnAck processed
  | write bytes active => exact .write bytes active
  | close allowed => exact .close (closes _ _ allowed)

/-- Changes that close nobody keep all links. -/
theorem kept
    (changes : Changes never actors before after) :
    LinksKept before after := by
  induction changes with
  | refl => exact .refl before
  | tail _ last inductionHypothesis =>
      obtain ⟨actor, _, change⟩ := last
      refine inductionHypothesis.trans ?_
      rcases change.quiet_or with quiet | ⟨bytes, _, rfl⟩ | ⟨closed, _⟩
      · exact quiet.toLinksKept
      · exact .device _ _
      · exact closed.elim

/-- A client that does not act keeps its record. -/
theorem other
    {client : ClientId}
    (changes : Changes closable actors before after)
    (idle : ¬ actors client) :
    after.clients client = before.clients client := by
  induction changes with
  | refl => rfl
  | tail _ last inductionHypothesis =>
      obtain ⟨actor, acts, change⟩ := last
      have distinct : client ≠ actor := fun same => idle (same ▸ acts)
      rw [← inductionHypothesis]
      cases change <;> simp [distinct, writeClient]

/-- Nobody changes the session it holds. -/
theorem connection
    (changes : Changes closable actors before after)
    (client : ClientId) :
    (after.clients client).connection =
      (before.clients client).connection := by
  induction changes with
  | refl => rfl
  | tail _ last inductionHypothesis =>
      obtain ⟨actor, _, change⟩ := last
      rw [← inductionHypothesis]
      rcases change.quiet_or with quiet | ⟨bytes, _, rfl⟩ | ⟨_, rfl⟩
      · exact quiet.connection client
      · rfl
      · exact connection_close _ actor client

/-- Brokers keep their upstream link. -/
theorem upstream
    (changes : Changes closable actors before after)
    (broker : BrokerId) :
    (after.brokers broker).broker = (before.brokers broker).broker := by
  induction changes with
  | refl => rfl
  | tail _ last inductionHypothesis =>
      obtain ⟨actor, _, change⟩ := last
      rw [← inductionHypothesis]
      rcases change.quiet_or with quiet | ⟨bytes, _, rfl⟩ | ⟨_, rfl⟩
      · rw [quiet.brokers]
      · rfl
      · exact upstream_close _ actor broker

/-- The events are about no client that does not act. -/
theorem sparesOthers
    {client : ClientId}
    (changes : Changes closable actors before after)
    (idle : ¬ actors client) :
    Grown (fun event => event.client? ≠ some client)
      before.trace after.trace := by
  induction changes with
  | refl => exact .refl _
  | tail _ last inductionHypothesis =>
      obtain ⟨actor, acts, change⟩ := last
      have distinct : client ≠ actor := fun same => idle (same ▸ acts)
      exact inductionHypothesis.trans (change.sparesOthers distinct)

/-- Changes only add to the trace. -/
theorem trace
    (changes : Changes closable actors before after) :
    Grown (fun _ => True) before.trace after.trace := by
  induction changes with
  | refl => exact .refl _
  | tail _ last inductionHypothesis =>
      obtain ⟨actor, _, change⟩ := last
      exact inductionHypothesis.trans change.trace

end Changes

/-! ## Processing and publishing -/

/-- An activity is a sequence of changes that closes nobody. -/
theorem Activity.changes
    {forward :
      BrokerId → ClientId → Topic → MqttMessage →
        World Index Os → World Index Os}
    {client : ClientId}
    {mesg : MqttMessage}
    {start world : World Index Os}
    {actors : ClientId → Prop}
    (activity : Activity forward client mesg start world)
    (acts : actors client)
    (active : start.Active client)
    (processed : start.trace.head? = some (.processed client mesg))
    (forwarded :
      ∀ parent topic middle,
        mesg.kind? = some .publish →
        (start.clients client).parent = some parent →
        (start.clients client).client = true →
        LinksKept start middle →
        Changes never actors middle
          (forward parent client topic mesg middle)) :
    Changes never actors start world := by
  have stillProcessed {middle : World Index Os}
      (changes : Changes never actors start middle) :
      .processed client mesg ∈ middle.trace :=
    changes.trace.mem (List.mem_of_head? processed)
  induction activity with
  | start => exact .refl
  | note event isReply _ inductionHypothesis =>
      exact inductionHypothesis.snoc acts (.note event (.inr isReply))
  | record change keeps _ inductionHypothesis =>
      exact inductionHypothesis.snoc acts
        (.record change keeps.toKeepsLogin)
  | topics indexer _ inductionHypothesis =>
      exact inductionHypothesis.snoc acts (.topics indexer)
  | write bytes _ inductionHypothesis =>
      exact inductionHypothesis.snoc acts
        (.write bytes (active.kept inductionHypothesis.kept))
  | login parent user password isConnect attached pass first _
      inductionHypothesis =>
      have kept := inductionHypothesis.kept
      refine inductionHypothesis.snoc acts
        (.login mesg parent user password isConnect ?_ ?_ ?_)
      · rw [kept.parent, attached]
      · rw [kept.brokers]
        exact pass
      · rw [first, processed]
  | connAck isConnAck _ inductionHypothesis =>
      exact inductionHypothesis.snoc acts
        (.connAck mesg isConnAck (stillProcessed inductionHypothesis))
  | forward parent topic isPublish attached isRemote _ _
      inductionHypothesis =>
      exact inductionHypothesis.trans
        (forwarded parent topic _ isPublish attached isRemote
          inductionHypothesis.kept)
  | callback topic payload _ _ _ inductionHypothesis =>
      exact inductionHypothesis.snoc acts (.callback topic payload)

/-- Setting the deadline is a change of the record. -/
theorem Changes.clientAlive
    {actors : ClientId → Prop}
    {client : ClientId}
    (changes : Changes closable actors before after)
    (acts : actors client)
    (moreSeconds : Nat) :
    Changes closable actors before
      (after.clientAlive client moreSeconds) := by
  obtain ⟨change, keeps, result⟩ :=
    clientAlive_eq after client moreSeconds
  rw [result]
  exact changes.snoc acts (.record change keeps.toKeepsLogin)

variable [Indexer Index]

/-- `processMessage` is a sequence of changes; at most its client is closed. -/
theorem processMessageWith_changes
    {forward :
      BrokerId → ClientId → Topic → MqttMessage →
        World Index Os → World Index Os}
    {world : World Index Os}
    {client : ClientId}
    {mesg : MqttMessage}
    {actors : ClientId → Prop}
    (acts : actors client)
    (active : world.Active client)
    (forwarded :
      ∀ parent topic middle,
        mesg.kind? = some .publish →
        (world.clients client).parent = some parent →
        (world.clients client).client = true →
        LinksKept world middle →
        Changes never actors middle
          (forward parent client topic mesg middle))
    (mayClose :
      ∀ middle,
        LinksKept world middle →
        (mesg.kind? = some .publish →
          (world.clients client).client = true) →
        closable middle client) :
    Changes closable actors world
      (world.processMessageWith forward client mesg) := by
  obtain ⟨active', activity, outcome⟩ :=
    processMessageWith_outcome forward world client mesg
  have logged : LinksKept world (world.log (.processed client mesg)) :=
    .log world _
  have changes :
      Changes never actors (world.log (.processed client mesg)) active' :=
    activity.changes acts (active.kept logged) rfl
      fun parent topic middle isPublish attached isRemote kept =>
        forwarded parent topic middle isPublish attached isRemote
          (logged.trans kept)
  have before :
      Changes closable actors world active' :=
    (Relation.ReflTransGen.single
      ⟨client, acts, .note (.processed client mesg) (.inl ⟨mesg, rfl⟩)⟩).trans
      (changes.weaken (fun _ _ impossible => impossible.elim)
        fun _ acts => acts)
  have kept : LinksKept world active' := logged.trans changes.kept
  generalize world.processMessageWith forward client mesg = after
    at outcome ⊢
  cases outcome with
  | rejected notAllowed =>
      exact before.snoc acts
        (.close (mayClose _ kept fun isPublish =>
          (notAllowed isPublish).2))
  | disconnected isDisconnect moreSeconds =>
      refine (before.snoc acts (.close (mayClose _ kept ?_))).clientAlive
        acts moreSeconds
      intro isPublish
      rw [isDisconnect] at isPublish
      contradiction
  | taken =>
      exact before.clientAlive acts _

omit [Indexer Index] in
/-- Sending a message to an active client. -/
theorem sendTo_changes
    {world : World Index Os}
    {client : ClientId}
    (msg : MqttMessage)
    (active : world.Active client) :
    Changes closable (fun other => other = client) world
      (world.sendTo msg client).2 := by
  unfold sendTo
  split
  · have noted :
        Changes closable (fun other => other = client) world
          (world.log (.sentTo client msg.encoded.buffer)) :=
      .single ⟨client, rfl, .note _ (.inr rfl)⟩
    exact noted.snoc rfl (.write _ active)
  · exact .refl

/-- A complete message is not encoded again. -/
theorem encoded_complete
    {msg : MqttMessage}
    (complete : msg.state = .complete) :
    msg.encoded = msg := by
  simp [MqttMessage.encoded, complete]

omit [Indexer Index] in
/-- Sending a complete message leaves it as it is. -/
theorem sendTo_complete
    {world : World Index Os}
    {client : ClientId}
    {msg : MqttMessage}
    (complete : msg.state = .complete) :
    (world.sendTo msg client).1.2 = msg := by
  unfold sendTo
  rw [encoded_complete complete]
  split <;> rfl

/-- A message with a type is complete. -/
theorem complete_of_publish
    {mesg : MqttMessage}
    (isPublish : mesg.kind? = some .publish) :
    mesg.state = .complete := by
  by_contra incomplete
  have unknown : mesg.kind? = some .unknown := by
    simp [MqttMessage.kind?, MqttMessage.type, incomplete]
    decide
  rw [unknown] at isPublish
  contradiction

/-- Delivering a complete message leaves it as it is and changes one client. -/
theorem publishIfSubscribed_changes
    (world : World Index Os)
    (client : ClientId)
    (topic : Topic)
    {msg : MqttMessage}
    (complete : msg.state = .complete)
    (active : world.Active client)
    (mayClose :
      msg.kind? ≠ some .publish →
        ∀ middle : World Index Os,
          (middle.clients client).client = false →
          closable middle client) :
    (world.publishIfSubscribed client topic msg).1.2 = msg ∧
      Changes closable (fun other => other = client) world
        (world.publishIfSubscribed client topic msg).2 := by
  unfold publishIfSubscribed
  split
  · split
    · exact ⟨sendTo_complete complete, sendTo_changes msg active⟩
    · rename_i notRemote
      have isLocal : (world.clients client).client = false := by
        simpa using notRemote
      refine ⟨rfl, processMessageWith_changes rfl active ?_ ?_⟩
      · intro parent topic middle _ _ isRemote
        rw [isLocal] at isRemote
        contradiction
      · intro middle kept notAllowed
        refine mayClose ?_ middle ?_
        · intro isPublish
          rw [isLocal] at notAllowed
          exact absurd (notAllowed isPublish) Bool.false_ne_true
        · rw [kept.client, isLocal]
  · exact ⟨rfl, .refl⟩

/-- One round of the loop of `publish`. -/
theorem publishStep_changes
    (broker : BrokerId)
    (source : ClientId)
    (topic : Topic)
    {msg : MqttMessage}
    (complete : msg.state = .complete)
    (mayClose :
      msg.kind? ≠ some .publish →
        ∀ (middle : World Index Os) client,
          (middle.clients client).client = false →
          closable middle client)
    {world : World Index Os}
    (retval : MqttError)
    {client : ClientId}
    (active : world.Active client)
    (unconnected :
      ∀ upstream, (world.brokers broker).broker = some upstream →
        (world.clients upstream).connection = none) :
    (publishStep broker source topic ((retval, msg), world) client).1.2 =
        msg ∧
      Changes closable
        (fun other =>
          other = client ∨ (world.brokers broker).broker = some other)
        world
        (publishStep broker source topic
          ((retval, msg), world) client).2 := by
  have delivered (target : ClientId) (active : world.Active target) :=
    publishIfSubscribed_changes world target topic complete active
      fun other middle => mayClose other middle target
  obtain ⟨sameMessage, changes⟩ := delivered client active
  unfold publishStep
  dsimp only
  cases isUpstream : (world.brokers broker).broker with
  | none =>
      exact ⟨sameMessage, changes.weaken (fun _ _ => id) fun _ => .inl⟩
  | some upstream =>
      dsimp only
      split
      · obtain ⟨sameMessage, changes⟩ :=
          delivered upstream (.inr (unconnected upstream isUpstream))
        refine ⟨sameMessage, changes.weaken (fun _ _ => id) ?_⟩
        rintro other rfl
        exact .inr rfl
      · exact ⟨sameMessage, changes.weaken (fun _ _ => id) fun _ => .inl⟩

/-- The loop of `publish` over a list of clients. -/
theorem publishLoop_changes
    (broker : BrokerId)
    (source : ClientId)
    (topic : Topic)
    {msg : MqttMessage}
    (complete : msg.state = .complete)
    (mayClose :
      msg.kind? ≠ some .publish →
        ∀ (middle : World Index Os) client,
          (middle.clients client).client = false →
          closable middle client)
    {clients : List ClientId}
    (nodup : clients.Nodup)
    {world : World Index Os}
    (retval : MqttError)
    (active : ∀ client ∈ clients, world.Active client)
    (unconnected :
      ∀ upstream, (world.brokers broker).broker = some upstream →
        (world.clients upstream).connection = none) :
    Changes closable
      (fun other =>
        other ∈ clients ∨ (world.brokers broker).broker = some other)
      world
      (clients.foldl (publishStep broker source topic)
        ((retval, msg), world)).2 := by
  induction clients generalizing retval world with
  | nil => exact .refl
  | cons head rest inductionHypothesis =>
      obtain ⟨notInRest, restNodup⟩ := List.nodup_cons.mp nodup
      obtain ⟨sameMessage, changes⟩ :=
        publishStep_changes broker source topic complete mayClose retval
          (active head List.mem_cons_self) unconnected
      rw [List.foldl_cons]
      generalize
        publishStep broker source topic ((retval, msg), world) head = state
        at sameMessage changes ⊢
      obtain ⟨⟨retval', msg'⟩, middle⟩ := state
      dsimp only at sameMessage changes
      subst sameMessage
      have first :
          Changes closable
            (fun other =>
              other ∈ head :: rest ∨
                (world.brokers broker).broker = some other)
            world middle := by
        refine changes.weaken (fun _ _ => id) ?_
        rintro other (rfl | isUpstream)
        · exact .inl List.mem_cons_self
        · exact .inr isUpstream
      have others :
          ∀ other,
            other ∈ rest ∨ (middle.brokers broker).broker = some other →
              other ∈ head :: rest ∨
                (world.brokers broker).broker = some other := by
        rintro other (inRest | isUpstream)
        · exact .inl (List.mem_cons_of_mem head inRest)
        · exact .inr ((changes.upstream broker).symm.trans isUpstream)
      refine first.trans
        ((inductionHypothesis restNodup retval' ?_ ?_).weaken
          (fun _ _ => id) others)
      · -- Nobody in the rest of the list has been closed by this round.
        intro client inRest
        have activeBefore :=
          active client (List.mem_cons_of_mem head inRest)
        by_cases isUpstream :
            (world.brokers broker).broker = some client
        · right
          rw [changes.connection]
          exact unconnected client isUpstream
        · have idle : ¬ (client = head ∨
              (world.brokers broker).broker = some client) := by
            rintro (rfl | upstream)
            · exact notInRest inRest
            · exact isUpstream upstream
          unfold Active
          rw [changes.other idle]
          exact activeBefore
      · intro upstream isUpstream
        rw [changes.upstream] at isUpstream
        rw [changes.connection]
        exact unconnected upstream isUpstream

/-- A broker whose members can be delivered to. -/
structure Deliverable
    (broker : BrokerId)
    (world : World Index Os) : Prop where
  nodup : (world.members broker).Nodup
  active : ∀ client ∈ world.members broker, world.Active client
  unconnected :
    ∀ upstream, (world.brokers broker).broker = some upstream →
      (world.clients upstream).connection = none

omit [Platform Os] [Indexer Index] in
/-- Keeping the links keeps a broker deliverable. -/
theorem Deliverable.kept
    {before after : World Index Os}
    {broker : BrokerId}
    (deliverable : Deliverable broker before)
    (kept : LinksKept before after) :
    Deliverable broker after where
  nodup := by
    rw [members, kept.brokers]
    exact deliverable.nodup
  active client member := by
    rw [members, kept.brokers] at member
    exact (deliverable.active client member).kept kept
  unconnected upstream isUpstream := by
    rw [kept.brokers] at isUpstream
    rw [kept.connection]
    exact deliverable.unconnected upstream isUpstream

/-- `publish` is a sequence of changes of the clients it serves. -/
theorem publish_changes
    {world : World Index Os}
    {broker : BrokerId}
    (deliverable : Deliverable broker world)
    (source : ClientId)
    (topic : Topic)
    {msg : MqttMessage}
    (complete : msg.state = .complete)
    (mayClose :
      msg.kind? ≠ some .publish →
        ∀ (middle : World Index Os) client,
          (middle.clients client).client = false →
          closable middle client) :
    Changes closable
      (fun other =>
        other ∈ world.members broker ∨
          (world.brokers broker).broker = some other)
      world (world.publish broker source topic msg).2 :=
  publishLoop_changes broker source topic complete mayClose
    deliverable.nodup .ok deliverable.active deliverable.unconnected

/-- `processMessage` is a sequence of changes of the client and of those served. -/
theorem processMessage_changes
    {world : World Index Os}
    {client : ClientId}
    {actors : ClientId → Prop}
    (mesg : MqttMessage)
    (acts : actors client)
    (served :
      ∀ broker, (world.clients client).parent = some broker →
        ∀ other,
          other ∈ world.members broker ∨
              (world.brokers broker).broker = some other →
            actors other)
    (active : world.Active client)
    (deliverable :
      ∀ broker, (world.clients client).parent = some broker →
        Deliverable broker world)
    (mayClose :
      ∀ middle,
        LinksKept world middle →
        (mesg.kind? = some .publish →
          (world.clients client).client = true) →
        closable middle client) :
    Changes closable actors world (world.processMessage client mesg) := by
  refine processMessageWith_changes acts active ?_ mayClose
  intro parent topic middle isPublish attached _ kept
  have published :
      Changes never _ middle (middle.publish parent client topic mesg).2 :=
    publish_changes ((deliverable parent attached).kept kept) client topic
      (complete_of_publish isPublish) fun other => absurd isPublish other
  refine published.weaken (fun _ _ => id) ?_
  rw [members, kept.brokers]
  exact served parent attached

/-- What every delivery keeps, `publish` keeps. -/
theorem publish_relates
    {related : World Index Os → World Index Os → Prop}
    {world : World Index Os}
    (holds : World Index Os → Prop)
    (refl : ∀ world, related world world)
    (trans :
      ∀ {first second third},
        related first second → related second third → related first third)
    (keeps :
      ∀ {first second}, related first second → holds first → holds second)
    (broker : BrokerId)
    (source : ClientId)
    (topic : Topic)
    (msg : MqttMessage)
    (delivers :
      ∀ (world : World Index Os) target msg,
        holds world →
        related world (world.publishIfSubscribed target topic msg).2)
    (start : holds world) :
    related world (world.publish broker source topic msg).2 := by
  have step (state : (MqttError × MqttMessage) × World Index Os)
      (start : holds state.2)
      (target : ClientId) :
      related state.2 (publishStep broker source topic state target).2 := by
    unfold publishStep
    dsimp only
    split
    · split <;> exact delivers _ _ _ start
    · exact delivers _ _ _ start
  have loop (targets : List ClientId)
      (state : (MqttError × MqttMessage) × World Index Os)
      (start : holds state.2) :
      related state.2
        (targets.foldl (publishStep broker source topic) state).2 := by
    induction targets generalizing state with
    | nil => exact refl state.2
    | cons target rest inductionHypothesis =>
        have first := step state start target
        exact trans first (inductionHypothesis _ (keeps first start))
  exact loop (world.members broker) ((.ok, msg), world) start

/-! ## Subscribing -/

/-- What insertions and sendings keep, `MqttClient::subscribe` keeps. -/
theorem clientSubscribe_relates
    {related : World Index Os → World Index Os → Prop}
    {fuel : Nat}
    {world after : World Index Os}
    {client : ClientId}
    {topic : Topic}
    {qos : Byte}
    {ret : MqttError}
    (trans :
      ∀ {first second third},
        related first second → related second third → related first third)
    (inserts :
      ∀ (world : World Index Os) client,
        related world (world.insertSubscription client topic))
    (sends :
      ∀ (world : World Index Os) client type,
        related world (world.sendTopic client topic type qos).2)
    (returned :
      clientSubscribe fuel world client topic qos = some (ret, after)) :
    related world after := by
  induction fuel generalizing world client with
  | zero => simp [clientSubscribe] at returned
  | succ fuel inductionHypothesis =>
      have inserted := inserts world client
      rw [clientSubscribe] at returned
      split at returned
      · obtain ⟨_, rfl⟩ := Prod.mk.inj (Option.some.inj returned)
        exact trans inserted (sends _ client _)
      · split at returned
        · split at returned
          · exact trans inserted (inductionHypothesis returned)
          · obtain ⟨_, rfl⟩ := Prod.mk.inj (Option.some.inj returned)
            exact inserted
        · obtain ⟨_, rfl⟩ := Prod.mk.inj (Option.some.inj returned)
          exact inserted

/-- What erasures and sendings keep, `MqttClient::unsubscribe` keeps. -/
theorem clientUnsubscribe_relates
    {related : World Index Os → World Index Os → Prop}
    {world : World Index Os}
    {client : ClientId}
    {topic : Topic}
    (refl : ∀ world, related world world)
    (trans :
      ∀ {first second third},
        related first second → related second third → related first third)
    (erases :
      related world
        ((world.modifyClient client fun record =>
          { record with
            subscriptions := record.subscriptions.erase topic
          }).releaseTopic topic))
    (sends :
      ∀ (world : World Index Os) type,
        related world (world.sendTopic client topic type 0).2) :
    related world (world.clientUnsubscribe client topic).2 := by
  unfold clientUnsubscribe
  split
  · dsimp only
    split
    · exact trans erases (sends _ _)
    · exact erases
  · exact refl world

end World

end SimpleTlsBroker
