import SimpleTlsBroker.Changes
import SimpleTlsBroker.Framing

namespace SimpleTlsBroker

/-!
# Reception

The message a client is receiving changes with the bytes of its own connection
only.  Whatever else happens to the world in between, the client hands on what
`receive` makes of these bytes.
-/

open History

/-- A client took a byte in, or handed a message on. -/
def Event.IsReception (client : ClientId) : Event → Prop
  | .fed other _ _ => other = client
  | .processed other _ => other = client
  | _ => False

namespace Trace

@[simp] theorem fedTo_cons
    (client : ClientId)
    (event : Event)
    (earlier : Trace) :
    fedTo client (event :: earlier) =
      fedTo client earlier ++ (event.fedTo? client).toList := by
  rw [fedTo, List.filterMap_cons]
  cases event.fedTo? client <;> simp [fedTo]

@[simp] theorem processedBy_cons
    (client : ClientId)
    (event : Event)
    (earlier : Trace) :
    processedBy client (event :: earlier) =
      processedBy client earlier ++ (event.processedBy? client).toList := by
  rw [processedBy, List.filterMap_cons]
  cases event.processedBy? client <;> simp [processedBy]

/-- Other events leave the bytes and the messages of a client alone. -/
theorem reception_grown
    {client : ClientId}
    {earlier later : Trace}
    (grown : Grown (fun event => ¬ event.IsReception client) earlier later) :
    later.fedTo client = earlier.fedTo client ∧
      later.processedBy client = earlier.processedBy client := by
  obtain ⟨since, rfl, others⟩ := grown
  induction since with
  | nil => exact ⟨rfl, rfl⟩
  | cons event rest inductionHypothesis =>
      obtain ⟨sameBytes, sameMessages⟩ :=
        inductionHypothesis fun other member =>
          others other (List.mem_cons_of_mem event member)
      have isOther := others event List.mem_cons_self
      have noByte : event.fedTo? client = none := by
        cases event <;> simp_all [Event.IsReception, Event.fedTo?]
      have noMessage : event.processedBy? client = none := by
        cases event <;> simp_all [Event.IsReception, Event.processedBy?]
      simp only [List.cons_append, fedTo_cons, processedBy_cons, noByte,
        noMessage, Option.toList_none, List.append_nil]
      exact ⟨sameBytes, sameMessages⟩

end Trace

namespace World

open MqttMessage (receive)

variable {Index Os : Type}

/-! ## What is left alone -/

/-- A client received nothing. -/
structure ReceptionKept
    (client : ClientId)
    (before after : World Index Os) : Prop where
  remote : (after.clients client).client = (before.clients client).client
  message : (after.clients client).message = (before.clients client).message
  next : before.next ≤ after.next
  trace :
    Grown (fun event => ¬ event.IsReception client) before.trace after.trace

/-- A client received some bytes, and handed on what they complete. -/
structure Receives
    (client : ClientId)
    (bytes : List Byte)
    (before after : World Index Os) : Prop where
  remote : (after.clients client).client = (before.clients client).client
  message :
    (after.clients client).message =
      (Decoder.feed receive (before.clients client).message bytes).1
  next : before.next ≤ after.next
  fedTo :
    after.trace.fedTo client = before.trace.fedTo client ++ bytes
  processedBy :
    after.trace.processedBy client =
      before.trace.processedBy client ++
        (Decoder.feed receive (before.clients client).message bytes).2

/-- A call that sends to a socket or closes it. -/
inductive SendOrClose [Platform Os] : Os → Os → Prop where
  | send (os : Os) (fd : Int) (bytes : List Byte) :
      SendOrClose os (Platform.send os fd bytes).2
  | close (os : Os) (fd : Int) :
      SendOrClose os (Platform.closeFn os fd)

/-- Nobody was given a session, and at most some sessions were closed. -/
structure SessionsShrunk [Platform Os]
    (before after : World Index Os) : Prop where
  connection : ∀ client,
    (after.clients client).connection = (before.clients client).connection
  slots : SlotsShrunk before.device.hd after.device.hd
  os : Relation.ReflTransGen SendOrClose before.device.os after.device.os

/-- A client is spared what others do: both of the above. -/
structure Spared [Platform Os]
    (client : ClientId)
    (before after : World Index Os) : Prop
    extends ReceptionKept client before after, SessionsShrunk before after

variable {before middle after world : World Index Os}
variable {client other : ClientId}

namespace ReceptionKept

theorem refl
    (client : ClientId)
    (world : World Index Os) :
    ReceptionKept client world world :=
  ⟨rfl, rfl, Nat.le_refl _, .refl _⟩

theorem trans
    (first : ReceptionKept client before middle)
    (second : ReceptionKept client middle after) :
    ReceptionKept client before after where
  remote := second.remote.trans first.remote
  message := second.message.trans first.message
  next := Nat.le_trans first.next second.next
  trace := first.trace.trans second.trace

/-- An event that is no reception of the client. -/
theorem log
    (world : World Index Os)
    {event : Event}
    (isOther : ¬ event.IsReception client) :
    ReceptionKept client world (world.log event) :=
  ⟨rfl, rfl, Nat.le_refl _, .single isOther⟩

/-- Another client may change in any way. -/
theorem modifyOther
    (world : World Index Os)
    (distinct : client ≠ other)
    (change : MqttClient → MqttClient) :
    ReceptionKept client world (world.modifyClient other change) :=
  ⟨by rw [clients_modifyClient_other world change distinct],
    by rw [clients_modifyClient_other world change distinct],
    Nat.le_refl _, .refl _⟩

/-- A change that keeps links and message. -/
theorem modifyClient
    (client : ClientId)
    (world : World Index Os)
    (other : ClientId)
    {change : MqttClient → MqttClient}
    (keeps : KeepsLinks change)
    (message : ∀ record, (change record).message = record.message) :
    ReceptionKept client world (world.modifyClient other change) := by
  by_cases same : client = other
  · subst same
    exact ⟨by simp [keeps.client], by simp [message], Nat.le_refl _,
      .refl _⟩
  · exact .modifyOther world same change

/-- What a client has processed stays what it has processed. -/
theorem processedBy
    (kept : ReceptionKept client before after) :
    after.trace.processedBy client = before.trace.processedBy client :=
  (Trace.reception_grown kept.trace).2

theorem fedTo
    (kept : ReceptionKept client before after) :
    after.trace.fedTo client = before.trace.fedTo client :=
  (Trace.reception_grown kept.trace).1

end ReceptionKept

namespace Receives

/-- Receiving nothing. -/
theorem of_kept
    (kept : ReceptionKept client before after) :
    Receives client [] before after where
  remote := kept.remote
  message := kept.message
  next := kept.next
  fedTo := by
    rw [kept.fedTo, List.append_nil]
  processedBy := by
    rw [kept.processedBy, Decoder.feed_nil, List.append_nil]

/-- Bytes received one after the other. -/
theorem trans
    {first second : List Byte}
    (earlier : Receives client first before middle)
    (later : Receives client second middle after) :
    Receives client (first ++ second) before after where
  remote := later.remote.trans earlier.remote
  message := by
    rw [later.message, earlier.message, Decoder.feed_append]
  next := Nat.le_trans earlier.next later.next
  fedTo := by
    rw [later.fedTo, earlier.fedTo, List.append_assoc]
  processedBy := by
    rw [later.processedBy, earlier.processedBy, earlier.message,
      Decoder.feed_append, List.append_assoc]

end Receives

variable [Platform Os]

namespace SessionsShrunk

theorem refl (world : World Index Os) : SessionsShrunk world world :=
  ⟨fun _ => rfl, fun _ => .inl rfl, .refl⟩

theorem trans
    (first : SessionsShrunk before middle)
    (second : SessionsShrunk middle after) :
    SessionsShrunk before after where
  connection client :=
    (second.connection client).trans (first.connection client)
  slots := first.slots.trans second.slots
  os := first.os.trans second.os

/-- The same device. -/
theorem of_device
    (device : after.device = before.device)
    (connection : ∀ client,
      (after.clients client).connection =
        (before.clients client).connection) :
    SessionsShrunk before after := by
  refine ⟨connection, fun _ => .inl ?_, ?_⟩
  · rw [device]
  · rw [device]

/-- An event. -/
theorem log
    (world : World Index Os)
    (event : Event) :
    SessionsShrunk world (world.log event) :=
  ⟨fun _ => rfl, fun _ => .inl rfl, .refl⟩

/-- A change of a client that keeps its session. -/
theorem modifyClient
    (world : World Index Os)
    (client : ClientId)
    {change : MqttClient → MqttClient}
    (connection : ∀ record, (change record).connection = record.connection) :
    SessionsShrunk world (world.modifyClient client change) := by
  refine .of_device rfl fun other => ?_
  by_cases same : other = client
  · subst same
    simp [connection]
  · simp [same]

end SessionsShrunk

namespace Spared

theorem refl
    (client : ClientId)
    (world : World Index Os) :
    Spared client world world :=
  ⟨.refl client world, .refl world⟩

theorem trans
    (first : Spared client before middle)
    (second : Spared client middle after) :
    Spared client before after :=
  ⟨first.toReceptionKept.trans second.toReceptionKept,
    first.toSessionsShrunk.trans second.toSessionsShrunk⟩

/-- An event that is no reception of the client. -/
theorem log
    (world : World Index Os)
    {event : Event}
    (isOther : ¬ event.IsReception client) :
    Spared client world (world.log event) :=
  ⟨.log world isOther, .log world event⟩

/-- A change that keeps links and message. -/
theorem modifyClient
    (client : ClientId)
    (world : World Index Os)
    (other : ClientId)
    {change : MqttClient → MqttClient}
    (keeps : KeepsLinks change)
    (message : ∀ record, (change record).message = record.message) :
    Spared client world (world.modifyClient other change) :=
  ⟨.modifyClient client world other keeps message,
    .modifyClient world other keeps.connection⟩

/-- Work on the topics. -/
theorem topics
    (client : ClientId)
    (world : World Index Os)
    (indexer : Index) :
    Spared client world { world with indexer := indexer } :=
  ⟨⟨rfl, rfl, Nat.le_refl _, .refl _⟩, .of_device rfl fun _ => rfl⟩

end Spared

end World

/-! ## The session operations -/

namespace Device

variable {Os : Type} [Platform Os]

open World (SendOrClose)

/-- Deleting a session calls the platform once at most. -/
theorem os_httpdSessDelete
    {device : Device Os}
    {os : Os}
    (session : SlotId)
    (called : Relation.ReflTransGen SendOrClose os device.os) :
    Relation.ReflTransGen SendOrClose os
      (device.httpdSessDelete session).os := by
  unfold httpdSessDelete
  split
  · exact called
  · exact called.tail (.close _ _)

/-- Writing sends, and closes when that failed. -/
theorem os_writeData
    (device : Device Os)
    (session : SlotId)
    (buf : List Byte) :
    Relation.ReflTransGen SendOrClose device.os
      (device.writeData (some session) buf).2.os := by
  unfold writeData
  dsimp only
  split
  · have sent := SendOrClose.send device.os (device.fd session) buf
    split
    · exact os_httpdSessDelete session (.single sent)
    · exact .single sent
  · exact .refl

/-- Writing closes its own session at most. -/
theorem slotsShrunk_writeData
    (device : Device Os)
    (session : SlotId)
    (buf : List Byte) :
    SlotsShrunk device.hd (device.writeData (some session) buf).2.hd := by
  unfold writeData
  dsimp only
  split
  · split
    · exact hdSd_httpdSessDelete _ session
    · exact .refl _
  · exact .refl _

end Device

namespace World

open MqttMessage (receive)

variable {Index Os : Type} [Platform Os]
variable {before middle after world : World Index Os}
variable {client other : ClientId}

namespace Spared

/-- A write to any client. -/
theorem writeClient
    (client : ClientId)
    (world : World Index Os)
    (other : ClientId)
    (bytes : List Byte) :
    Spared client world (world.writeClient other bytes) := by
  cases connected : (world.clients other).connection with
  | none =>
      rw [writeClient_unconnected connected]
      exact .refl client world
  | some slot =>
      have grown := world.device.trace_writeData slot bytes
      have closed := world.device.slotsShrunk_writeData slot bytes
      have called := world.device.os_writeData slot bytes
      simp only [World.writeClient, connected]
      refine ⟨⟨rfl, rfl, Nat.le_refl _, grown.weaken ?_⟩, fun _ => rfl,
        closed, called⟩
      intro event onSession
      cases event <;> simp_all [Event.OnSession, Event.IsReception]

/-- The end of any connection. -/
theorem close
    (client : ClientId)
    (world : World Index Os)
    (other : ClientId) :
    Spared client world (world.close other) := by
  have message :
      ((world.close other).clients client).message =
        (world.clients client).message := by
    by_cases same : client = other
    · subst same
      rw [clients_close_self]
    · rw [clients_close_other world same]
  have device := world.device_close other
  refine ⟨⟨client_close world other client, message,
    Nat.le_of_eq (next_close world other).symm, ?_⟩,
    connection_close world other, ?_, ?_⟩
  · simp only [World.trace, device]
    split
    · refine ((Grown.single id).cons id).trans
        ((Device.trace_httpdSessDelete _ _).weaken ?_)
      rintro event rfl
      exact id
    · exact .single id
  · intro slot
    rw [device]
    split
    · exact Device.hdSd_httpdSessDelete _ _ slot
    · exact .inl rfl
  · rw [device]
    split
    · exact Device.os_httpdSessDelete _ .refl
    · exact .refl

/-- Setting any deadline. -/
theorem clientAlive
    (client : ClientId)
    (world : World Index Os)
    (other : ClientId)
    (moreSeconds : Nat) :
    Spared client world (world.clientAlive other moreSeconds) := by
  obtain ⟨change, keeps, result⟩ :=
    clientAlive_eq world other moreSeconds
  rw [result]
  exact .modifyClient client world other keeps.toKeepsLinks keeps.message

/-- Sending a message to any client. -/
theorem sendTo
    (client : ClientId)
    (world : World Index Os)
    (message : MqttMessage)
    (other : ClientId) :
    Spared client world (world.sendTo message other).2 := by
  unfold World.sendTo
  split
  · exact (Spared.log world id).trans (.writeClient client _ other _)
  · exact .refl client world

end Spared

/-! ## Processing and publishing -/

/-- What a client does with a message, apart from handing it to the broker. -/
theorem Activity.spared
    {forward :
      BrokerId → ClientId → Topic → MqttMessage →
        World Index Os → World Index Os}
    {mesg : MqttMessage}
    {start : World Index Os}
    (activity : Activity forward other mesg start world)
    (client : ClientId)
    (forwarded :
      ∀ parent topic middle,
        (start.clients other).client = true →
        Spared client start middle →
        Spared client middle
          (forward parent other topic mesg middle)) :
    Spared client start world := by
  induction activity with
  | start => exact .refl client start
  | note event isReply _ inductionHypothesis =>
      refine inductionHypothesis.trans (.log _ ?_)
      cases event <;> simp_all [Event.IsReply, Event.IsReception]
  | record change keeps _ inductionHypothesis =>
      exact inductionHypothesis.trans
        (.modifyClient client _ other keeps.toKeepsLinks keeps.message)
  | topics indexer _ inductionHypothesis =>
      exact inductionHypothesis.trans (.topics client _ indexer)
  | write bytes _ inductionHypothesis =>
      exact inductionHypothesis.trans (.writeClient client _ other bytes)
  | @login world parent user password _ _ _ _ _ inductionHypothesis =>
      have checked :
          Spared client world
            (world.log (.credentials other user password)) :=
        .log world id
      exact (inductionHypothesis.trans checked).trans
        (.modifyClient client _ other keepsLinks_connect fun _ => rfl)
  | connAck _ _ inductionHypothesis =>
      exact inductionHypothesis.trans
        (.modifyClient client _ other keepsLinks_connect fun _ => rfl)
  | forward parent topic _ _ isRemote _ _ inductionHypothesis =>
      exact inductionHypothesis.trans
        (forwarded parent topic _ isRemote inductionHypothesis)
  | callback topic payload _ _ _ inductionHypothesis =>
      exact inductionHypothesis.trans (.log _ id)

variable [Indexer Index]

/-- `processMessage`, once it has been entered. -/
theorem processMessageWith_spared
    {forward :
      BrokerId → ClientId → Topic → MqttMessage →
        World Index Os → World Index Os}
    (world : World Index Os)
    (other : ClientId)
    (mesg : MqttMessage)
    (client : ClientId)
    (forwarded :
      ∀ parent topic middle,
        (world.clients other).client = true →
        Spared client (world.log (.processed other mesg)) middle →
        Spared client middle
          (forward parent other topic mesg middle)) :
    Spared client (world.log (.processed other mesg))
      (world.processMessageWith forward other mesg) := by
  obtain ⟨active, activity, outcome⟩ :=
    processMessageWith_outcome forward world other mesg
  have acted := activity.spared client forwarded
  generalize world.processMessageWith forward other mesg = after
    at outcome ⊢
  cases outcome with
  | rejected => exact acted.trans (.close client active other)
  | disconnected _ moreSeconds =>
      exact (acted.trans (.close client active other)).trans
        (.clientAlive client _ other moreSeconds)
  | taken => exact acted.trans (.clientAlive client active other _)

/-- A delivery does not disturb a networked client. -/
theorem publishIfSubscribed_spared
    (isRemote : (world.clients client).client = true)
    (target : ClientId)
    (topic : Topic)
    (msg : MqttMessage) :
    Spared client world
      (world.publishIfSubscribed target topic msg).2 := by
  unfold publishIfSubscribed
  split
  · split
    · exact .sendTo client world msg target
    · rename_i notRemote
      -- Only local clients process what is published, so not this one.
      have distinct : target ≠ client := by
        rintro rfl
        exact notRemote isRemote
      have entered :
          Spared client world (world.log (.processed target msg)) :=
        .log world distinct
      exact entered.trans
        (processMessageWith_spared world target msg client
          fun _ _ middle _ _ => .refl client middle)
  · exact .refl client world

/-- `publish` does not disturb a networked client. -/
theorem publish_spared
    (isRemote : (world.clients client).client = true)
    (broker : BrokerId)
    (source : ClientId)
    (topic : Topic)
    (msg : MqttMessage) :
    Spared client world (world.publish broker source topic msg).2 := by
  refine publish_relates (fun world => (world.clients client).client = true)
    (.refl client) .trans ?_ broker source topic msg ?_ isRemote
  · intro first second spared isRemote
    rw [spared.remote, isRemote]
  · intro world target msg isRemote
    exact publishIfSubscribed_spared isRemote target topic msg

/-- `processMessage` of any client, once it has been entered. -/
theorem processMessage_spared
    (isRemote : (world.clients client).client = true)
    (other : ClientId)
    (mesg : MqttMessage) :
    Spared client (world.log (.processed other mesg))
      (world.processMessage other mesg) := by
  refine processMessageWith_spared world other mesg client ?_
  intro parent topic middle _ entered
  exact publish_spared (entered.remote.trans isRemote) parent other
    topic mesg

/-- A networked client processes its message once. -/
theorem processedBy_processMessage
    (isRemote : (world.clients client).client = true)
    (mesg : MqttMessage) :
    (world.processMessage client mesg).trace.processedBy client =
      world.trace.processedBy client ++ [mesg] := by
  rw [(processMessage_spared isRemote client mesg).processedBy, trace_log,
    Trace.processedBy_cons]
  simp [Event.processedBy?]

/-! ## One byte -/

/-- A byte of another client. -/
theorem feed_receptionKept
    (isRemote : (world.clients client).client = true)
    (distinct : client ≠ other)
    (byte : Byte) :
    ReceptionKept client world (world.feed other byte) := by
  have taken : ReceptionKept client world (world.takeByte other byte) :=
    .modifyOther world distinct _
  rcases world.feed_cases other byte with ⟨_, result⟩ | ⟨_, result⟩
  · rw [result]
    exact taken
  · have takenRemote :
        ((world.takeByte other byte).clients client).client = true := by
      rw [taken.remote, isRemote]
    have entered (mesg : MqttMessage) :
        ReceptionKept client (world.takeByte other byte)
          ((world.takeByte other byte).log (.processed other mesg)) :=
      .log _ distinct.symm
    rw [result]
    exact (taken.trans ((entered _).trans
      (processMessage_spared takenRemote other _).toReceptionKept)).trans
        (.modifyOther _ distinct _)

/-- A client hands on what `receive` makes of the byte. -/
theorem feed_receives
    (isRemote : (world.clients client).client = true)
    (slot : SlotId)
    (byte : Byte) :
    Receives client [byte] world
        ((world.log (.fed client slot byte)).feed client byte) ∧
      SessionsShrunk world
        ((world.log (.fed client slot byte)).feed client byte) := by
  have cases := (world.log (.fed client slot byte)).feed_cases client byte
  let taken := (world.log (.fed client slot byte)).takeByte client byte
  have takenMessage :
      (taken.clients client).message =
        (world.clients client).message.incoming byte := by
    simp [taken, takeByte]
  have takenShrunk : SessionsShrunk world taken :=
    (SessionsShrunk.log world _).trans
      (.modifyClient _ client fun _ => rfl)
  have takenRemote : (taken.clients client).client = true := by
    simpa [taken, takeByte] using isRemote
  have takenTrace : taken.trace = .fed client slot byte :: world.trace := rfl
  rw [clients_log, ← takenMessage] at cases
  rcases cases with ⟨silent, result⟩ | ⟨typed, result⟩
  · have received :
        receive (world.clients client).message byte =
          ((taken.clients client).message, none) := by
      rw [takenMessage] at silent ⊢
      simp [receive, silent]
    rw [result]
    refine ⟨⟨takenRemote.trans isRemote.symm, ?_, Nat.le_refl _, ?_, ?_⟩,
      takenShrunk⟩
    · rw [Decoder.feed_singleton, received]
    · rw [takenTrace]
      simp [Event.fedTo?]
    · rw [takenTrace, Decoder.feed_singleton, received]
      simp [Event.processedBy?]
  · have received :
        receive (world.clients client).message byte =
          ((taken.clients client).message.reset,
            some (taken.clients client).message) := by
      rw [takenMessage] at typed ⊢
      simp [receive, typed]
    have processed :=
      processMessage_spared takenRemote client
        (taken.clients client).message
    rw [result]
    refine ⟨⟨?_, ?_, processed.next, ?_, ?_⟩, ?_⟩
    · rw [clients_modifyClient_self]
      exact processed.remote.trans (takenRemote.trans isRemote.symm)
    · rw [clients_modifyClient_self, Decoder.feed_singleton, received]
      exact congrArg MqttMessage.reset processed.message
    · rw [trace_modifyClient, processed.fedTo, trace_log, takenTrace]
      simp [Event.fedTo?]
    · rw [trace_modifyClient, processed.processedBy, trace_log, takenTrace,
        Decoder.feed_singleton, received]
      simp [Event.processedBy?]
    · exact ((takenShrunk.trans (.log taken _)).trans
        processed.toSessionsShrunk).trans
          (.modifyClient _ client fun _ => rfl)

end World

end SimpleTlsBroker
