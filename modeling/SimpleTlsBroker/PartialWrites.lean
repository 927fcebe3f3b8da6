import SimpleTlsBroker.SessionEffects
import SimpleTlsBroker.Scripts

namespace SimpleTlsBroker

/-!
# Short writes

The sockets are non-blocking, so `send_fn` may accept a part of a message.
`sendTo` does not look at what `writeData` returns: the rest of the message is
never sent, and the next message follows what was accepted.
-/

open History

namespace Event

/-- The bytes that `send_fn` accepted on a descriptor. -/
def acceptedOn (fd : Int) : Event → List Byte
  | .sent _ other bytes ret => if other = fd then bytes.take ret.toNat else []
  | _ => []

end Event

namespace Trace

/-- What a connection accepted in a run, oldest byte first. -/
def acceptedOn (fd : Int) (trace : Trace) : List Byte :=
  trace.reverse.flatMap (Event.acceptedOn fd)

/-- One more event. -/
theorem acceptedOn_cons (fd : Int) (event : Event) (trace : Trace) :
    acceptedOn fd (event :: trace) =
      acceptedOn fd trace ++ event.acceptedOn fd := by
  simp [acceptedOn]

end Trace

namespace MqttMessage

/-- The bytes that `sendTo` sends of a message. -/
def frame (msg : MqttMessage) : List Byte :=
  if msg.buffer.length ≠ 0 then msg.encoded.buffer else []

/-- What is sent is not empty, unless the message is. -/
theorem frame_ne_nil
    {msg : MqttMessage}
    (nonempty : msg.buffer.length ≠ 0) :
    msg.frame ≠ [] := by
  intro empty
  unfold frame at empty
  rw [if_pos nonempty] at empty
  have length := congrArg List.length empty
  unfold encoded at length
  split at length
  · dsimp only at length
    split at length
    · simp only [List.length_set, List.length_eraseIdx,
        List.length_nil] at length
      split at length
      · omega
      · omega
    · simp only [List.length_set, List.length_nil] at length
      exact nonempty length
  · exact nonempty length

end MqttMessage

/-- Whole frames in their order, followed by at most the start of one. -/
def Framed (frames : List (List Byte)) (bytes : List Byte) : Prop :=
  ∃ whole part,
    bytes = whole.flatten ++ part ∧
      (whole.Sublist frames ∧ part = [] ∨
        ∃ last, (whole ++ [last]).Sublist frames ∧ part <+: last)

namespace Device

variable {Os : Type} [Platform Os]

/-- Deleting a session sends nothing. -/
theorem acceptedOn_httpdSessDelete
    (device : Device Os)
    (session : SlotId)
    (fd : Int) :
    (device.httpdSessDelete session).trace.acceptedOn fd =
      device.trace.acceptedOn fd := by
  unfold httpdSessDelete
  split
  · rfl
  · rw [Trace.acceptedOn_cons]
    exact List.append_nil _

/-- `writeData` on an open session is one call of `send_fn`. -/
theorem writeData_open
    (device : Device Os)
    {slot : SlotId}
    (handle : (device.hd.hdSd slot).handle = true)
    (buf : List Byte) :
    (device.writeData (some slot) buf).2.trace.acceptedOn (device.fd slot) =
        device.trace.acceptedOn (device.fd slot) ++
          buf.take
            (Platform.send device.os (device.fd slot) buf).1.toNat ∧
      (0 ≤ (Platform.send device.os (device.fd slot) buf).1 →
        (device.writeData (some slot) buf).2.hd = device.hd) := by
  unfold writeData
  dsimp only
  rw [if_pos (show ((device.log _).hd.hdSd slot).handle = true from handle)]
  have accepted :
      Trace.acceptedOn (device.fd slot)
          (.sent slot (device.fd slot) buf
              (Platform.send device.os (device.fd slot) buf).1 ::
            .written slot buf :: device.trace) =
        device.trace.acceptedOn (device.fd slot) ++
          buf.take
            (Platform.send device.os (device.fd slot) buf).1.toNat := by
    simp [Trace.acceptedOn_cons, Event.acceptedOn]
  constructor
  · split
    · rw [acceptedOn_httpdSessDelete]
      exact accepted
    · exact accepted
  · intro succeeds
    split
    · rename_i failed
      exact absurd succeeds (Int.not_le.mpr failed)
    · rfl

end Device

namespace World

variable {Index Os : Type} [Platform Os]
variable {world : World Index Os}
variable {client : ClientId}
variable {slot : SlotId}
variable {fd : Int}

/-- The client is connected to an open session. -/
structure OpenSession
    (world : World Index Os)
    (client : ClientId)
    (slot : SlotId)
    (fd : Int) : Prop where
  connection : (world.clients client).connection = some slot
  handle : (world.device.hd.hdSd slot).handle = true
  isFd : world.device.fd slot = fd
  valid : 0 ≤ fd

/-- Send messages to a client, one after the other. -/
def sendAll
    (world : World Index Os)
    (client : ClientId)
    (messages : List MqttMessage) : World Index Os :=
  messages.foldl (fun world msg => world.sendOwn msg client) world

/-- What the client's connection has accepted after some messages. -/
def acceptedAfter
    (world : World Index Os)
    (client : ClientId)
    (fd : Int)
    (messages : List MqttMessage) : List Byte :=
  (world.sendAll client messages).trace.acceptedOn fd

/--
Whole frames on the wire.  At all times the connection has accepted whole
frames and at most the start of one; after an incomplete message either its
rest follows or nothing; and `sendTo` returns `MqttOk` only for a message that
was accepted whole.
-/
structure WholeFrames
    (world : World Index Os)
    (client : ClientId)
    (fd : Int)
    (messages : List MqttMessage) : Prop where
  framed :
    ∀ earlier, earlier <+: messages →
      ∃ bytes,
        world.acceptedAfter client fd earlier =
            world.trace.acceptedOn fd ++ bytes ∧
          Framed (earlier.map MqttMessage.frame) bytes
  stops :
    ∀ earlier msg later, messages = earlier ++ msg :: later →
      (world.acceptedAfter client fd earlier ++ msg.frame <+:
          world.acceptedAfter client fd messages) ∨
        world.acceptedAfter client fd messages =
          world.acceptedAfter client fd (earlier ++ [msg])
  ok :
    ∀ earlier msg later, messages = earlier ++ msg :: later →
      ((world.sendAll client earlier).sendTo msg client).1.1 = .ok →
        world.acceptedAfter client fd (earlier ++ [msg]) =
          world.acceptedAfter client fd earlier ++ msg.frame

/-- `send_fn` accepts a message whole when it is called with it. -/
def AcceptsWhole
    (world : World Index Os)
    (slot : SlotId)
    (msg : MqttMessage) : Prop :=
  msg.buffer.length ≠ 0 →
    (msg.frame.length : Int) ≤
      (Platform.send world.device.os (world.device.fd slot) msg.frame).1

/-- Every call of `send_fn` accepts its message whole. -/
def AcceptsAll
    (world : World Index Os)
    (client : ClientId)
    (slot : SlotId)
    (messages : List MqttMessage) : Prop :=
  ∀ earlier msg later, messages = earlier ++ msg :: later →
    (world.sendAll client earlier).AcceptsWhole slot msg

/-- Sending on an open session is one call of `send_fn`. -/
theorem OpenSession.sendTo
    {msg : MqttMessage}
    (session : OpenSession world client slot fd)
    (nonempty : msg.buffer.length ≠ 0) :
    (world.sendTo msg client).1.1 = .ok ∧
      (world.sendTo msg client).2.trace.acceptedOn fd =
        world.trace.acceptedOn fd ++
          msg.frame.take
            (Platform.send world.device.os fd msg.frame).1.toNat ∧
      (0 ≤ (Platform.send world.device.os fd msg.frame).1 →
        OpenSession (world.sendTo msg client).2 client slot fd) := by
  have isFrame : msg.encoded.buffer = msg.frame := by
    unfold MqttMessage.frame
    rw [if_pos nonempty]
  unfold World.sendTo
  rw [if_pos nonempty]
  dsimp only
  rw [isFrame]
  unfold writeClient
  rw [clients_log, session.connection]
  have logged :
      (world.log (.sentTo client msg.frame)).device.fd slot = fd :=
    session.isFd
  obtain ⟨accepted, kept⟩ :=
    (world.log (.sentTo client msg.frame)).device.writeData_open
      session.handle msg.frame
  rw [logged] at accepted kept
  refine ⟨rfl, ?_, ?_⟩
  · have noted :
        (world.log (.sentTo client msg.frame)).device.trace.acceptedOn fd =
          world.trace.acceptedOn fd := by
      change (world.log (.sentTo client msg.frame)).trace.acceptedOn fd = _
      rw [trace_log, Trace.acceptedOn_cons]
      exact List.append_nil _
    rw [noted] at accepted
    exact accepted
  · intro succeeds
    have sameTable := kept succeeds
    exact ⟨session.connection, by rw [sameTable]; exact session.handle,
      by unfold Device.fd; rw [sameTable]; exact session.isFd,
      session.valid⟩

/-- An empty message is refused. -/
theorem sendTo_empty
    (world : World Index Os)
    (client : ClientId)
    {msg : MqttMessage}
    (empty : msg.buffer.length = 0) :
    world.sendTo msg client = ((.invalidMessage, msg), world) := by
  unfold sendTo
  rw [if_neg (not_not.mpr empty)]

/-- Without messages nothing is to be accepted. -/
theorem acceptsAll_nil : world.AcceptsAll client slot [] := by
  intro earlier msg later shape
  simp at shape

/-- Sending one message first. -/
theorem acceptsAll_cons
    {msg : MqttMessage}
    {messages : List MqttMessage} :
    world.AcceptsAll client slot (msg :: messages) ↔
      world.AcceptsWhole slot msg ∧
        (world.sendOwn msg client).AcceptsAll client slot messages := by
  constructor
  · intro accepts
    refine ⟨accepts [] msg messages rfl, ?_⟩
    rintro earlier other later rfl
    exact accepts (msg :: earlier) other later rfl
  · rintro ⟨whole, accepts⟩ earlier other later shape
    cases earlier with
    | nil =>
        obtain ⟨rfl, rfl⟩ := List.cons.inj shape
        exact whole
    | cons first earlier =>
        obtain ⟨rfl, rfl⟩ := List.cons.inj shape
        exact accepts earlier other later rfl

/-- A message that is accepted whole leaves the session open. -/
theorem OpenSession.sendOwn
    {msg : MqttMessage}
    (session : OpenSession world client slot fd)
    (whole : world.AcceptsWhole slot msg) :
    OpenSession (world.sendOwn msg client) client slot fd ∧
      (world.sendOwn msg client).trace.acceptedOn fd =
        world.trace.acceptedOn fd ++ msg.frame := by
  by_cases empty : msg.buffer.length = 0
  · have refused := sendTo_empty world client empty
    unfold World.sendOwn MqttMessage.frame
    rw [refused, if_neg (not_not.mpr empty)]
    exact ⟨session, (List.append_nil _).symm⟩
  · obtain ⟨_, accepted, stillOpen⟩ := session.sendTo empty
    have enough := whole empty
    rw [session.isFd] at enough
    refine ⟨stillOpen (by omega), ?_⟩
    rw [List.take_of_length_le (by omega)] at accepted
    exact accepted

/-- If every message is accepted whole, the frames follow each other. -/
theorem acceptedAfter_of_acceptsAll
    (session : OpenSession world client slot fd)
    {messages : List MqttMessage}
    (accepts : world.AcceptsAll client slot messages) :
    world.acceptedAfter client fd messages =
      world.trace.acceptedOn fd ++
        (messages.map MqttMessage.frame).flatten := by
  induction messages generalizing world with
  | nil => exact (List.append_nil _).symm
  | cons msg rest inductionHypothesis =>
      obtain ⟨whole, later⟩ := acceptsAll_cons.mp accepts
      obtain ⟨stillOpen, accepted⟩ := session.sendOwn whole
      have sent := inductionHypothesis stillOpen later
      rw [accepted] at sent
      rw [List.map_cons, List.flatten_cons, ← List.append_assoc]
      exact sent

/-- If `sendTo` only accepts whole messages, `send_fn` accepted them all. -/
theorem acceptsAll_of_ok
    (session : OpenSession world client slot fd)
    {messages : List MqttMessage}
    (ok :
      ∀ earlier msg later, messages = earlier ++ msg :: later →
        ((world.sendAll client earlier).sendTo msg client).1.1 = .ok →
          world.acceptedAfter client fd (earlier ++ [msg]) =
            world.acceptedAfter client fd earlier ++ msg.frame) :
    world.AcceptsAll client slot messages := by
  induction messages generalizing world with
  | nil => exact acceptsAll_nil
  | cons msg rest inductionHypothesis =>
      have whole : world.AcceptsWhole slot msg := by
        intro nonempty
        obtain ⟨isOk, accepted, _⟩ := session.sendTo nonempty
        have isWhole := ok [] msg rest rfl isOk
        have same := List.append_cancel_left (accepted.symm.trans isWhole)
        have length := congrArg List.length same
        have positive := List.length_pos_iff.mpr (MqttMessage.frame_ne_nil nonempty)
        rw [List.length_take] at length
        rw [session.isFd]
        omega
      obtain ⟨stillOpen, _⟩ := session.sendOwn whole
      refine acceptsAll_cons.mpr ⟨whole, inductionHypothesis stillOpen ?_⟩
      rintro earlier other after rfl isOk
      exact ok (msg :: earlier) other after rfl isOk

/-- What holds of all messages holds of the first of them. -/
theorem acceptsAll_of_earlier
    {earlier messages : List MqttMessage}
    (isPrefix : earlier <+: messages)
    (accepts : world.AcceptsAll client slot messages) :
    world.AcceptsAll client slot earlier := by
  obtain ⟨later, rfl⟩ := isPrefix
  rintro before msg after rfl
  apply accepts before msg (after ++ later)
  simp

/--
The connection gets whole frames, and `sendTo` reports them truly, if and only
if every call of `send_fn` accepts its whole message.
-/
theorem whole_frames_iff
    (session : OpenSession world client slot fd)
    (messages : List MqttMessage) :
    world.WholeFrames client fd messages ↔
      world.AcceptsAll client slot messages := by
  constructor
  · exact fun whole => acceptsAll_of_ok session whole.ok
  · intro accepts
    have sent :
        ∀ {earlier}, earlier <+: messages →
          world.acceptedAfter client fd earlier =
            world.trace.acceptedOn fd ++
              (earlier.map MqttMessage.frame).flatten :=
      fun isPrefix =>
        acceptedAfter_of_acceptsAll session
          (acceptsAll_of_earlier isPrefix accepts)
    constructor
    · intro earlier isPrefix
      refine ⟨_, sent isPrefix, earlier.map MqttMessage.frame, [], ?_, ?_⟩
      · exact (List.append_nil _).symm
      · exact .inl ⟨.refl _, rfl⟩
    · rintro earlier msg later rfl
      left
      rw [sent (List.prefix_append _ _), sent (List.prefix_refl _)]
      simp [List.append_assoc]
    · rintro earlier msg later rfl _
      have isPrefix : earlier ++ [msg] <+: earlier ++ msg :: later := by
        simp
      rw [sent isPrefix, sent (List.prefix_append _ _)]
      simp [List.append_assoc]

/-- A peer was accepted; `send_fn` then accepts one byte, and all later ones. -/
def shortRun (sendResults : List Int) : World StringIndexer Script :=
  performAll 0 always [.accept]
    (Script.setup
      { clock := 0
        connections := [5]
        receipts := []
        sendResults := sendResults })

/-- The session of the peer is open. -/
theorem openSession_shortRun :
    OpenSession (shortRun []) 0 0 5 ∧ OpenSession (shortRun [1]) 0 0 5 :=
  ⟨⟨by decide, by decide, by decide, by decide⟩,
    ⟨by decide, by decide, by decide, by decide⟩⟩

/-- A PINGRESP message. -/
def pingResp : MqttMessage :=
  .ofType MqttType.pingResp.code 0

/-- Two messages that are accepted whole. -/
theorem whole_frames_pingResp :
    (shortRun []).WholeFrames 0 5 [pingResp, pingResp] := by
  refine (whole_frames_iff openSession_shortRun.1 _).mpr ?_
  refine acceptsAll_cons.mpr ⟨fun _ => by decide, ?_⟩
  exact acceptsAll_cons.mpr ⟨fun _ => by decide, acceptsAll_nil⟩

/-- After one byte of a message the next message follows. -/
theorem not_wholeFrames_short :
    (shortRun [1]).acceptedAfter 0 5 [pingResp, pingResp] =
        [0xD0, 0xD0, 0x00] ∧
      ((shortRun [1]).sendTo pingResp 0).1.1 = .ok ∧
      ¬ (shortRun [1]).WholeFrames 0 5 [pingResp, pingResp] := by
  refine ⟨by decide, by decide, ?_⟩
  intro whole
  have accepted := whole.ok [] pingResp [pingResp] rfl (by decide)
  exact absurd accepted (by decide)

end World

end SimpleTlsBroker
