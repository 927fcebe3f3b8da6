import SimpleTlsBroker.Admission
import SimpleTlsBroker.ClientLists

namespace SimpleTlsBroker

/-!
# The CONNECT message of a client

`onConnect` writes the variable header of its CONNECT message byte by byte:
the upper byte of the keep-alive time is always zero, the lower one is the time
cut to a `char`.  The CONNECT case reads both bytes, so a time of 256 seconds
or more comes back as another one.
-/

open MqttClient

/-- What `onConnect` says about a client: no will and no credentials. -/
def introduction
    (keepAlive : Nat)
    (clientId : List Byte) : Login where
  flags := 0x00
  keepAlive := (0x00, UInt8.ofNat keepAlive)
  clientId := clientId
  will := none
  user := none
  password := none
  announcesWill := rfl
  announcesUser := rfl
  announcesPassword := rfl

/-- The CONNECT frame with the shortest encoding of its length. -/
def introductionPacket
    (keepAlive : Nat)
    (clientId : List Byte) : Packet :=
  (introduction keepAlive clientId).packet
    (VarInt.encode (12 + clientId.length))

/-- The calls of `add` in `onConnect`. -/
def introductionCalls
    (keepAlive : Nat)
    (clientId : List Byte) : List MqttMessage.AddCall :=
  [.string protocolName, .byte 0x04, .byte 0x00, .byte 0x00,
    .byte (UInt8.ofNat keepAlive), .string clientId]

variable {keepAlive : Nat}
variable {clientId : List Byte}

/-- The calls add the body of the frame. -/
theorem added_introductionCalls
    (keepAlive : Nat)
    (clientId : List Byte) :
    (introductionCalls keepAlive clientId).flatMap
        MqttMessage.AddCall.added =
      (introductionPacket keepAlive clientId).body := by
  simp [introductionCalls, introductionPacket, introduction, Login.packet,
    Login.payload, Login.willField, Login.credentialField, stringField,
    MqttMessage.AddCall.added, protocolName]

/-- The length of the body. -/
theorem length_introduction
    (keepAlive : Nat)
    (clientId : List Byte) :
    (introductionPacket keepAlive clientId).body.length =
      12 + clientId.length := by
  simp only [introductionPacket, introduction, Login.packet, Login.payload,
    Login.willField, Login.credentialField, protocolName, List.length_cons,
    List.length_append, List.length_nil, length_stringField]
  omega

/-- The frame is what the builder makes of the body. -/
theorem introductionPacket_eq_built
    (keepAlive : Nat)
    (clientId : List Byte) :
    introductionPacket keepAlive clientId =
      MqttMessage.builtPacket MqttType.connect.code
        (introductionPacket keepAlive clientId).body := by
  rw [MqttMessage.builtPacket, length_introduction]
  rfl

/-- The frame is received as one message. -/
theorem reaches_introduction
    (fits :
      (introductionPacket keepAlive clientId).bytes.length ≤
        MqttMessage.maxBufferLength)
    {received : MqttMessage}
    (isReset : received.IsReset) :
    MqttMessage.Reaches received
      (introductionPacket keepAlive clientId).bytes
      (introductionPacket keepAlive clientId).message := by
  rw [introductionPacket_eq_built] at fits ⊢
  exact MqttMessage.reaches_builtPacket _ (MqttMessage.length_added_le fits)
    isReset

/-- The keep-alive time that the CONNECT case reads. -/
theorem keepAlive_introduction
    (keepAlive : Nat)
    (clientId : List Byte)
    (authUser authPassword : CharPointer) :
    (fieldsOf (introduction keepAlive clientId) authUser
        authPassword).keepAlive =
      keepAlive % 256 := by
  simp [fieldsOf, introduction]

namespace World

variable {Index Os : Type} [Platform Os]
variable {client : ClientId}

/-- `connect` to a host sends the frame, with the time it was given. -/
theorem messagesTo_hosted
    (world : World Index Os)
    (client : ClientId)
    (fits :
      (introductionPacket keepAlive
          (world.clients client).clientId).bytes.length ≤
        MqttMessage.maxBufferLength) :
    (world.hosted client keepAlive true).trace.messagesTo client =
      world.trace.messagesTo client ++
        [(introductionPacket keepAlive
          (world.clients client).clientId).bytes] := by
  rw [introductionPacket_eq_built] at fits ⊢
  have bounded := MqttMessage.length_added_le fits
  rw [← added_introductionCalls] at bounded ⊢
  have sent (middle : World Index Os) :=
    messagesTo_sendCalls middle MqttType.connect.code 0
      (introductionCalls keepAlive (world.clients client).clientId) client
      bounded
  simp only [hosted, if_true, onConnect, clients_modifyClient_self,
    clients_close_self]
  refine (sent _).trans ?_
  rw [trace_modifyClient, messagesTo_close, trace_modifyClient]
  rfl

variable [Indexer Index]

/-- An accepted CONNECT frame leaves its client id and its keep-alive time. -/
theorem record_processMessage_connect
    {world : World Index Os}
    {login : Login}
    {lengthBytes : List Byte}
    {broker : BrokerId}
    (fits :
      (login.packet lengthBytes).bytes.length ≤ MqttMessage.maxBufferLength)
    (attached : (world.clients client).parent = some broker)
    (unconnected : (world.clients client).mqttConnected = false)
    (accepted :
      (fieldsOf login (world.brokers broker).authUser
        (world.brokers broker).authPassword).accepted = true) :
    let after :=
      world.processMessage client (login.packet lengthBytes).message
    (after.clients client).clientId = login.clientId ∧
      (after.clients client).keepAlive =
        (fieldsOf login (world.brokers broker).authUser
          (world.brokers broker).authPassword).keepAlive := by
  dsimp only
  rw [processMessage_packet fits attached unconnected]
  rw [if_pos accepted]
  simp [finish, World.clientAlive, readLogin, fieldsOf]

/-- The peer became connected, with a client id and a keep-alive time. -/
structure Introduces
    (before after : World Index Os)
    (peer : ClientId)
    (clientId : List Byte)
    (keepAlive : Nat) : Prop where
  admits : Admits before after peer
  clientId : (after.clients peer).clientId = clientId
  keepAlive : (after.clients peer).keepAlive = keepAlive

/--
Without configured credentials the frame introduces a client if and only if
the peer is not connected yet and the time fits into one byte.
-/
theorem introduces_iff
    {receiver : World Index Os}
    {peer : ClientId}
    {broker : BrokerId}
    (fits :
      (introductionPacket keepAlive clientId).bytes.length ≤
        MqttMessage.maxBufferLength)
    (attached : (receiver.clients peer).parent = some broker)
    (noUser : (receiver.brokers broker).authUser.PointsTo [])
    (noPassword : (receiver.brokers broker).authPassword.PointsTo []) :
    Introduces receiver
        (receiver.processMessage peer
          (introductionPacket keepAlive clientId).message)
        peer clientId keepAlive ↔
      (receiver.clients peer).mqttConnected = false ∧ keepAlive < 256 := by
  have accepted :
      (fieldsOf (introduction keepAlive clientId)
        (receiver.brokers broker).authUser
        (receiver.brokers broker).authPassword).accepted = true := by
    have emptyUser := (isEmpty_iff noUser).mpr rfl
    have emptyPassword := (isEmpty_iff noPassword).mpr rfl
    simp [fieldsOf, introduction, passes, emptyUser, emptyPassword]
  cases connected : (receiver.clients peer).mqttConnected with
  | true =>
      refine iff_of_false ?_ (fun both => Bool.noConfusion both.1)
      intro introduces
      have isConnect :
          (introductionPacket keepAlive clientId).message.kind? =
            some .connect := by
        change
          MqttType.ofCode? ((MqttType.connect.code &&& 0xF0) &&& 0xF0) =
            some .connect
        decide
      have stillConnected := introduces.admits.connected
      simp [processMessage, processMessageWith, processKind, isConnect,
        processConnect, connected, finish_closing, clients_close_self]
        at stillConnected
  | false =>
      have admits := processMessage_connect fits attached connected
      rw [if_pos accepted] at admits
      obtain ⟨sameId, time⟩ :=
        record_processMessage_connect fits attached connected accepted
      rw [keepAlive_introduction] at time
      constructor
      · intro introduces
        refine ⟨rfl, ?_⟩
        have sameTime := time.symm.trans introduces.keepAlive
        omega
      · rintro ⟨_, small⟩
        exact ⟨admits, sameId, time.trans (Nat.mod_eq_of_lt small)⟩

variable {Index' Os' : Type} [Platform Os']

/--
The message that `connect` sends is received as one message, and introduces
the client to the peer that processes it.
-/
def ConnectRoundTrips
    (sender : World Index' Os')
    (client : ClientId)
    (ka : UInt16)
    (receiver : World Index Os)
    (peer : ClientId) : Prop :=
  ∃ sent after,
    sender.connectHost client ka.toNat true = some after ∧
      after.trace.messagesTo client =
          sender.trace.messagesTo client ++ [sent] ∧
      ∀ received : MqttMessage, received.IsReset →
        (sent.foldl MqttMessage.incoming received).state = .complete ∧
          Introduces receiver
            (receiver.processMessage peer
              (sent.foldl MqttMessage.incoming received))
            peer (sender.clients client).clientId ka.toNat

/-- The message that is sent decides alone. -/
theorem connectRoundTrips_iff_introduces
    {sender : World Index' Os'}
    {client : ClientId}
    {ka : UInt16}
    {receiver : World Index Os}
    {peer : ClientId}
    (fits :
      (introductionPacket ka.toNat
          (sender.clients client).clientId).bytes.length ≤
        MqttMessage.maxBufferLength) :
    ConnectRoundTrips sender client ka receiver peer ↔
      sender.dangling client = false ∧
        Introduces receiver
          (receiver.processMessage peer
            (introductionPacket ka.toNat
              (sender.clients client).clientId).message)
          peer (sender.clients client).clientId ka.toNat := by
  have sends := messagesTo_hosted sender client fits
  have received (message : MqttMessage) (isReset : message.IsReset) :=
    (reaches_introduction fits isReset).foldl_eq
  constructor
  · rintro ⟨sent, after, returned, isSent, arrives⟩
    have owned := owned_of_connectHost returned
    rw [eq_hosted returned] at isSent
    have sameMessage :=
      List.append_cancel_left (isSent.symm.trans sends)
    obtain ⟨rfl, _⟩ := List.cons.inj sameMessage
    have introduces := (arrives .fresh ⟨rfl, rfl, rfl⟩).2
    rw [received .fresh ⟨rfl, rfl, rfl⟩] at introduces
    exact ⟨owned, introduces⟩
  · rintro ⟨owned, introduces⟩
    refine ⟨_, _, connectHost_of_owned owned _ _, sends,
      fun message isReset => ?_⟩
    rw [received message isReset]
    exact ⟨rfl, introduces⟩

/--
The CONNECT message of a client comes through to an accepted client of a
broker without login if and only if its old `TcpClient` may be deleted, the
accepted client is not connected yet and the keep-alive time is below 256.
-/
theorem connect_round_trips_iff
    {sender : World Index' Os'}
    {client : ClientId}
    {ka : UInt16}
    {receiver : World Index Os}
    {peer : ClientId}
    {broker : BrokerId}
    (fits :
      (introductionPacket ka.toNat
          (sender.clients client).clientId).bytes.length ≤
        MqttMessage.maxBufferLength)
    (attached : (receiver.clients peer).parent = some broker)
    (noUser : (receiver.brokers broker).authUser.PointsTo [])
    (noPassword : (receiver.brokers broker).authPassword.PointsTo []) :
    ConnectRoundTrips sender client ka receiver peer ↔
      sender.dangling client = false ∧
        (receiver.clients peer).mqttConnected = false ∧ ka.toNat < 256 :=
  (connectRoundTrips_iff_introduces fits).trans
    (and_congr_right fun _ => introduces_iff fits attached noUser noPassword)

/-- A client that is not attached anywhere. -/
def introducer : World StringIndexer Script :=
  (Script.mk 0 [] [] []).setup.newClient none [0x61] 0

/-- The accepted peer of a broker without login. -/
def openRun : World StringIndexer Script :=
  acceptedRun.modifyBroker 0 fun record =>
    { record with authUser := .ofList [], authPassword := .ofList [] }

/-- Its frame fits, whatever the time. -/
theorem fits_introducer (keepAlive : Nat) :
    (introductionPacket keepAlive
        (introducer.clients 0).clientId).bytes.length ≤
      MqttMessage.maxBufferLength := by
  rw [introductionPacket_eq_built]
  apply MqttMessage.fits_builtPacket
  rw [length_introduction]
  decide

/-- The default time comes through. -/
theorem connect_round_trips_default :
    ConnectRoundTrips introducer 0 10 openRun 0 := by
  have noText : (CharPointer.ofList []).PointsTo [] :=
    CharPointer.pointsTo_ofList (by decide)
  have attached : (openRun.clients 0).parent = some 0 := by decide
  exact (connect_round_trips_iff (fits_introducer _) attached noText
    noText).mpr ⟨by decide, by decide, by decide⟩

/-- Five minutes arrive as 44 seconds. -/
theorem connect_not_round_trips_minutes :
    ((openRun.clients 0).Accepted ∧
      (openRun.clients 0).mqttConnected = false ∧
        (openRun.brokers 0).authUser.PointsTo [] ∧
          (openRun.brokers 0).authPassword.PointsTo []) ∧
      ¬ ConnectRoundTrips introducer 0 300 openRun 0 := by
  have noText : (CharPointer.ofList []).PointsTo [] :=
    CharPointer.pointsTo_ofList (by decide)
  have attached : (openRun.clients 0).parent = some 0 := by decide
  refine ⟨⟨⟨by decide, by decide⟩, by decide, noText, noText⟩, ?_⟩
  rw [connectRoundTrips_iff_introduces (fits_introducer _),
    introduces_iff (fits_introducer _) attached noText noText]
  rintro ⟨_, _, small⟩
  exact absurd small (by decide)

end World

end SimpleTlsBroker
