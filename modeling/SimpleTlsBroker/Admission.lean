import SimpleTlsBroker.Answers
import SimpleTlsBroker.Credentials
import SimpleTlsBroker.Frames
import SimpleTlsBroker.Scripts

namespace SimpleTlsBroker

/-!
# Admission

A CONNECT frame announces the credentials that it carries.  Without user name
the code looks whether a password is configured, and without password whether
a user name is: the two tests are exchanged.
-/

open Memory

namespace MqttBroker

/-- What `checkUser` and `checkPassword` decide for a text. -/
def checks
    (good : CharPointer)
    (text : List Byte) : Bool :=
  (compareString good 0 text.length).run (CharPointer.ofList text)

/-- The comparison looks at the text only, wherever it stands. -/
theorem run_compareLoop_congr
    {good memory other : CharPointer}
    {text : List Byte}
    {offset otherOffset : Nat}
    (holds : Holds memory offset text)
    (otherHolds : Holds other otherOffset text)
    {len : Nat}
    (inText : len ≤ text.length)
    (goodOffset : Nat) :
    (compareLoop good len goodOffset offset).run memory =
      (compareLoop good len goodOffset otherOffset).run other := by
  induction len generalizing text offset otherOffset goodOffset with
  | zero => rfl
  | succ len inductionHypothesis =>
      cases text with
      | nil => exact absurd inText (Nat.not_succ_le_zero len)
      | cons byte text =>
          rw [run_compareLoop_succ, run_compareLoop_succ, holds.1,
            otherHolds.1]
          split
          · exact inductionHypothesis holds.2 otherHolds.2
              (Nat.le_of_succ_le_succ inText) (goodOffset + 1)
          · rfl

/-- The check of a field is the check of its text. -/
theorem run_compareString_text
    {memory : CharPointer}
    {text : List Byte}
    {offset : Nat}
    (holds : Holds memory offset text)
    (good : CharPointer) :
    (compareString good offset text.length).run memory =
      checks good text := by
  have copied : Holds (CharPointer.ofList text) 0 text := by
    apply holds_of_getElem
    intro index inText
    simp [CharPointer.ofList, List.getD_eq_getElem?_getD, inText]
  have same :
      (compareLoop good (text.length % 256) 0 offset).run memory =
        (compareLoop good (text.length % 256) 0 0).run
          (CharPointer.ofList text) :=
    run_compareLoop_congr holds copied (Nat.mod_le text.length 256) 0
  simp only [checks, compareString, Parse.run_bind, Parse.run_pure, same]

end MqttBroker

/-! ## CONNECT frames -/

/-- The contents of a CONNECT frame; the flags announce what it carries. -/
structure Login where
  flags : Byte
  keepAlive : Byte × Byte
  clientId : List Byte
  will : Option (List Byte × List Byte)
  user : Option (List Byte)
  password : Option (List Byte)
  announcesWill : decide (flags &&& MqttClient.flagWill ≠ 0) = will.isSome
  announcesUser :
    decide (flags &&& MqttClient.flagUserName ≠ 0) = user.isSome
  announcesPassword :
    decide (flags &&& MqttClient.flagPassword ≠ 0) = password.isSome

namespace Login

/-- Will topic and will message. -/
def willField : Option (List Byte × List Byte) → List Byte
  | some (topic, message) => stringField topic ++ stringField message
  | none => []

/-- A user name or a password. -/
def credentialField : Option (List Byte) → List Byte
  | some text => stringField text
  | none => []

/-- What follows the variable header. -/
def payload (login : Login) : List Byte :=
  stringField login.clientId ++
    (willField login.will ++
      (credentialField login.user ++ credentialField login.password))

/-- The frame, with a given encoding of its length. -/
def packet
    (login : Login)
    (lengthBytes : List Byte) : Packet where
  first := MqttType.connect.code
  lengthBytes := lengthBytes
  body :=
    0x00 :: 0x04 ::
      (MqttClient.protocolName ++
        0x04 :: login.flags :: login.keepAlive.1 :: login.keepAlive.2 ::
          login.payload)

end Login

namespace MqttClient

variable {memory : Nat → Byte}
variable {payload : Nat}

/-- One byte of a `strncmp`. -/
theorem run_startsWith_cons
    (expected : Byte)
    (rest : List Byte)
    (offset : Nat)
    (memory : Nat → Byte) :
    (Parse.startsWith (expected :: rest) offset).run memory =
      if memory offset = expected then
        (Parse.startsWith rest (offset + 1)).run memory
      else
        false := by
  simp only [Parse.startsWith, Parse.run_bind, Parse.run_ite,
    Parse.run_pure]
  rfl

/-- A text that stands in memory is found there. -/
theorem run_startsWith
    {text : List Byte}
    {offset : Nat}
    (holds : Holds memory offset text) :
    (Parse.startsWith text offset).run memory = true := by
  induction text generalizing offset with
  | nil => rfl
  | cons byte rest inductionHypothesis =>
      rw [run_startsWith_cons, if_pos holds.1]
      exact inductionHypothesis holds.2

/-- The will is skipped. -/
theorem run_skipWill
    {will : Option (List Byte × List Byte)}
    (holds : Holds memory payload (Login.willField will))
    (short : (Login.willField will).length < 65536) :
    (skipWill will.isSome payload).run memory =
      payload + (Login.willField will).length := by
  cases will with
  | none => rfl
  | some fields =>
      obtain ⟨topic, message⟩ := fields
      simp only [Login.willField, List.length_append, length_stringField,
        holds_append] at holds short ⊢
      have next : payload + (topic.length + 2) = payload + 2 + topic.length :=
        by omega
      rw [next] at holds
      have topicField := Parse.run_getString holds.1 (by omega)
      have messageField := Parse.run_getString holds.2 (by omega)
      simp only [skipWill, Option.isSome_some, if_true, Parse.run_bind,
        Parse.run_pure, topicField, messageField]
      omega

/-- Does a credential pass, or its absence? -/
def passes
    (good other : CharPointer) : Option (List Byte) → Bool
  | some text => MqttBroker.checks good text
  | none => other 0 = 0

/-- One credential is checked, if it is announced. -/
theorem run_parseCredential
    {credential : Option (List Byte)}
    (holds : Holds memory payload (Login.credentialField credential))
    (short : (Login.credentialField credential).length < 65536)
    (good other : CharPointer) :
    (parseCredential credential.isSome good other payload).run memory =
      ⟨credential.map (MqttBroker.checks good), passes good other credential,
        payload + (Login.credentialField credential).length⟩ := by
  cases credential with
  | none => rfl
  | some text =>
      simp only [Login.credentialField, length_stringField] at holds short ⊢
      have field := Parse.run_getString holds (by omega)
      have checked :=
        MqttBroker.run_compareString_text (Parse.holds_text holds) good
      have next : payload + 2 + text.length = payload + (text.length + 2) := by
        omega
      simp only [parseCredential, Option.isSome_some, if_true,
        Parse.run_bind, Parse.run_pure, field, checked, next,
        Option.map_some, passes]

/-- What the CONNECT case takes from a frame. -/
def fieldsOf
    (login : Login)
    (authUser authPassword : CharPointer) : ConnectFields where
  mqttFlags := login.flags
  keepAlive := login.keepAlive.1.toNat <<< 8 ||| login.keepAlive.2.toNat
  clientId := some login.clientId
  user := login.user.map (MqttBroker.checks authUser)
  password :=
    if passes authUser authPassword login.user then
      login.password.map (MqttBroker.checks authPassword)
    else
      none
  accepted :=
    passes authUser authPassword login.user &&
      passes authPassword authUser login.password

/-- The payload behind an accepted variable header. -/
theorem run_parseConnectPayload
    {login : Login}
    (holds : Holds memory payload login.payload)
    (short : login.payload.length < 65536)
    (authUser authPassword : CharPointer) :
    (parseConnectPayload login.flags
        (login.keepAlive.1.toNat <<< 8 ||| login.keepAlive.2.toNat)
        authUser authPassword payload).run memory =
      fieldsOf login authUser authPassword := by
  simp only [Login.payload, List.length_append, length_stringField]
    at holds short
  rw [holds_append, holds_append, holds_append, length_stringField] at holds
  obtain ⟨clientId, will, user, password⟩ := holds
  have next :
      payload + (login.clientId.length + 2) =
        payload + 2 + login.clientId.length := by
    omega
  rw [next] at will user password
  have idField := Parse.run_getString clientId (by omega)
  have isId := Parse.run_readSlice_text (Parse.holds_text clientId)
  have skipped := run_skipWill will (by omega)
  have userField := run_parseCredential user (by omega) authUser authPassword
  have passwordField :=
    run_parseCredential password (by omega) authPassword authUser
  simp only [parseConnectPayload, Parse.run_bind, idField, isId,
    login.announcesWill, skipped, login.announcesUser, userField]
  cases passed : passes authUser authPassword login.user with
  | false => simp [fieldsOf, passed]
  | true =>
      simp [fieldsOf, passed, login.announcesPassword, passwordField]

/-- The whole CONNECT case. -/
theorem run_parseConnect
    {header : Nat}
    {login : Login}
    {lengthBytes : List Byte}
    (holds : Holds memory header (login.packet lengthBytes).body)
    (short : (login.packet lengthBytes).body.length < 65536)
    (authUser authPassword : CharPointer) :
    (parseConnect header authUser authPassword).run memory =
      fieldsOf login authUser authPassword := by
  obtain ⟨_, _, holds⟩ := holds
  rw [holds_append] at holds
  obtain ⟨name, level, flags, high, low, payload⟩ := holds
  have named : (Parse.startsWith protocolName (header + 2)).run memory = true :=
    run_startsWith name
  have isLevel : memory (header + 6) = 0x04 := level
  have isFlags : memory (header + 7) = login.flags := flags
  have isHigh : memory (header + 8) = login.keepAlive.1 := high
  have isLow : memory (header + 8 + 1) = login.keepAlive.2 := low
  have shortPayload : login.payload.length < 65536 := by
    simp only [Login.packet, List.length_cons, List.length_append] at short
    omega
  have payloadFields :=
    run_parseConnectPayload payload shortPayload authUser authPassword
  simp only [parseConnect, Parse.readWord, Parse.run_bind, Parse.run_pure,
    named, isHigh, isLow, isFlags, isLevel, Parse.run_readByte, if_true]
  exact payloadFields

end MqttClient

/-! ## The decision -/

namespace World

open MqttClient

variable {Index Os : Type} [Platform Os]
variable {world : World Index Os}
variable {login : Login}
variable {lengthBytes : List Byte}
variable {client : ClientId}
variable {broker : BrokerId}

/-- The client became connected, and the answer was one CONNACK message. -/
structure Admits
    (before after : World Index Os)
    (client : ClientId) : Prop where
  connected : (after.clients client).mqttConnected = true
  answer :
    after.trace.messagesTo client =
      before.trace.messagesTo client ++
        [[MqttType.connAck.code, 0x02, 0x00, 0x00]]

/-- The client was closed without an answer. -/
structure Rejects
    (before after : World Index Os)
    (client : ClientId) : Prop where
  closed : .closed client ∈ after.trace
  detached : (after.clients client).parent = none
  unconnected : (after.clients client).mqttConnected = false
  silent :
    after.trace.messagesTo client = before.trace.messagesTo client

variable [Indexer Index]

/-- The answer to an accepted CONNECT message, with its length. -/
theorem encoded_connAck :
    (((MqttMessage.ofType MqttType.connAck.code 0).add 0).add
        0).encoded.buffer =
      [MqttType.connAck.code, 0x02, 0x00, 0x00] := rfl

/-- What the CONNECT case has taken from a frame before it decides. -/
def readLogin
    (world : World Index Os)
    (client : ClientId)
    (mesg : MqttMessage)
    (fields : ConnectFields) : World Index Os :=
  ((world.log (.processed client mesg)).modifyClient client fun record =>
      { record with
        mqttFlags := fields.mqttFlags
        keepAlive := fields.keepAlive
        clientId := fields.clientId.getD record.clientId }).log
    (.credentials client fields.user fields.password)

/-- A CONNECT frame is read, and then its sender is connected or closed. -/
theorem processMessage_packet
    (fits :
      (login.packet lengthBytes).bytes.length ≤ MqttMessage.maxBufferLength)
    (attached : (world.clients client).parent = some broker)
    (unconnected : (world.clients client).mqttConnected = false) :
    let fields :=
      fieldsOf login (world.brokers broker).authUser
        (world.brokers broker).authPassword
    let read :=
      world.readLogin client (login.packet lengthBytes).message fields
    world.processMessage client (login.packet lengthBytes).message =
      finish client
        (if fields.accepted then
          (false,
            (read.modifyClient client fun record =>
                { record with mqttConnected := true }).sendOwn
              (((MqttMessage.ofType MqttType.connAck.code 0).add 0).add 0)
              client)
        else
          (true, read)) := by
  have holds := Packet.holds_body world (login.packet lengthBytes)
  have short : (login.packet lengthBytes).body.length < 65536 := by
    rw [Packet.length_bytes, MqttMessage.maxBufferLength] at fits
    omega
  have fields :=
    run_parseConnect holds short (world.brokers broker).authUser
      (world.brokers broker).authPassword
  have isConnect :
      (login.packet lengthBytes).message.kind? = some .connect := by
    change
      MqttType.ofCode? ((MqttType.connect.code &&& 0xF0) &&& 0xF0) =
        some .connect
    decide
  generalize (login.packet lengthBytes).message = mesg at *
  have sameMemory :
      (world.log (.processed client mesg)).memory mesg =
        world.memory mesg := rfl
  simp only [processMessage, processMessageWith, processKind, isConnect,
    processConnect, clients_log, brokers_log, unconnected, attached,
    sameMemory, fields, readLogin]

/-- The outcome of a CONNECT frame is that of the two credentials. -/
theorem processMessage_connect
    (fits :
      (login.packet lengthBytes).bytes.length ≤ MqttMessage.maxBufferLength)
    (attached : (world.clients client).parent = some broker)
    (unconnected : (world.clients client).mqttConnected = false) :
    if (fieldsOf login (world.brokers broker).authUser
        (world.brokers broker).authPassword).accepted then
      Admits world
        (world.processMessage client (login.packet lengthBytes).message)
        client
    else
      Rejects world
        (world.processMessage client (login.packet lengthBytes).message)
        client := by
  rw [processMessage_packet fits attached unconnected]
  -- Both the outcome and the program branch on the same verdict.
  split
  · refine ⟨?_, ?_⟩
    · rw [(finish_open client _).2.2.1]
      simp
    · rw [(finish_open client _).1, messagesTo_sendOwn _ _ _ (by decide),
        encoded_connAck]
      rfl
  · rw [finish_closing]
    refine ⟨(trace_close _ client).2, ?_, ?_, ?_⟩
    · rw [clients_close_self]
    · rw [clients_close_self]
    · rw [messagesTo_close]
      rfl

end World

namespace Login

/--
Every configured credential is present, and every credential that is present
is the configured one; the empty text stands for none.
-/
structure Permitted
    (login : Login)
    (user password : List Byte) : Prop where
  userPresent : user ≠ [] → login.user = some user
  passwordPresent : password ≠ [] → login.password = some password
  userRight : ∀ text ∈ login.user, text = user
  passwordRight : ∀ text ∈ login.password, text = password

/--
The exchanged tests make no difference: both credentials are configured or
none, or both are present or none, or one that is present is wrong.
-/
def FallbackAgrees
    (login : Login)
    (user password : List Byte) : Prop :=
  (user = [] ↔ password = []) ∨
    login.user.isSome = login.password.isSome ∨
      (∃ text ∈ login.user, text ≠ user) ∨
        ∃ text ∈ login.password, text ≠ password

end Login

namespace MqttClient

variable {good other : CharPointer}
variable {text otherText : List Byte}

/-- The first character is NUL for the empty text only. -/
theorem isEmpty_iff
    (pointsTo : good.PointsTo text) :
    good 0 = 0 ↔ text = [] := by
  obtain ⟨holds, noNul⟩ := pointsTo
  cases text with
  | nil => exact ⟨fun _ => rfl, fun _ => holds.1⟩
  | cons byte rest =>
      constructor
      · intro isNul
        have isByte : good 0 = byte := holds.1
        rw [isNul] at isByte
        exact absurd (isByte ▸ List.mem_cons_self) noNul
      · intro isEmpty
        contradiction

/-- A credential passes if it is right, or absent while the other is empty. -/
theorem passes_iff
    (pointsTo : other.PointsTo otherText)
    {credential : Option (List Byte)}
    (exact :
      ∀ received ∈ credential,
        MqttBroker.checks good received = true ↔ received = text) :
    passes good other credential = true ↔
      (∀ received ∈ credential, received = text) ∧
        (credential = none → otherText = []) := by
  cases credential with
  | none => simp [passes, isEmpty_iff pointsTo]
  | some received =>
      have isExact := exact received rfl
      simp [passes, isExact]

/-- A right credential is there, unless nothing is configured. -/
theorem present_iff
    {credential : Option (List Byte)}
    (right : ∀ received ∈ credential, received = text) :
    (text ≠ [] → credential = some text) ↔
      (credential = none → text = []) := by
  cases credential with
  | none => simp
  | some received => simp [right received rfl]

/-- Two exchanged tests agree if both tests or both conditions do. -/
theorem exchanged_iff
    {noUser noPassword userAbsent passwordAbsent : Prop} :
    ((userAbsent → noPassword) ∧ (passwordAbsent → noUser) ↔
        (userAbsent → noUser) ∧ (passwordAbsent → noPassword)) ↔
      (noUser ↔ noPassword) ∨ (userAbsent ↔ passwordAbsent) := by
  by_cases absentUser : userAbsent
  · by_cases absentPassword : passwordAbsent
    · simp [absentUser, absentPassword, and_comm]
    · simp [absentUser, absentPassword, iff_comm]
  · by_cases absentPassword : passwordAbsent
    · simp [absentUser, absentPassword]
    · simp [absentUser, absentPassword]

/-- They do not matter when one of two other tests fails. -/
theorem exchanged_beside_iff
    {userRight passwordRight noUser noPassword userAbsent passwordAbsent :
      Prop} :
    ((userRight ∧ (userAbsent → noPassword)) ∧
          passwordRight ∧ (passwordAbsent → noUser) ↔
        (userRight ∧ (userAbsent → noUser)) ∧
          passwordRight ∧ (passwordAbsent → noPassword)) ↔
      (noUser ↔ noPassword) ∨ (userAbsent ↔ passwordAbsent) ∨
        ¬ userRight ∨ ¬ passwordRight := by
  by_cases right : userRight
  · by_cases right' : passwordRight
    · simpa [right, right'] using exchanged_iff
    · simp [right']
  · simp [right]

/-- When the verdict of the code is the one that is due. -/
theorem accepted_iff_permitted_iff
    {login : Login}
    {user password : List Byte}
    {authUser authPassword : CharPointer}
    (pointsToUser : authUser.PointsTo user)
    (pointsToPassword : authPassword.PointsTo password)
    (exactUser :
      ∀ text ∈ login.user,
        MqttBroker.checks authUser text = true ↔ text = user)
    (exactPassword :
      ∀ text ∈ login.password,
        MqttBroker.checks authPassword text = true ↔ text = password) :
    ((fieldsOf login authUser authPassword).accepted = true ↔
        login.Permitted user password) ↔
      login.FallbackAgrees user password := by
  have userPasses := passes_iff pointsToPassword exactUser
  have passwordPasses := passes_iff pointsToUser exactPassword
  have accepted :
      (fieldsOf login authUser authPassword).accepted = true ↔
        ((∀ text ∈ login.user, text = user) ∧
            (login.user = none → password = [])) ∧
          (∀ text ∈ login.password, text = password) ∧
            (login.password = none → user = []) := by
    rw [fieldsOf, Bool.and_eq_true_iff, userPasses, passwordPasses]
  have permitted :
      login.Permitted user password ↔
        ((∀ text ∈ login.user, text = user) ∧
            (login.user = none → user = [])) ∧
          (∀ text ∈ login.password, text = password) ∧
            (login.password = none → password = []) := by
    constructor
    · intro permits
      exact ⟨⟨permits.userRight,
          (present_iff permits.userRight).mp permits.userPresent⟩,
        permits.passwordRight,
        (present_iff permits.passwordRight).mp permits.passwordPresent⟩
    · rintro ⟨⟨userRight, userPresent⟩, passwordRight, passwordPresent⟩
      exact ⟨(present_iff userRight).mpr userPresent,
        (present_iff passwordRight).mpr passwordPresent,
        userRight, passwordRight⟩
  have agrees :
      login.FallbackAgrees user password ↔
        (user = [] ↔ password = []) ∨
          (login.user = none ↔ login.password = none) ∨
            ¬ (∀ text ∈ login.user, text = user) ∨
              ¬ ∀ text ∈ login.password, text = password := by
    unfold Login.FallbackAgrees
    push Not
    cases login.user <;> cases login.password <;> simp
  rw [accepted, permitted, agrees]
  exact exchanged_beside_iff

end MqttClient

namespace World

open MqttClient

variable {Index Os : Type} [Platform Os] [Indexer Index]
variable {world : World Index Os}
variable {login : Login}
variable {lengthBytes : List Byte}
variable {client : ClientId}
variable {broker : BrokerId}

/-- Exactly the permitted clients are admitted, and the others are closed. -/
structure AdmitsExactly
    (before after : World Index Os)
    (client : ClientId)
    (login : Login)
    (user password : List Byte) : Prop where
  admits : Admits before after client ↔ login.Permitted user password
  rejects : ¬ login.Permitted user password → Rejects before after client

/--
With exact checks of the two credentials, a CONNECT frame is decided as
configured if and only if the exchanged tests make no difference to it.
-/
theorem admission_iff
    {user password : List Byte}
    (fits :
      (login.packet lengthBytes).bytes.length ≤ MqttMessage.maxBufferLength)
    (attached : (world.clients client).parent = some broker)
    (unconnected : (world.clients client).mqttConnected = false)
    (pointsToUser : (world.brokers broker).authUser.PointsTo user)
    (pointsToPassword :
      (world.brokers broker).authPassword.PointsTo password)
    (exactUser :
      ∀ text ∈ login.user,
        MqttBroker.checks (world.brokers broker).authUser text = true ↔
          text = user)
    (exactPassword :
      ∀ text ∈ login.password,
        MqttBroker.checks (world.brokers broker).authPassword text = true ↔
          text = password) :
    AdmitsExactly world
        (world.processMessage client (login.packet lengthBytes).message)
        client login user password ↔
      login.FallbackAgrees user password := by
  have outcome := processMessage_connect fits attached unconnected
  rw [← accepted_iff_permitted_iff pointsToUser pointsToPassword exactUser
    exactPassword]
  by_cases accepted :
      (fieldsOf login (world.brokers broker).authUser
        (world.brokers broker).authPassword).accepted = true
  · rw [if_pos accepted] at outcome
    constructor
    · intro exactly
      exact ⟨fun _ => exactly.admits.mp outcome, fun _ => accepted⟩
    · intro agrees
      have permitted := agrees.mp accepted
      exact ⟨⟨fun _ => permitted, fun _ => outcome⟩,
        fun denied => absurd permitted denied⟩
  · rw [if_neg accepted] at outcome
    have notAdmitted :
        ¬ Admits world
          (world.processMessage client (login.packet lengthBytes).message)
          client := by
      intro admits
      have connected := admits.connected
      rw [outcome.unconnected] at connected
      contradiction
    constructor
    · intro exactly
      exact ⟨fun isAccepted => absurd isAccepted accepted,
        fun permitted => absurd (exactly.admits.mpr permitted) notAdmitted⟩
    · intro agrees
      exact ⟨⟨fun admits => absurd admits notAdmitted,
        fun permitted => absurd (agrees.mpr permitted) accepted⟩,
        fun _ => outcome⟩

/-- A peer was accepted by a broker with the login `"u"`, `"p"`. -/
def acceptedRun : World StringIndexer Script :=
  performAll 0 always [.accept]
    (Script.setup
      { clock := 0, connections := [5], receipts := [], sendResults := [] })

/-- A frame with user name `"u"` and password `"p"`. -/
def fullLogin : Login where
  flags := 0xC2
  keepAlive := (0x00, 0x3C)
  clientId := [0x61]
  will := none
  user := some [0x75]
  password := some [0x70]
  announcesWill := by decide
  announcesUser := by decide
  announcesPassword := by decide

/-- Both credentials are right, and the peer is admitted. -/
theorem admission_full :
    AdmitsExactly acceptedRun
      (acceptedRun.processMessage 0 (fullLogin.packet [0x13]).message) 0
      fullLogin [0x75] [0x70] := by
  have attached : (acceptedRun.clients 0).parent = some 0 := by decide
  have pointsToUser :
      (acceptedRun.brokers 0).authUser.PointsTo [0x75] :=
    CharPointer.pointsTo_ofList (by decide)
  have pointsToPassword :
      (acceptedRun.brokers 0).authPassword.PointsTo [0x70] :=
    CharPointer.pointsTo_ofList (by decide)
  exact (admission_iff (by decide) attached (by decide) pointsToUser
    pointsToPassword (by decide) (by decide)).mpr (.inl (by decide))

/-- The same broker after `setlogin("u", "")`. -/
def userOnlyRun : World StringIndexer Script :=
  acceptedRun.modifyBroker 0 fun record =>
    { record with authPassword := .ofList [] }

/-- A frame with user name `"u"` and no password. -/
def userLogin : Login where
  flags := 0x82
  keepAlive := (0x00, 0x3C)
  clientId := [0x61]
  will := none
  user := some [0x75]
  password := none
  announcesWill := by decide
  announcesUser := by decide
  announcesPassword := by decide

/-- The only credential is configured, present and right, and not enough. -/
theorem admission_user_only :
    ((userOnlyRun.clients 0).Accepted ∧
      (userOnlyRun.clients 0).mqttConnected = false ∧
        (userOnlyRun.brokers 0).authUser.PointsTo [0x75] ∧
          (userOnlyRun.brokers 0).authPassword.PointsTo [] ∧
            MqttBroker.checks (userOnlyRun.brokers 0).authUser [0x75] =
              true) ∧
      userLogin.Permitted [0x75] [] ∧
        ¬ AdmitsExactly userOnlyRun
          (userOnlyRun.processMessage 0 (userLogin.packet [0x10]).message) 0
          userLogin [0x75] [] := by
  have permitted : userLogin.Permitted [0x75] [] :=
    ⟨by decide, by decide, by decide, by decide⟩
  have accepted : (userOnlyRun.clients 0).Accepted :=
    ⟨by decide, by decide⟩
  have pointsToUser : (userOnlyRun.brokers 0).authUser.PointsTo [0x75] :=
    @CharPointer.pointsTo_ofList [0x75] (by decide)
  have pointsToPassword : (userOnlyRun.brokers 0).authPassword.PointsTo [] :=
    @CharPointer.pointsTo_ofList [] (by decide)
  refine ⟨⟨accepted, by decide, pointsToUser, pointsToPassword, by decide⟩,
    permitted, ?_⟩
  intro exactly
  exact absurd (exactly.admits.mpr permitted).connected (by decide)

end World

end SimpleTlsBroker
