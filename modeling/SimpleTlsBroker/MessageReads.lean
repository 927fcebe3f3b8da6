import SimpleTlsBroker.Message

namespace SimpleTlsBroker

/-!
# Reading the bytes of a message

`processMessage` walks through a message with plain pointers.  A `Parse` is
such a walk: it sees memory as a function from offsets behind `&buffer[0]` to
bytes and records every offset it reads, so that the values read and the
places read are two projections of one definition.
-/

/-- A computation over message memory, with the offsets it reads. -/
def Parse (α : Type) : Type :=
  (Nat → Byte) → α × List Nat

namespace Parse

/-- The value computed from a memory. -/
def run
    (parse : Parse α)
    (memory : Nat → Byte) : α :=
  (parse memory).1

/-- The offsets read from a memory, in order. -/
def reads
    (parse : Parse α)
    (memory : Nat → Byte) : List Nat :=
  (parse memory).2

instance : Monad Parse where
  pure value := fun _ => (value, [])
  bind first next := fun memory =>
    ((next (first.run memory)).run memory,
      first.reads memory ++ (next (first.run memory)).reads memory)

@[simp] theorem run_pure
    (value : α)
    (memory : Nat → Byte) :
    (pure value : Parse α).run memory = value := rfl

@[simp] theorem reads_pure
    (value : α)
    (memory : Nat → Byte) :
    (pure value : Parse α).reads memory = [] := rfl

@[simp] theorem run_bind
    (first : Parse α)
    (next : α → Parse β)
    (memory : Nat → Byte) :
    (first >>= next).run memory =
      (next (first.run memory)).run memory := rfl

@[simp] theorem reads_bind
    (first : Parse α)
    (next : α → Parse β)
    (memory : Nat → Byte) :
    (first >>= next).reads memory =
      first.reads memory ++ (next (first.run memory)).reads memory := rfl

@[simp] theorem run_ite
    (condition : Prop)
    [Decidable condition]
    (first second : Parse α)
    (memory : Nat → Byte) :
    (if condition then first else second).run memory =
      if condition then first.run memory else second.run memory := by
  split <;> rfl

@[simp] theorem reads_ite
    (condition : Prop)
    [Decidable condition]
    (first second : Parse α)
    (memory : Nat → Byte) :
    (if condition then first else second).reads memory =
      if condition then first.reads memory else second.reads memory := by
  split <;> rfl

/-- Read one byte. -/
def readByte (offset : Nat) : Parse Byte :=
  fun memory => (memory offset, [offset])

/-- Read `length` bytes from `offset` on. -/
def readSlice (offset length : Nat) : Parse (List Byte) :=
  fun memory =>
    ((List.range length).map fun index => memory (offset + index),
      List.range' offset length)

@[simp] theorem run_readByte
    (offset : Nat)
    (memory : Nat → Byte) :
    (readByte offset).run memory = memory offset := rfl

@[simp] theorem reads_readByte
    (offset : Nat)
    (memory : Nat → Byte) :
    (readByte offset).reads memory = [offset] := rfl

@[simp] theorem run_readSlice
    (offset length : Nat)
    (memory : Nat → Byte) :
    (readSlice offset length).run memory =
      (List.range length).map fun index => memory (offset + index) := rfl

@[simp] theorem reads_readSlice
    (offset length : Nat)
    (memory : Nat → Byte) :
    (readSlice offset length).reads memory =
      List.range' offset length := rfl

/-- Two bytes, most significant first. -/
def readWord (offset : Nat) : Parse Nat := do
  let high ← readByte offset
  let low ← readByte (offset + 1)
  pure (high.toNat <<< 8 ||| low.toNat)

/--
`MqttMessage::getString`: the 16-bit length at the cursor, and the cursor
behind it.
-/
def getString (buff : Nat) : Parse (Nat × Nat) := do
  let len ← readWord buff
  pure (buff + 2, len)

/-- The result and the places read depend on the bytes read only. -/
def DependsOnReads (parse : Parse α) : Prop :=
  ∀ first second : Nat → Byte,
    (∀ offset ∈ parse.reads first, first offset = second offset) →
      parse.run first = parse.run second ∧
        parse.reads first = parse.reads second

theorem dependsOnReads_pure (value : α) :
    (pure value : Parse α).DependsOnReads :=
  fun _ _ _ => ⟨rfl, rfl⟩

theorem dependsOnReads_bind
    {parse : Parse α}
    {next : α → Parse β}
    (first : parse.DependsOnReads)
    (later : ∀ value, (next value).DependsOnReads) :
    (parse >>= next).DependsOnReads := by
  intro memory other agree
  simp only [reads_bind, List.mem_append] at agree
  obtain ⟨sameRun, sameReads⟩ :=
    first memory other fun offset member => agree offset (.inl member)
  have sameLater :=
    later (parse.run memory) memory other fun offset member =>
      agree offset (.inr member)
  simp only [run_bind, reads_bind]
  rw [← sameRun, ← sameReads]
  exact ⟨sameLater.1, by rw [sameLater.2]⟩

theorem dependsOnReads_readByte (offset : Nat) :
    (readByte offset).DependsOnReads := by
  intro memory other agree
  exact ⟨agree offset (by simp), rfl⟩

theorem dependsOnReads_readSlice (offset length : Nat) :
    (readSlice offset length).DependsOnReads := by
  intro memory other agree
  refine ⟨?_, rfl⟩
  simp only [run_readSlice]
  refine List.map_congr_left fun index member => agree _ ?_
  have inRange := List.mem_range.mp member
  simp only [reads_readSlice, List.mem_range'_1]
  omega

theorem dependsOnReads_getString (buff : Nat) :
    (getString buff).DependsOnReads :=
  dependsOnReads_bind
    (dependsOnReads_bind (dependsOnReads_readByte buff) fun _ =>
      dependsOnReads_bind (dependsOnReads_readByte (buff + 1)) fun _ =>
        dependsOnReads_pure _)
    fun _ => dependsOnReads_pure _

/-- `strncmp(text, &header[offset], text.length) == 0` for a `text` without NUL. -/
def startsWith : List Byte → Nat → Parse Bool
  | [], _ => pure true
  | expected :: rest, offset => do
      let found ← readByte offset
      if found = expected then
        startsWith rest (offset + 1)
      else
        pure false

end Parse

/-- Memory seen through a `const char*`, from the byte it points to on. -/
abbrev CharPointer := Nat → Byte

namespace CharPointer

/-- A NUL-terminated constant, followed by further NULs. -/
def ofList (text : List Byte) : CharPointer :=
  fun offset => text.getD offset 0

end CharPointer

namespace MqttBroker

/--
The loop of `MqttBroker::compareString`.  Both pointers advance also past the
first pair of different bytes; the result is where `good` points afterwards.
-/
def compareLoop
    (good : CharPointer) :
    (len goodOffset strOffset : Nat) → Parse Nat
  | 0, goodOffset, _ => pure goodOffset
  | len + 1, goodOffset, strOffset => do
      let byte ← Parse.readByte strOffset
      if good goodOffset = byte then
        compareLoop good len (goodOffset + 1) (strOffset + 1)
      else
        pure (goodOffset + 1)

/-- `MqttBroker::compareString`, whose parameter `len` has eight bits. -/
def compareString
    (good : CharPointer)
    (str len : Nat) : Parse Bool := do
  let goodOffset ← compareLoop good (len % 256) 0 str
  pure (good goodOffset = 0)

end MqttBroker

/-! ## The fields of a CONNECT message -/

namespace MqttClient

/-- `FlagUserName`, `FlagPassword` and `FlagWill`. -/
def flagUserName : Byte := 128
def flagPassword : Byte := 64
def flagWill : Byte := 4

/-- The outcome of one credential: the result of the check, if it was called. -/
structure CredentialCheck where
  result : Option Bool
  passed : Bool
  payload : Nat
  deriving Repr, DecidableEq

/--
One credential of the CONNECT payload.  A credential that the flags announce
is compared with `good`; without it the frame passes only if `other`, the
configured value of the other credential, is empty.
-/
def parseCredential
    (announced : Bool)
    (good other : CharPointer)
    (payload : Nat) : Parse CredentialCheck :=
  if announced then do
    let (payload, len) ← Parse.getString payload
    let same ← MqttBroker.compareString good payload len
    pure ⟨some same, same, payload + len⟩
  else
    pure ⟨none, other 0 = 0, payload⟩

/-- Skip will topic and will message, if the flags announce them. -/
def skipWill
    (announced : Bool)
    (payload : Nat) : Parse Nat :=
  if announced then do
    let (topic, topicLen) ← Parse.getString payload
    let (message, messageLen) ← Parse.getString (topic + topicLen)
    pure (message + messageLen)
  else
    pure payload

/-- What the CONNECT case of `processMessage` takes from a message. -/
structure ConnectFields where
  mqttFlags : Byte
  keepAlive : Nat
  clientId : Option (List Byte)
  user : Option Bool
  password : Option Bool
  accepted : Bool
  deriving Repr, DecidableEq

/-- The payload of a CONNECT message with an accepted variable header. -/
def parseConnectPayload
    (mqttFlags : Byte)
    (keepAlive : Nat)
    (authUser authPassword : CharPointer)
    (payload : Nat) : Parse ConnectFields := do
  let (payload, len) ← Parse.getString payload
  let clientId ← Parse.readSlice payload len
  let payload ← skipWill (mqttFlags &&& flagWill ≠ 0) (payload + len)
  let user ←
    parseCredential (mqttFlags &&& flagUserName ≠ 0)
      authUser authPassword payload
  if user.passed then
    let password ←
      parseCredential (mqttFlags &&& flagPassword ≠ 0)
        authPassword authUser user.payload
    pure ⟨mqttFlags, keepAlive, some clientId,
      user.result, password.result, password.passed⟩
  else
    pure ⟨mqttFlags, keepAlive, some clientId, user.result, none, false⟩

/-- The protocol name `"MQTT"`. -/
def protocolName : List Byte := [0x4D, 0x51, 0x54, 0x54]

/-- The CONNECT case of `processMessage`, from the variable header on. -/
def parseConnect
    (header : Nat)
    (authUser authPassword : CharPointer) : Parse ConnectFields := do
  let mqttFlags ← Parse.readByte (header + 7)
  let keepAlive ← Parse.readWord (header + 8)
  let named ← Parse.startsWith protocolName (header + 2)
  if named then
    let level ← Parse.readByte (header + 6)
    if level = 0x04 then
      parseConnectPayload mqttFlags keepAlive
        authUser authPassword (header + 10)
    else
      pure ⟨mqttFlags, keepAlive, none, none, none, false⟩
  else
    pure ⟨mqttFlags, keepAlive, none, none, none, false⟩

/-! ## The fields of PUBLISH, SUBSCRIBE and UNSUBSCRIBE messages -/

/-- What the PUBLISH case of `processMessage` takes from a message. -/
structure PublishFields where
  name : List Byte
  payload : List Byte
  deriving Repr, DecidableEq

/--
The PUBLISH case: any flag bit counts as a QoS.  The name is cut to the 8-bit
length of the `Topic` constructor, the payload length to 16 bits.
-/
def parsePublish
    (header endOffset : Nat)
    (flags : Byte) : Parse PublishFields := do
  let (payload, len) ← Parse.getString header
  let name ← Parse.readSlice payload (len % 256)
  let payload := if flags ≠ 0 then payload + len + 2 else payload + len
  let rest ←
    Parse.readSlice payload (((endOffset : Int) - payload) % 65536).toNat
  pure ⟨name, rest⟩

/-- The topic of the PUBLISH case. -/
def publishTopic (header : Nat) : Parse (List Byte) := do
  let (payload, len) ← Parse.getString header
  Parse.readSlice payload (len % 256)

/-- The PUBLISH case begins with its topic. -/
theorem name_parsePublish_eq
    (header endOffset : Nat)
    (flags : Byte)
    (memory : Nat → Byte) :
    ((parsePublish header endOffset flags).run memory).name =
      (publishTopic header).run memory := rfl

/-- The topic is read without looking elsewhere. -/
theorem dependsOnReads_publishTopic (header : Nat) :
    (publishTopic header).DependsOnReads :=
  Parse.dependsOnReads_bind (Parse.dependsOnReads_getString header) fun _ =>
    Parse.dependsOnReads_readSlice _ _

/-- A PUBLISH message is read without looking elsewhere. -/
theorem dependsOnReads_parsePublish
    (header endOffset : Nat)
    (flags : Byte) :
    (parsePublish header endOffset flags).DependsOnReads :=
  Parse.dependsOnReads_bind (Parse.dependsOnReads_getString header) fun _ =>
    Parse.dependsOnReads_bind (Parse.dependsOnReads_readSlice _ _) fun _ =>
      Parse.dependsOnReads_bind (Parse.dependsOnReads_readSlice _ _)
        fun _ => Parse.dependsOnReads_pure _

/--
The topic loop of SUBSCRIBE and UNSUBSCRIBE: the filters, each with the byte
behind it where the type has one, and the final cursor.  Every round moves
the cursor by at least two, which `fuel` bounds.
-/
def parseFilters
    (subscribe : Bool)
    (endOffset : Nat) :
    (fuel payload : Nat) → Parse (List (List Byte × Byte) × Nat)
  | 0, payload => pure ([], payload)
  | fuel + 1, payload =>
      if payload < endOffset then do
        let (payload, len) ← Parse.getString payload
        let name ← Parse.readSlice payload (len % 256)
        if subscribe then
          let qos ← Parse.readByte (payload + len)
          let (filters, final) ←
            parseFilters subscribe endOffset fuel (payload + len + 1)
          pure ((name, qos) :: filters, final)
        else
          let (filters, final) ←
            parseFilters subscribe endOffset fuel (payload + len)
          pure ((name, 0) :: filters, final)
      else
        pure ([], payload)

end MqttClient

end SimpleTlsBroker
