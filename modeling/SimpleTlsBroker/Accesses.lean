import SimpleTlsBroker.Admission

namespace SimpleTlsBroker

/-!
# Accesses inside a message

`processMessage` tests no length before it reads.  For each of its readers this
module says which bodies keep it inside the message: a condition on the bytes
of the body, in their order, that follows the lengths they declare.
-/

open Memory

/-! ## Conditions on a body -/

/-- Two bytes, most significant first. -/
def word (high low : Byte) : Nat :=
  high.toNat <<< 8 ||| low.toNat

/-- A length stands in front, and a condition holds of what follows it. -/
def Prefixed
    (condition : Nat → List Byte → Prop) : List Byte → Prop
  | high :: low :: rest => condition (word high low) rest
  | _ => False

namespace Parse

variable {memory : Nat → Byte}
variable {start ending cursor : Nat}
variable {rest : List Byte}

instance : LawfulMonad Parse :=
  LawfulMonad.mk' Parse
    (fun _ => funext fun _ => Prod.ext rfl (List.append_nil _))
    (fun _ _ => rfl)
    (fun _ _ _ => funext fun _ => Prod.ext rfl (List.append_assoc _ _ _))

/-- All reads are between two offsets. -/
def Inside
    (start ending : Nat)
    (memory : Nat → Byte)
    (parse : Parse α) : Prop :=
  ∀ offset ∈ parse.reads memory, start ≤ offset ∧ offset < ending

@[simp] theorem inside_pure (value : α) :
    Inside start ending memory (pure value : Parse α) := by
  intro offset member
  exact absurd member List.not_mem_nil

/-- Both parts of a walk have to stay inside. -/
@[simp] theorem inside_bind
    {first : Parse α}
    {next : α → Parse β} :
    Inside start ending memory (first >>= next) ↔
      Inside start ending memory first ∧
        Inside start ending memory (next (first.run memory)) := by
  simp only [Inside, reads_bind, List.forall_mem_append]

/-- Two walks that begin alike, of which the second goes on to read more. -/
theorem reads_bind_subset
    {first : Parse α}
    {next : α → Parse β}
    {other : α → Parse γ}
    (later :
      ∀ value, (next value).reads memory ⊆ (other value).reads memory) :
    (first >>= next).reads memory ⊆ (first >>= other).reads memory := by
  rw [reads_bind, reads_bind]
  apply List.append_subset.mpr
  exact ⟨List.subset_append_left _ _,
    List.subset_append_of_subset_right _ (later _)⟩

/-- One byte. -/
theorem inside_readByte
    (behind : start ≤ cursor) :
    Inside start ending memory (readByte cursor) ↔ cursor < ending := by
  simp [Inside, behind]

/-- A length. -/
theorem inside_readWord
    (behind : start ≤ cursor) :
    Inside start ending memory (readWord cursor) ↔ cursor + 2 ≤ ending := by
  rw [readWord, inside_bind, inside_bind, inside_readByte behind,
    inside_readByte (Nat.le_succ_of_le behind)]
  constructor
  · rintro ⟨_, second, _⟩
    exact second
  · intro both
    exact ⟨by omega, both, inside_pure _⟩

/-- A slice, as long as what is left. -/
theorem inside_readSlice
    (stands : Rest memory cursor ending rest)
    (behind : start ≤ cursor)
    (length : Nat) :
    Inside start ending memory (readSlice cursor length) ↔
      length ≤ rest.length := by
  rw [stands.length]
  simp only [Inside, reads_readSlice, List.mem_range'_1]
  constructor
  · intro inside
    by_cases empty : length = 0
    · omega
    · have last := inside (cursor + (length - 1)) (by omega)
      omega
  · intro fits offset inSlice
    omega

/-- A length, and a walk that starts behind it. -/
theorem inside_getString_bind
    (stands : Rest memory cursor ending rest)
    (behind : start ≤ cursor)
    {next : Nat × Nat → Parse α}
    {condition : Nat → List Byte → Prop}
    (later :
      ∀ len text, Rest memory (cursor + 2) ending text →
        (Inside start ending memory (next (cursor + 2, len)) ↔
          condition len text)) :
    Inside start ending memory (getString cursor >>= next) ↔
      Prefixed condition rest := by
  rw [inside_bind, getString, inside_bind, inside_readWord behind]
  have length := stands.length
  cases rest with
  | nil =>
      apply iff_of_false _ id
      rintro ⟨⟨tooMuch, _⟩, _⟩
      rw [List.length_nil] at length
      omega
  | cons high rest =>
      cases rest with
      | nil =>
          apply iff_of_false _ id
          rintro ⟨⟨tooMuch, _⟩, _⟩
          rw [List.length_singleton] at length
          omega
      | cons low text =>
          have isHigh : memory cursor = high := stands.holds.1
          have isLow : memory (cursor + 1) = low := stands.holds.2.1
          have same := later (word high low) text (stands.drop 2)
          simp only [List.length_cons] at length
          simp only [readWord, run_bind, run_pure, run_readByte, isHigh, isLow]
          constructor
          · intro inside
            exact same.mp inside.2
          · intro fits
            exact ⟨⟨by omega, inside_pure _⟩, same.mpr fits⟩

/-- The bytes that a `strncmp` compares. -/
theorem reads_startsWith
    (text : List Byte)
    (cursor : Nat)
    (memory : Nat → Byte) :
    ∀ offset ∈ (startsWith text cursor).reads memory,
      cursor ≤ offset ∧ offset < cursor + text.length := by
  induction text generalizing cursor with
  | nil =>
      intro offset member
      exact absurd member List.not_mem_nil
  | cons expected text inductionHypothesis =>
      intro offset member
      have reads :
          (startsWith (expected :: text) cursor).reads memory =
            cursor ::
              if memory cursor = expected then
                (startsWith text (cursor + 1)).reads memory
              else
                [] := by
        simp only [startsWith, reads_bind, reads_ite, reads_pure]
        rfl
      rw [reads, List.mem_cons] at member
      rw [List.length_cons]
      rcases member with rfl | later
      · omega
      · split at later
        · have inside := inductionHypothesis (cursor + 1) offset later
          omega
        · exact absurd later List.not_mem_nil

/-- A `strncmp` stays inside if its text would. -/
theorem inside_startsWith
    {text : List Byte}
    (behind : start ≤ cursor)
    (fits : cursor + text.length ≤ ending) :
    Inside start ending memory (startsWith text cursor) := by
  intro offset member
  have compared := reads_startsWith text cursor memory offset member
  omega

/-- The `strncmp` succeeds where the text stands. -/
theorem run_startsWith_iff
    {text rest : List Byte}
    (holds : Holds memory cursor rest)
    (fits : text.length ≤ rest.length) :
    (startsWith text cursor).run memory = true ↔
      rest.take text.length = text := by
  induction text generalizing cursor rest with
  | nil => simp [startsWith]
  | cons expected text inductionHypothesis =>
      cases rest with
      | nil => exact absurd fits (Nat.not_succ_le_zero text.length)
      | cons byte rest =>
          obtain ⟨isByte, later⟩ := holds
          rw [MqttClient.run_startsWith_cons, isByte, List.length_cons,
            List.take_succ_cons, List.cons.injEq]
          by_cases same : byte = expected
          · rw [if_pos same,
              inductionHypothesis later (Nat.le_of_succ_le_succ fits)]
            simp [same]
          · rw [if_neg same]
            simp [same]

end Parse

/-! ## The readers -/

namespace MqttClient

variable {memory : Nat → Byte}
variable {start ending cursor : Nat}
variable {rest : List Byte}

/-- A will: both lengths are read, and the two texts are skipped. -/
def WillFits
    (announced : Bool)
    (condition : List Byte → Prop)
    (rest : List Byte) : Prop :=
  if announced then
    Prefixed
      (fun topicLen text =>
        Prefixed
          (fun messageLen text => condition (text.drop messageLen))
          (text.drop topicLen))
      rest
  else
    condition rest

theorem inside_skipWill_bind
    (stands : Rest memory cursor ending rest)
    (behind : start ≤ cursor)
    (announced : Bool)
    {next : Nat → Parse α}
    {condition : List Byte → Prop}
    (later :
      ∀ payload text, start ≤ payload → Rest memory payload ending text →
        (Parse.Inside start ending memory (next payload) ↔
          condition text)) :
    Parse.Inside start ending memory (skipWill announced cursor >>= next) ↔
      WillFits announced condition rest := by
  cases announced with
  | false =>
      have same := later cursor rest behind stands
      simpa [skipWill, WillFits] using same
  | true =>
      simp only [skipWill, if_true, bind_assoc, pure_bind]
      rw [WillFits, if_pos rfl]
      apply Parse.inside_getString_bind stands behind
      intro topicLen topic isTopic
      apply Parse.inside_getString_bind (isTopic.drop topicLen) (by omega)
      intro messageLen message isMessage
      exact later _ _ (by omega) (isMessage.drop messageLen)

/-- `parseCredential`, with an access to the whole slice that it compares. -/
def sliceCredential
    (announced : Bool)
    (good other : CharPointer)
    (payload : Nat) : Parse CredentialCheck :=
  if announced then do
    let (payload, len) ← Parse.getString payload
    let text ← Parse.readSlice payload (len % 256)
    pure ⟨some (MqttBroker.checks good text),
      MqttBroker.checks good text, payload + len⟩
  else
    pure ⟨none, other 0 = 0, payload⟩

/-- The comparison of a slice, by its text. -/
theorem run_compareString_slice
    (good : CharPointer)
    (payload len : Nat)
    (memory : Nat → Byte) :
    (MqttBroker.compareString good payload len).run memory =
      MqttBroker.checks good
        ((Parse.readSlice payload (len % 256)).run memory) := by
  have stands :
      Holds memory payload
        ((Parse.readSlice payload (len % 256)).run memory) :=
    holds_map_range memory payload (len % 256)
  have length :
      ((Parse.readSlice payload (len % 256)).run memory).length =
        len % 256 := by
    simp
  have sameLength :
      MqttBroker.compareString good payload
          ((Parse.readSlice payload (len % 256)).run memory).length =
        MqttBroker.compareString good payload len := by
    rw [length]
    simp only [MqttBroker.compareString, Nat.mod_mod]
  rw [← sameLength]
  exact MqttBroker.run_compareString_text stands good

/-- The slices make no difference to the outcome. -/
theorem run_sliceCredential
    (announced : Bool)
    (good other : CharPointer)
    (payload : Nat)
    (memory : Nat → Byte) :
    (sliceCredential announced good other payload).run memory =
      (parseCredential announced good other payload).run memory := by
  cases announced with
  | false => rfl
  | true =>
      simp only [sliceCredential, parseCredential, if_true, Parse.run_bind,
        Parse.run_pure, run_compareString_slice]

/-- The bytes that a comparison reads. -/
theorem reads_compareLoop
    (good : CharPointer)
    (len goodOffset strOffset : Nat)
    (memory : Nat → Byte) :
    ∀ offset ∈ (MqttBroker.compareLoop good len goodOffset strOffset).reads
        memory,
      strOffset ≤ offset ∧ offset < strOffset + len := by
  induction len generalizing goodOffset strOffset with
  | zero =>
      intro offset member
      exact absurd member List.not_mem_nil
  | succ len inductionHypothesis =>
      intro offset member
      have reads :
          (MqttBroker.compareLoop good (len + 1) goodOffset
              strOffset).reads memory =
            strOffset ::
              if good goodOffset = memory strOffset then
                (MqttBroker.compareLoop good len (goodOffset + 1)
                  (strOffset + 1)).reads memory
              else
                [] := by
        simp only [MqttBroker.compareLoop, Parse.reads_bind,
          Parse.reads_ite, Parse.reads_pure]
        rfl
      rw [reads, List.mem_cons] at member
      rcases member with rfl | later
      · omega
      · split at later
        · have inside :=
            inductionHypothesis (goodOffset + 1) (strOffset + 1) offset later
          omega
        · exact absurd later List.not_mem_nil

/-- Every byte that a check reads belongs to the slice. -/
theorem reads_parseCredential
    (announced : Bool)
    (good other : CharPointer)
    (payload : Nat)
    (memory : Nat → Byte) :
    (parseCredential announced good other payload).reads memory ⊆
      (sliceCredential announced good other payload).reads memory := by
  cases announced with
  | false => exact List.Subset.refl _
  | true =>
      simp only [sliceCredential, parseCredential, if_true,
        Parse.reads_bind, Parse.reads_pure, MqttBroker.compareString,
        List.append_nil]
      apply List.append_subset.mpr
      refine ⟨List.subset_append_left _ _, ?_⟩
      apply List.subset_append_of_subset_right
      intro offset member
      have inSlice := reads_compareLoop _ _ _ _ _ offset member
      simpa [List.mem_range'_1] using inSlice

/-- A credential: the slice that is checked, and what follows if it passes. -/
def CredentialFits
    (announced : Bool)
    (good other : CharPointer)
    (condition : List Byte → Prop)
    (rest : List Byte) : Prop :=
  if announced then
    Prefixed
      (fun len text =>
        len % 256 ≤ text.length ∧
          (MqttBroker.checks good (text.take (len % 256)) = true →
            condition (text.drop len)))
      rest
  else
    other 0 = 0 → condition rest

theorem inside_sliceCredential_bind
    (stands : Rest memory cursor ending rest)
    (behind : start ≤ cursor)
    (announced : Bool)
    (good other : CharPointer)
    {next : CredentialCheck → Parse α}
    {condition : List Byte → Prop}
    (later :
      ∀ check text, start ≤ check.payload →
        Rest memory check.payload ending text →
          (Parse.Inside start ending memory (next check) ↔
            (check.passed = true → condition text))) :
    Parse.Inside start ending memory
        (sliceCredential announced good other cursor >>= next) ↔
      CredentialFits announced good other condition rest := by
  cases announced with
  | false =>
      have same := later ⟨none, other 0 = 0, cursor⟩ rest behind stands
      simpa [sliceCredential, CredentialFits] using same
  | true =>
      simp only [sliceCredential, if_true, bind_assoc, pure_bind]
      rw [CredentialFits, if_pos rfl]
      apply Parse.inside_getString_bind stands behind
      intro len text isText
      rw [Parse.inside_bind, Parse.inside_readSlice isText (by omega)]
      apply and_congr_right
      intro fits
      have slice :
          (Parse.readSlice (cursor + 2) (len % 256)).run memory =
            text.take (len % 256) := by
        have taken :=
          Parse.run_readSlice_text (isText.holds.take (len % 256))
        rwa [List.length_take_of_le fits] at taken
      rw [slice]
      exact later _ _ (by simp only; omega) (isText.drop len)

/-! ## The cases of the switch -/

/-- The client identifier and the will of a CONNECT message. -/
def accessIdentifier
    (mqttFlags : Byte)
    (payload : Nat) : Parse Nat := do
  let (payload, len) ← Parse.getString payload
  let _ ← Parse.readSlice payload len
  skipWill (mqttFlags &&& flagWill ≠ 0) (payload + len)

/--
The CONNECT case up to the credentials: the flags and the cursor behind the
will, or nothing if the variable header is refused.
-/
def accessHead (header : Nat) : Parse (Option (Byte × Nat)) := do
  let mqttFlags ← Parse.readByte (header + 7)
  let _ ← Parse.readWord (header + 8)
  let named ← Parse.startsWith protocolName (header + 2)
  if named then
    let level ← Parse.readByte (header + 6)
    if level = 0x04 then
      let payload ← accessIdentifier mqttFlags (header + 10)
      pure (some (mqttFlags, payload))
    else
      pure none
  else
    pure none

/-- The credentials of the CONNECT case. -/
def accessCredentials
    (mqttFlags : Byte)
    (authUser authPassword : CharPointer)
    (payload : Nat) : Parse Unit := do
  let user ←
    sliceCredential (mqttFlags &&& flagUserName ≠ 0)
      authUser authPassword payload
  if user.passed then
    let _ ←
      sliceCredential (mqttFlags &&& flagPassword ≠ 0)
        authPassword authUser user.payload
    pure ()
  else
    pure ()

/-- The whole CONNECT case. -/
def accessConnect
    (header : Nat)
    (authUser authPassword : CharPointer) : Parse Unit := do
  match ← accessHead header with
  | some (mqttFlags, payload) =>
      accessCredentials mqttFlags authUser authPassword payload
  | none => pure ()

/--
The CONNECT case of a client without broker: the source dereferences `parent`
behind the length of the user name, if one is announced.
-/
def accessUnattached (header : Nat) : Parse Unit := do
  match ← accessHead header with
  | some (mqttFlags, payload) =>
      if mqttFlags &&& flagUserName ≠ 0 then
        let _ ← Parse.getString payload
        pure ()
      else
        pure ()
  | none => pure ()

/-- What is read behind the variable header is accessed. -/
theorem reads_parseConnectPayload
    (mqttFlags : Byte)
    (keepAlive : Nat)
    (authUser authPassword : CharPointer)
    (payload : Nat)
    (memory : Nat → Byte) :
    (parseConnectPayload mqttFlags keepAlive authUser authPassword
        payload).reads memory ⊆
      (accessIdentifier mqttFlags payload >>=
        accessCredentials mqttFlags authUser authPassword).reads memory := by
  unfold parseConnectPayload accessIdentifier
  simp only [bind_assoc]
  apply Parse.reads_bind_subset
  rintro ⟨cursor, len⟩
  apply Parse.reads_bind_subset
  intro clientId
  apply Parse.reads_bind_subset
  intro behindWill
  simp only [accessCredentials, Parse.reads_bind, run_sliceCredential]
  apply List.append_subset.mpr
  constructor
  · apply List.subset_append_of_subset_left
    exact reads_parseCredential _ _ _ _ _
  · apply List.subset_append_of_subset_right
    split
    · simp only [Parse.reads_bind, Parse.reads_pure, List.append_nil]
      exact reads_parseCredential _ _ _ _ _
    · exact List.nil_subset _

/-- Every byte that the CONNECT case reads is accessed. -/
theorem reads_parseConnect
    (header : Nat)
    (authUser authPassword : CharPointer)
    (memory : Nat → Byte) :
    (parseConnect header authUser authPassword).reads memory ⊆
      (accessConnect header authUser authPassword).reads memory := by
  unfold parseConnect accessConnect accessHead
  simp only [bind_assoc]
  apply Parse.reads_bind_subset
  intro mqttFlags
  apply Parse.reads_bind_subset
  intro keepAlive
  apply Parse.reads_bind_subset
  intro named
  split
  · rw [bind_assoc]
    apply Parse.reads_bind_subset
    intro level
    split
    · rw [bind_assoc]
      exact reads_parseConnectPayload _ _ _ _ _ memory
    · exact List.nil_subset _
  · exact List.nil_subset _

/-- The client identifier is a slice, and a will may follow it. -/
def IdentifierFits
    (mqttFlags : Byte)
    (condition : List Byte → Prop) : List Byte → Prop :=
  Prefixed fun len text =>
    len ≤ text.length ∧
      WillFits (mqttFlags &&& flagWill ≠ 0) condition (text.drop len)

/-- The variable header of CONNECT, the client identifier and the will. -/
def HeadFits
    (condition : Byte → List Byte → Prop)
    (body : List Byte) : Prop :=
  10 ≤ body.length ∧
    ((body.drop 2).take 4 = protocolName →
      body.getD 6 0 = 0x04 →
        IdentifierFits (body.getD 7 0) (condition (body.getD 7 0))
          (body.drop 10))

/-- The body of a CONNECT message keeps the CONNECT case inside. -/
def ConnectFits
    (authUser authPassword : CharPointer) : List Byte → Prop :=
  HeadFits fun mqttFlags =>
    CredentialFits (mqttFlags &&& flagUserName ≠ 0) authUser authPassword
      (CredentialFits (mqttFlags &&& flagPassword ≠ 0) authPassword authUser
        fun _ => True)

/-- The same for a client without broker. -/
def UnattachedFits : List Byte → Prop :=
  HeadFits fun mqttFlags text =>
    mqttFlags &&& flagUserName ≠ 0 → Prefixed (fun _ _ => True) text

theorem inside_accessIdentifier_bind
    (stands : Rest memory cursor ending rest)
    (behind : start ≤ cursor)
    (mqttFlags : Byte)
    {next : Nat → Parse α}
    {condition : List Byte → Prop}
    (later :
      ∀ payload text, start ≤ payload → Rest memory payload ending text →
        (Parse.Inside start ending memory (next payload) ↔
          condition text)) :
    Parse.Inside start ending memory
        (accessIdentifier mqttFlags cursor >>= next) ↔
      IdentifierFits mqttFlags condition rest := by
  unfold accessIdentifier
  rw [bind_assoc]
  apply Parse.inside_getString_bind stands behind
  intro len text isText
  rw [bind_assoc, Parse.inside_bind,
    Parse.inside_readSlice isText (by omega)]
  apply and_congr_right
  intro _
  exact inside_skipWill_bind (isText.drop len) (by omega) _ later

theorem inside_accessHead_bind
    (stands : Rest memory cursor ending rest)
    {next : Option (Byte × Nat) → Parse α}
    {condition : Byte → List Byte → Prop}
    (refused : Parse.Inside cursor ending memory (next none))
    (later :
      ∀ mqttFlags payload text, cursor ≤ payload →
        Rest memory payload ending text →
          (Parse.Inside cursor ending memory
              (next (some (mqttFlags, payload))) ↔
            condition mqttFlags text)) :
    Parse.Inside cursor ending memory (accessHead cursor >>= next) ↔
      HeadFits condition rest := by
  have length := stands.length
  have four : protocolName.length = 4 := rfl
  have byteAt (index : Nat) (inRest : index < rest.length) :
      memory (cursor + index) = rest.getD index 0 := by
    rw [stands.holds.at inRest, List.getD_eq_getElem _ _ inRest]
  unfold accessHead
  rw [bind_assoc, Parse.inside_bind, Parse.inside_readByte (by omega),
    bind_assoc, Parse.inside_bind, Parse.inside_readWord (by omega),
    bind_assoc, Parse.inside_bind]
  by_cases long : 10 ≤ rest.length
  · have nameInside :
        Parse.Inside cursor ending memory
          (Parse.startsWith protocolName (cursor + 2)) :=
      Parse.inside_startsWith (by omega) (by omega)
    have isNamed :
        (Parse.startsWith protocolName (cursor + 2)).run memory = true ↔
          (rest.drop 2).take 4 = protocolName :=
      Parse.run_startsWith_iff (stands.drop 2).holds
        (by rw [List.length_drop]; omega)
    have fixedInside :
        cursor + 7 < ending ∧ cursor + 8 + 2 ≤ ending ∧
          cursor + 6 < ending := by
      omega
    obtain ⟨flagsInside, wordInside, levelInside⟩ := fixedInside
    rw [HeadFits, Parse.run_readByte, byteAt 7 (by omega)]
    -- The tests of the variable header, in their order.
    by_cases named :
        (Parse.startsWith protocolName (cursor + 2)).run memory = true
    · rw [if_pos named, bind_assoc, Parse.inside_bind,
        Parse.inside_readByte (by omega), Parse.run_readByte,
        byteAt 6 (by omega)]
      by_cases level : rest.getD 6 0 = 0x04
      · rw [if_pos level, bind_assoc]
        have fields :=
          @inside_accessIdentifier_bind memory cursor ending (cursor + 10)
            (rest.drop 10) _ (stands.drop 10) (by omega) (rest.getD 7 0)
            (fun payload => pure (some (rest.getD 7 0, payload)) >>= next)
            (condition (rest.getD 7 0))
            (later (rest.getD 7 0))
        constructor
        · rintro ⟨_, _, _, _, inside⟩
          exact ⟨long, fun _ _ => fields.mp inside⟩
        · rintro ⟨_, fits⟩
          exact ⟨flagsInside, wordInside, nameInside, levelInside,
            fields.mpr (fits (isNamed.mp named) level)⟩
      · rw [if_neg level, pure_bind]
        constructor
        · intro _
          exact ⟨long, fun _ isLevel => absurd isLevel level⟩
        · intro _
          exact ⟨flagsInside, wordInside, nameInside, levelInside, refused⟩
    · rw [if_neg named, pure_bind]
      constructor
      · intro _
        exact ⟨long, fun isName => absurd (isNamed.mpr isName) named⟩
      · intro _
        exact ⟨flagsInside, wordInside, nameInside, refused⟩
  · apply iff_of_false
    · rintro ⟨_, tooMuch, _⟩
      omega
    · intro fits
      exact long fits.1

/-- The CONNECT case stays inside exactly the bodies that fit. -/
theorem inside_accessConnect
    (stands : Rest memory cursor ending rest)
    (authUser authPassword : CharPointer) :
    Parse.Inside cursor ending memory
        (accessConnect cursor authUser authPassword) ↔
      ConnectFits authUser authPassword rest := by
  apply inside_accessHead_bind stands (Parse.inside_pure ())
  intro mqttFlags payload text behind isText
  apply inside_sliceCredential_bind isText behind
  intro user text' behindUser isText'
  by_cases passed : user.passed = true
  · rw [if_pos passed]
    have credential :=
      @inside_sliceCredential_bind memory cursor ending user.payload text' _
        isText' behindUser (mqttFlags &&& flagPassword ≠ 0) authPassword
        authUser (fun _ => pure ()) (fun _ => True)
        (fun _ _ _ _ => iff_of_true (Parse.inside_pure ()) fun _ => trivial)
    constructor
    · intro inside _
      exact credential.mp inside
    · intro fits
      exact credential.mpr (fits passed)
  · rw [if_neg passed]
    exact iff_of_true (Parse.inside_pure ()) fun isPassed =>
      absurd isPassed passed

/-- So does the case of a client without broker. -/
theorem inside_accessUnattached
    (stands : Rest memory cursor ending rest) :
    Parse.Inside cursor ending memory (accessUnattached cursor) ↔
      UnattachedFits rest := by
  apply inside_accessHead_bind stands (Parse.inside_pure ())
  intro mqttFlags payload text behind isText
  by_cases announced : mqttFlags &&& flagUserName ≠ 0
  · have length :
        Parse.Inside cursor ending memory
            (Parse.getString payload >>= fun _ => pure ()) ↔
          Prefixed (fun _ _ => True) text :=
      Parse.inside_getString_bind isText behind fun _ _ _ =>
        iff_of_true (Parse.inside_pure ()) trivial
    dsimp only
    rw [if_pos announced, length]
    exact ⟨fun fits _ => fits, fun fits => fits announced⟩
  · dsimp only
    rw [if_neg announced]
    exact iff_of_true (Parse.inside_pure ()) fun isAnnounced =>
      absurd isAnnounced announced

/-- The place behind the topic and the packet identifier of a PUBLISH message. -/
def publishCursor
    (header : Nat)
    (flags : Byte) : Parse Nat := do
  let (payload, len) ← Parse.getString header
  pure (if flags ≠ 0 then payload + len + 2 else payload + len)

/--
The PUBLISH case: the topic and, if the callback is called with a topic of its
name, the payload.
-/
def accessPublish
    (header endOffset : Nat)
    (flags : Byte)
    (called : List Byte → Bool) : Parse Unit := do
  let (payload, len) ← Parse.getString header
  let name ← Parse.readSlice payload (len % 256)
  if called name then
    let payload := if flags ≠ 0 then payload + len + 2 else payload + len
    let _ ←
      Parse.readSlice payload (((endOffset : Int) - payload) % 65536).toNat
    pure ()
  else
    pure ()

/-- Where the callback is called, these are the bytes of the PUBLISH case. -/
theorem reads_accessPublish
    {header endOffset : Nat}
    {flags : Byte}
    {called : List Byte → Bool}
    (calls :
      called ((parsePublish header endOffset flags).run memory).name = true) :
    (accessPublish header endOffset flags called).reads memory =
      (parsePublish header endOffset flags).reads memory := by
  simp only [parsePublish, Parse.run_bind, Parse.run_pure] at calls
  simp only [accessPublish, parsePublish, Parse.reads_bind, Parse.reads_pure,
    calls, if_true]

/--
A PUBLISH message: the slice of the topic and, where the callback is called,
the declared topic and the identifier that flags announce.
-/
def PublishFits
    (flags : Byte)
    (called : List Byte → Bool) : List Byte → Prop :=
  Prefixed fun len text =>
    len % 256 ≤ text.length ∧
      (called (text.take (len % 256)) = true →
        len + (if flags ≠ 0 then 2 else 0) ≤ text.length)

/-- The topic that the PUBLISH case takes, by the text that holds it. -/
theorem name_parsePublish
    {len : Nat}
    {text : List Byte}
    (isLength : (Parse.readWord cursor).run memory = len)
    (isText : Rest memory (cursor + 2) ending text)
    (fits : len % 256 ≤ text.length)
    (flags : Byte) :
    ((parsePublish cursor ending flags).run memory).name =
      text.take (len % 256) := by
  have taken := Parse.run_readSlice_text (isText.holds.take (len % 256))
  rw [List.length_take_of_le fits] at taken
  simp only [parsePublish, Parse.getString, Parse.run_bind, Parse.run_pure,
    isLength]
  exact taken

/-- The payload that is passed on is inside if its length is no underflow. -/
theorem inside_payload
    {len skipped : Nat}
    {text : List Byte}
    (isText : Rest memory (cursor + 2) ending text)
    (prefixed : cursor + 2 ≤ ending) :
    (Parse.Inside cursor ending memory
        (Parse.readSlice (cursor + 2 + (len + skipped))
          (((ending : Int) - (cursor + 2 + (len + skipped) : Nat)) %
            65536).toNat) ∧
        cursor + 2 + (len + skipped) ≤ ending) ↔
      len + skipped ≤ text.length := by
  have length := isText.length
  have walk :=
    @Parse.inside_readSlice memory cursor ending
      (cursor + 2 + (len + skipped)) (text.drop (len + skipped))
      (isText.drop (len + skipped)) (by omega)
      (((ending : Int) - (cursor + 2 + (len + skipped) : Nat)) %
        65536).toNat
  rw [walk, List.length_drop]
  constructor
  · rintro ⟨_, noUnderflow⟩
    omega
  · intro fits
    exact ⟨by omega, by omega⟩

/-- The PUBLISH case stays inside if its slices do. -/
theorem inside_slices_publish
    (stands : Rest memory cursor ending rest)
    (flags : Byte)
    (called : List Byte → Bool) :
    Parse.Inside cursor ending memory
        (accessPublish cursor ending flags called) ↔
      Prefixed
        (fun len text =>
          len % 256 ≤ text.length ∧
            (called (text.take (len % 256)) = true →
              Parse.Inside cursor ending memory
                (Parse.readSlice
                  (cursor + 2 + (len + if flags ≠ 0 then 2 else 0))
                  (((ending : Int) -
                    (cursor + 2 +
                      (len + if flags ≠ 0 then 2 else 0) : Nat)) %
                    65536).toNat)))
        rest := by
  apply Parse.inside_getString_bind stands (Nat.le_refl cursor)
  intro len text isText
  rw [Parse.inside_bind, Parse.inside_readSlice isText (by omega)]
  apply and_congr_right
  intro fits
  have taken := Parse.run_readSlice_text (isText.holds.take (len % 256))
  rw [List.length_take_of_le fits] at taken
  rw [taken]
  have behind :
      (if flags ≠ 0 then cursor + 2 + len + 2 else cursor + 2 + len) =
        cursor + 2 + (len + if flags ≠ 0 then 2 else 0) := by
    split <;> omega
  by_cases calls : called (text.take (len % 256)) = true
  · dsimp only
    rw [if_pos calls, behind, Parse.inside_bind]
    exact (and_iff_left (Parse.inside_pure ())).trans
      ⟨fun inside _ => inside, fun inside => inside calls⟩
  · rw [if_neg calls]
    exact iff_of_true (Parse.inside_pure ()) fun isCalled =>
      absurd isCalled calls

/--
The PUBLISH case stays inside, and no payload length that is passed on is an
underflow, for exactly the bodies that fit.
-/
theorem inside_accessPublish
    (stands : Rest memory cursor ending rest)
    (flags : Byte)
    (called : List Byte → Bool) :
    (Parse.Inside cursor ending memory
          (accessPublish cursor ending flags called) ∧
        (called ((parsePublish cursor ending flags).run memory).name = true →
          (publishCursor cursor flags).run memory ≤ ending)) ↔
      PublishFits flags called rest := by
  rw [inside_slices_publish stands]
  have length := stands.length
  cases rest with
  | nil => exact ⟨fun both => both.1, fun fits => fits.elim⟩
  | cons high rest =>
      cases rest with
      | nil => exact ⟨fun both => both.1, fun fits => fits.elim⟩
      | cons low text =>
          have isText : Rest memory (cursor + 2) ending text := stands.drop 2
          have isLength :
              (Parse.readWord cursor).run memory = word high low := by
            have isHigh : memory cursor = high := stands.holds.1
            have isLow : memory (cursor + 1) = low := stands.holds.2.1
            simp only [Parse.readWord, Parse.run_bind, Parse.run_pure,
              Parse.run_readByte, isHigh, isLow]
            rfl
          have isCursor :
              (publishCursor cursor flags).run memory =
                cursor + 2 +
                  (word high low + if flags ≠ 0 then 2 else 0) := by
            simp only [publishCursor, Parse.getString, Parse.run_bind,
              Parse.run_pure, isLength]
            split <;> omega
          simp only [List.length_cons] at length
          have inside :=
            @inside_payload memory ending cursor (word high low)
              (if flags ≠ 0 then 2 else 0) text isText (by omega)
          rw [isCursor]
          simp only [Prefixed, PublishFits]
          constructor
          · rintro ⟨⟨fits, payload⟩, noUnderflow⟩
            rw [name_parsePublish isLength isText fits] at noUnderflow
            exact ⟨fits, fun calls =>
              inside.mp ⟨payload calls, noUnderflow calls⟩⟩
          · rintro ⟨fits, whole⟩
            rw [name_parsePublish isLength isText fits]
            exact ⟨⟨fits, fun calls => (inside.mpr (whole calls)).1⟩,
              fun calls => (inside.mpr (whole calls)).2⟩

/-- The filters of a SUBSCRIBE or UNSUBSCRIBE message. -/
inductive FiltersFit (subscribe : Bool) : List Byte → Prop
  | nil : FiltersFit subscribe []
  | filter
      {high low : Byte}
      {text : List Byte}
      (name : word high low % 256 ≤ text.length)
      (qos : subscribe = true → word high low < text.length)
      (later :
        FiltersFit subscribe
          (text.drop (word high low + if subscribe then 1 else 0))) :
      FiltersFit subscribe (high :: low :: text)

/-- No filters, or one in front of others. -/
theorem filtersFit_iff (subscribe : Bool) (rest : List Byte) :
    FiltersFit subscribe rest ↔
      rest = [] ∨
        Prefixed
          (fun len text =>
            len % 256 ≤ text.length ∧
              (subscribe = true → len < text.length) ∧
                FiltersFit subscribe
                  (text.drop (len + if subscribe then 1 else 0)))
          rest := by
  constructor
  · intro fits
    cases fits with
    | nil => exact .inl rfl
    | filter name qos later => exact .inr ⟨name, qos, later⟩
  · rintro (rfl | first)
    · exact .nil
    · cases rest with
      | nil => exact first.elim
      | cons high rest =>
          cases rest with
          | nil => exact first.elim
          | cons low text =>
              obtain ⟨name, qos, later⟩ := first
              exact .filter name qos later

/-- The topic loop stays inside exactly the bodies that fit. -/
theorem inside_parseFilters
    (stands : Rest memory cursor ending rest)
    (behind : start ≤ cursor)
    (subscribe : Bool)
    {fuel : Nat}
    (enough : rest.length ≤ fuel) :
    Parse.Inside start ending memory
        (parseFilters subscribe ending fuel cursor) ↔
      FiltersFit subscribe rest := by
  induction fuel generalizing cursor rest with
  | zero =>
      have empty : rest = [] := List.length_eq_zero_iff.mp (by omega)
      subst empty
      exact iff_of_true (Parse.inside_pure _) .nil
  | succ fuel inductionHypothesis =>
      have length := stands.length
      rw [parseFilters]
      by_cases more : cursor < ending
      · rw [if_pos more, filtersFit_iff,
          or_iff_right (List.ne_nil_of_length_pos (by omega))]
        apply Parse.inside_getString_bind stands behind
        intro len text isText
        have lengthText := isText.length
        rw [Parse.inside_bind, Parse.inside_readSlice isText (by omega)]
        apply and_congr_right
        intro _
        have later :=
          inductionHypothesis
            (isText.drop (len + if subscribe then 1 else 0)) (by omega)
            (by rw [List.length_drop]; omega)
        cases subscribe with
        | true =>
            rw [if_pos rfl, Parse.inside_bind,
              Parse.inside_readByte (by omega), Parse.inside_bind]
            apply and_congr
            · have inside :
                  cursor + 2 + len < ending ↔ len < text.length := by
                omega
              exact inside.trans ⟨fun qos _ => qos, fun qos => qos rfl⟩
            · exact (and_iff_left (Parse.inside_pure _)).trans later
        | false =>
            rw [if_neg Bool.false_ne_true, Parse.inside_bind]
            have noQos :
                (false = true → len < text.length) := fun isTrue =>
              absurd isTrue Bool.false_ne_true
            rw [and_iff_right noQos]
            exact (and_iff_left (Parse.inside_pure _)).trans later
      · have empty : rest = [] := List.length_eq_zero_iff.mp (by omega)
        subst empty
        rw [if_neg more]
        exact iff_of_true (Parse.inside_pure _) .nil

end MqttClient

end SimpleTlsBroker
