import SimpleTlsBroker.Accesses
import SimpleTlsBroker.Acknowledgements

namespace SimpleTlsBroker

/-!
# Frame bounds

In every state of a client, `processMessage` stays inside a message if and
only if the lengths in its body fit into the body.  Nothing in the source makes
sure of that: a peer chooses the lengths.
-/

open Memory MqttClient

namespace World

variable {Index Os : Type} [Indexer Index] [Platform Os]
variable {world : World Index Os}
variable {client : ClientId}
variable {mesg : MqttMessage}

/-- The topic loop, and the packet identifier that is copied behind it. -/
def accessFilters
    (subscribe : Bool)
    (header endOffset : Nat) : Parse Unit := do
  let _ ← parseFilters subscribe endOffset endOffset (header + 2)
  let _ ← Parse.readByte header
  let _ ← Parse.readByte (header + 1)
  pure ()

/--
Does the PUBLISH case of a client call its callback, for a topic of this name?
-/
def callsBack
    (world : World Index Os)
    (client : ClientId)
    (name : List Byte) : Bool :=
  let record := world.clients client
  let (published, world) := world.internTopic name
  (record.parent = none ∨ record.client = false) ∧ record.callback ∧
    world.isSubscribedTo client published

/-- The PUBLISH case of a client that is not forwarded to its broker. -/
theorem processPublish_callsBack
    (forward :
      BrokerId → ClientId → Topic → MqttMessage →
        World Index Os → World Index Os)
    (handled :
      (world.clients client).mqttConnected ∨
        (world.clients client).client = false)
    (inside :
      (world.clients client).parent = none ∨
        (world.clients client).client = false) :
    let fields :=
      (parsePublish mesg.vheader mesg.buffer.length mesg.flags).run
        (world.memory mesg)
    let (published, interned) := world.internTopic fields.name
    world.processPublish forward client mesg =
      (false,
        (if world.callsBack client fields.name then
            interned.log (.callback client published fields.payload)
          else
            interned).releaseTopic published) := by
  simp only [processPublish, callsBack, if_pos handled, inside, true_and,
    decide_eq_true_eq]
  rcases inside with detached | isLocal
  · rw [detached]
  · rw [isLocal]
    cases (world.clients client).parent <;> rfl

/--
The bytes of a message that `processMessage` reads or passes on as a slice, in
the state a client is in.
-/
def accesses
    (world : World Index Os)
    (client : ClientId)
    (mesg : MqttMessage) : List Nat :=
  let record := world.clients client
  let memory := world.memory mesg
  let filters (subscribe : Bool) :=
    if record.mqttConnected then
      (accessFilters subscribe mesg.vheader mesg.buffer.length).reads memory
    else
      []
  match mesg.kind? with
  | some .connect =>
      match record.mqttConnected, record.parent with
      | true, _ => []
      | false, none => (accessUnattached mesg.vheader).reads memory
      | false, some parent =>
          (accessConnect mesg.vheader (world.brokers parent).authUser
            (world.brokers parent).authPassword).reads memory
  | some .subscribe => filters true
  | some .unSubscribe => filters false
  | some .publish =>
      if record.mqttConnected ∨ record.client = false then
        (accessPublish mesg.vheader mesg.buffer.length mesg.flags
          (world.callsBack client)).reads memory
      else
        []
  | _ => []

/-- Is the payload length that the callback of a client gets an underflow? -/
def Underflows
    (world : World Index Os)
    (client : ClientId)
    (mesg : MqttMessage) : Prop :=
  mesg.kind? = some .publish ∧
    ((world.clients client).mqttConnected ∨
      (world.clients client).client = false) ∧
    world.callsBack client
        ((parsePublish mesg.vheader mesg.buffer.length mesg.flags).run
          (world.memory mesg)).name ∧
      mesg.buffer.length <
        (publishCursor mesg.vheader mesg.flags).run (world.memory mesg)

/-- All accesses are inside the message, and no length is an underflow. -/
structure FrameBounded
    (world : World Index Os)
    (client : ClientId)
    (mesg : MqttMessage) : Prop where
  inside :
    ∀ offset ∈ world.accesses client mesg,
      mesg.vheader ≤ offset ∧ offset < mesg.buffer.length
  noUnderflow : ¬ world.Underflows client mesg

/-- The lengths in the body fit, as far as the state lets them be looked at. -/
def FrameFits
    (world : World Index Os)
    (client : ClientId)
    (mesg : MqttMessage) : Prop :=
  let record := world.clients client
  let body := mesg.buffer.drop mesg.vheader
  match mesg.kind? with
  | some .connect =>
      match record.mqttConnected, record.parent with
      | true, _ => True
      | false, none => UnattachedFits body
      | false, some parent =>
          ConnectFits (world.brokers parent).authUser
            (world.brokers parent).authPassword body
  | some .subscribe =>
      record.mqttConnected = true →
        2 ≤ body.length ∧ FiltersFit true (body.drop 2)
  | some .unSubscribe =>
      record.mqttConnected = true →
        2 ≤ body.length ∧ FiltersFit false (body.drop 2)
  | some .publish =>
      record.mqttConnected ∨ record.client = false →
        PublishFits mesg.flags (world.callsBack client) body
  | _ => True

omit [Indexer Index] in
/-- The body is what is left of the message behind its header. -/
theorem rest_body
    (world : World Index Os)
    (mesg : MqttMessage) :
    Rest (world.memory mesg) mesg.vheader mesg.buffer.length
      (mesg.buffer.drop mesg.vheader) where
  holds := by
    have stands := (world.holds_memory mesg).drop mesg.vheader
    rwa [Nat.zero_add] at stands
  length := List.length_drop

omit [Indexer Index] in
/-- The SUBSCRIBE and UNSUBSCRIBE cases stay inside. -/
theorem inside_accessFilters
    (world : World Index Os)
    (subscribe : Bool)
    (mesg : MqttMessage) :
    Parse.Inside mesg.vheader mesg.buffer.length (world.memory mesg)
        (accessFilters subscribe mesg.vheader mesg.buffer.length) ↔
      2 ≤ (mesg.buffer.drop mesg.vheader).length ∧
        FiltersFit subscribe ((mesg.buffer.drop mesg.vheader).drop 2) := by
  have stands := rest_body world mesg
  have length := stands.length
  have loop :=
    @inside_parseFilters (world.memory mesg) mesg.vheader mesg.buffer.length
      (mesg.vheader + 2) ((mesg.buffer.drop mesg.vheader).drop 2)
      (stands.drop 2) (by omega) subscribe mesg.buffer.length
      (by rw [List.length_drop]; omega)
  unfold accessFilters
  rw [Parse.inside_bind, Parse.inside_bind, Parse.inside_bind,
    Parse.inside_readByte (Nat.le_refl _), Parse.inside_readByte (by omega),
    loop]
  constructor
  · rintro ⟨fits, _, second, _⟩
    exact ⟨by omega, fits⟩
  · rintro ⟨two, fits⟩
    exact ⟨fits, by omega, by omega, Parse.inside_pure _⟩

/-- A message without accesses is bounded if it is no PUBLISH message. -/
theorem frameBounded_of_accesses
    {parse : Parse α}
    {fits : Prop}
    (noPublish : mesg.kind? ≠ some .publish)
    (accesses : world.accesses client mesg = parse.reads (world.memory mesg))
    (inside :
      Parse.Inside mesg.vheader mesg.buffer.length (world.memory mesg) parse ↔
        fits) :
    FrameBounded world client mesg ↔ fits := by
  rw [← inside, Parse.Inside, ← accesses]
  exact ⟨fun bounded => bounded.inside, fun isInside =>
    ⟨isInside, fun underflows => noPublish underflows.1⟩⟩

/-- Nothing is accessed in a state in which the message is refused. -/
theorem accesses_pure
    (empty : world.accesses client mesg = []) :
    world.accesses client mesg =
      (pure () : Parse Unit).reads (world.memory mesg) := empty

/-- The PUBLISH case. -/
theorem frameBounded_publish
    (isPublish : mesg.kind? = some .publish) :
    FrameBounded world client mesg ↔
      ((world.clients client).mqttConnected ∨
          (world.clients client).client = false →
        PublishFits mesg.flags (world.callsBack client)
          (mesg.buffer.drop mesg.vheader)) := by
  have walk :=
    inside_accessPublish (rest_body world mesg) mesg.flags
      (world.callsBack client)
  by_cases handled :
      (world.clients client).mqttConnected = true ∨
        (world.clients client).client = false
  · have accesses :
        world.accesses client mesg =
          (accessPublish mesg.vheader mesg.buffer.length mesg.flags
            (world.callsBack client)).reads (world.memory mesg) := by
      unfold World.accesses
      dsimp only
      rw [isPublish]
      exact if_pos handled
    constructor
    · intro bounded _
      apply walk.mp
      refine ⟨?_, fun calls => Nat.le_of_not_lt fun tooFar =>
        bounded.noUnderflow ⟨isPublish, handled, calls, tooFar⟩⟩
      rw [Parse.Inside, ← accesses]
      exact bounded.inside
    · intro fits
      obtain ⟨inside, noUnderflow⟩ := walk.mpr (fits handled)
      rw [Parse.Inside, ← accesses] at inside
      refine ⟨inside, ?_⟩
      rintro ⟨_, _, calls, tooFar⟩
      exact absurd tooFar (Nat.not_lt_of_le (noUnderflow calls))
  · have accesses : world.accesses client mesg = [] := by
      unfold World.accesses
      dsimp only
      rw [isPublish]
      exact if_neg handled
    refine iff_of_true ⟨?_, fun underflows => handled underflows.2.1⟩
      fun isHandled => absurd isHandled handled
    rw [accesses]
    intro offset member
    exact absurd member List.not_mem_nil

/-- The SUBSCRIBE and UNSUBSCRIBE cases. -/
theorem frameBounded_filters
    {subscribe : Bool}
    (isFilters :
      mesg.kind? = some (if subscribe then .subscribe else .unSubscribe)) :
    FrameBounded world client mesg ↔
      ((world.clients client).mqttConnected = true →
        2 ≤ (mesg.buffer.drop mesg.vheader).length ∧
          FiltersFit subscribe ((mesg.buffer.drop mesg.vheader).drop 2)) := by
  have noPublish : mesg.kind? ≠ some .publish := by
    rw [isFilters]
    cases subscribe <;> decide
  have accesses :
      world.accesses client mesg =
        if (world.clients client).mqttConnected then
          (accessFilters subscribe mesg.vheader mesg.buffer.length).reads
            (world.memory mesg)
        else
          [] := by
    unfold World.accesses
    dsimp only
    rw [isFilters]
    cases subscribe <;> rfl
  by_cases connected : (world.clients client).mqttConnected = true
  · rw [if_pos connected] at accesses
    rw [frameBounded_of_accesses noPublish accesses
      (inside_accessFilters world subscribe mesg)]
    exact ⟨fun fits _ => fits, fun fits => fits connected⟩
  · rw [if_neg connected] at accesses
    rw [frameBounded_of_accesses noPublish (accesses_pure accesses)
      (iff_true_intro (Parse.inside_pure ()))]
    exact iff_of_true trivial fun isConnected =>
      absurd isConnected connected

/-- The CONNECT case. -/
theorem frameBounded_connect
    (isConnect : mesg.kind? = some .connect) :
    FrameBounded world client mesg ↔ world.FrameFits client mesg := by
  have noPublish : mesg.kind? ≠ some .publish := by
    rw [isConnect]
    decide
  have stands := rest_body world mesg
  unfold FrameFits
  dsimp only
  rw [isConnect]
  cases connected : (world.clients client).mqttConnected with
  | true =>
      apply frameBounded_of_accesses noPublish _
        (iff_true_intro (Parse.inside_pure ()))
      simp [World.accesses, isConnect, connected]
  | false =>
      cases attached : (world.clients client).parent with
      | none =>
          apply frameBounded_of_accesses noPublish _
            (inside_accessUnattached stands)
          simp [World.accesses, isConnect, connected, attached]
      | some parent =>
          apply frameBounded_of_accesses noPublish _
            (inside_accessConnect stands _ _)
          simp [World.accesses, isConnect, connected, attached]

/-- The accesses cover what the cases of `processMessage` read. -/
theorem reads_covered
    (world : World Index Os)
    (client : ClientId)
    (mesg : MqttMessage) :
    (∀ parent, mesg.kind? = some .connect →
        (world.clients client).mqttConnected = false →
        (world.clients client).parent = some parent →
          (parseConnect mesg.vheader (world.brokers parent).authUser
              (world.brokers parent).authPassword).reads
              (world.memory mesg) ⊆
            world.accesses client mesg) ∧
      (∀ subscribe : Bool,
        mesg.kind? = some (if subscribe then .subscribe else .unSubscribe) →
        (world.clients client).mqttConnected = true →
          (parseFilters subscribe mesg.buffer.length mesg.buffer.length
              (mesg.vheader + 2)).reads (world.memory mesg) ⊆
            world.accesses client mesg) ∧
      (mesg.kind? = some .publish →
        (world.clients client).mqttConnected ∨
            (world.clients client).client = false →
        world.callsBack client
            ((parsePublish mesg.vheader mesg.buffer.length mesg.flags).run
              (world.memory mesg)).name = true →
          (parsePublish mesg.vheader mesg.buffer.length mesg.flags).reads
              (world.memory mesg) ⊆
            world.accesses client mesg) := by
  refine ⟨?_, ?_, ?_⟩
  · intro parent isConnect connected attached
    have accesses :
        world.accesses client mesg =
          (accessConnect mesg.vheader (world.brokers parent).authUser
            (world.brokers parent).authPassword).reads
              (world.memory mesg) := by
      simp [World.accesses, isConnect, connected, attached]
    rw [accesses]
    exact reads_parseConnect _ _ _ _
  · intro subscribe isFilters connected
    have accesses :
        world.accesses client mesg =
          (accessFilters subscribe mesg.vheader mesg.buffer.length).reads
            (world.memory mesg) := by
      cases subscribe <;> simp [World.accesses, isFilters, connected]
    rw [accesses]
    exact List.subset_append_left _ _
  · intro isPublish handled calls
    have accesses :
        world.accesses client mesg =
          (accessPublish mesg.vheader mesg.buffer.length mesg.flags
            (world.callsBack client)).reads (world.memory mesg) := by
      simp [World.accesses, isPublish, handled]
    rw [accesses, reads_accessPublish calls]
    exact List.Subset.refl _

/--
The accesses to a message stay inside it, and the payload length is no
underflow, if and only if the lengths in its body fit.
-/
theorem frameBounded_iff
    (world : World Index Os)
    (client : ClientId)
    (mesg : MqttMessage) :
    FrameBounded world client mesg ↔ world.FrameFits client mesg := by
  -- Three kinds of frames have a body that is looked at.
  have others
      (noPublish : mesg.kind? ≠ some .publish)
      (noAccess : world.accesses client mesg = [])
      (fits : world.FrameFits client mesg) :
      FrameBounded world client mesg ↔ world.FrameFits client mesg := by
    rw [frameBounded_of_accesses noPublish (accesses_pure noAccess)
      (iff_true_intro (Parse.inside_pure ()))]
    exact iff_of_true trivial fits
  cases kind : mesg.kind? with
  | none => apply others <;> simp [World.accesses, FrameFits, kind]
  | some type =>
      cases type with
      | connect => exact frameBounded_connect kind
      | publish =>
          rw [frameBounded_publish kind]
          simp only [FrameFits, kind]
      | subscribe =>
          rw [@frameBounded_filters _ _ _ _ world client mesg true kind]
          simp only [FrameFits, kind]
      | unSubscribe =>
          rw [@frameBounded_filters _ _ _ _ world client mesg false kind]
          simp only [FrameFits, kind]
      | _ => apply others <;> simp [World.accesses, FrameFits, kind]

/-- A PUBLISH message that declares a topic of 255 bytes and brings one. -/
def overDeclared : Packet where
  first := MqttType.publish.code
  lengthBytes := [0x03]
  body := [0x00, 0xFF, 0x61]

/-- The receiver completes it, and its handling goes beyond its end. -/
theorem frameBounded_overDeclared :
    (∀ received : MqttMessage, received.IsReset →
        MqttMessage.Reaches received overDeclared.bytes
          overDeclared.message) ∧
      (connectedRun.clients 0).mqttConnected = true ∧
        ¬ FrameBounded connectedRun 0 overDeclared.message := by
  have wellFormed : overDeclared.WellFormed :=
    ⟨show (0x03 : Byte).toNat < 128 by decide, by decide, by decide⟩
  refine ⟨fun received isReset =>
    Packet.reaches_bytes wellFormed (by decide) isReset, by decide, ?_⟩
  rintro ⟨inside, _⟩
  -- The last byte of the declared topic.
  have last := inside 258 (by decide)
  exact absurd last.2 (by decide)

end World

end SimpleTlsBroker
