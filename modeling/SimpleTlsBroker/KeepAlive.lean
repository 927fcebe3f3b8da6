import SimpleTlsBroker.AfterClose
import SimpleTlsBroker.Library.WrappingClock

namespace SimpleTlsBroker

/-!
# The keep-alive deadline

Every message that a client hands on sets its deadline anew: the reading of
`millis()` plus the keep-alive time and five seconds, in 32 bits.  Until the
next message nothing else changes it.  The timeout check compares readings, so
it is right as long as the clock and the deadline are in the same turn.
-/

open History WrappingClock

/-- A change that is not about the deadline. -/
structure KeepsTimer (change : MqttClient → MqttClient) : Prop where
  client : ∀ record, (change record).client = record.client
  alive : ∀ record, (change record).alive = record.alive

/-- The subscriptions are not about the deadline. -/
theorem keepsTimer_subscriptions (change : TopicSet → TopicSet) :
    KeepsTimer fun record =>
      { record with subscriptions := change record.subscriptions } :=
  ⟨fun _ => rfl, fun _ => rfl⟩

/-- Nor is the callback. -/
theorem keepsTimer_callback :
    KeepsTimer fun record => { record with callback := true } :=
  ⟨fun _ => rfl, fun _ => rfl⟩

/-- Nor is the message being received. -/
theorem keepsTimer_message (change : MqttMessage → MqttMessage) :
    KeepsTimer fun record =>
      { record with message := change record.message } :=
  ⟨fun _ => rfl, fun _ => rfl⟩

namespace World

open MqttMessage (receive)

variable {Index Os : Type}

/-! ## Who sets a deadline -/

/-- A client keeps its deadline and its kind. -/
structure TimerKept
    (client : ClientId)
    (before after : World Index Os) : Prop where
  remote : (after.clients client).client = (before.clients client).client
  alive : (after.clients client).alive = (before.clients client).alive

variable {broker : BrokerId}
variable {client other : ClientId}
variable {slot : SlotId}
variable {before middle after world : World Index Os}

namespace TimerKept

theorem refl
    (client : ClientId)
    (world : World Index Os) :
    TimerKept client world world :=
  ⟨rfl, rfl⟩

theorem trans
    (first : TimerKept client before middle)
    (second : TimerKept client middle after) :
    TimerKept client before after where
  remote := second.remote.trans first.remote
  alive := second.alive.trans first.alive

/-- The record stays as it is. -/
theorem of_record
    (same : after.clients client = before.clients client) :
    TimerKept client before after :=
  ⟨by rw [same], by rw [same]⟩

/-- Somebody else changes. -/
theorem modifyOther
    (world : World Index Os)
    (distinct : client ≠ other)
    (change : MqttClient → MqttClient) :
    TimerKept client world (world.modifyClient other change) :=
  .of_record (clients_modifyClient_other world change distinct)

/-- A change of anybody that is not about the deadline. -/
theorem modifyClient
    (client : ClientId)
    (world : World Index Os)
    (other : ClientId)
    {change : MqttClient → MqttClient}
    (keeps : KeepsTimer change) :
    TimerKept client world (world.modifyClient other change) := by
  by_cases same : client = other
  · subst same
    exact ⟨by simp [keeps.client], by simp [keeps.alive]⟩
  · exact .modifyOther world same change

variable [Platform Os]

/-- Sending a message to anybody. -/
theorem sendTo
    (client : ClientId)
    (world : World Index Os)
    (message : MqttMessage)
    (other : ClientId) :
    TimerKept client world (world.sendTo message other).2 := by
  unfold World.sendTo
  split
  · exact .of_record rfl
  · exact .refl client world

/-- The end of any connection. -/
theorem close
    (client : ClientId)
    (world : World Index Os)
    (other : ClientId) :
    TimerKept client world (world.close other) := by
  by_cases same : client = other
  · subst same
    exact ⟨by rw [clients_close_self], by rw [clients_close_self]⟩
  · exact .of_record (clients_close_other world same)

/-- The deadline of somebody else. -/
theorem clientAlive
    (world : World Index Os)
    (distinct : client ≠ other)
    (moreSeconds : Nat) :
    TimerKept client world (world.clientAlive other moreSeconds) := by
  obtain ⟨change, _, result⟩ := clientAlive_eq world other moreSeconds
  rw [result]
  exact .modifyOther world distinct change

end TimerKept

variable [Platform Os]

/-- What somebody else does with a message. -/
theorem Activity.timerKept
    {forward :
      BrokerId → ClientId → Topic → MqttMessage →
        World Index Os → World Index Os}
    {mesg : MqttMessage}
    {start : World Index Os}
    (activity : Activity forward other mesg start world)
    (distinct : client ≠ other)
    (forwarded :
      ∀ parent topic middle,
        TimerKept client start middle →
        TimerKept client middle
          (forward parent other topic mesg middle)) :
    TimerKept client start world := by
  induction activity with
  | start => exact .refl client start
  | note event _ _ inductionHypothesis =>
      exact inductionHypothesis.trans (.of_record rfl)
  | record change _ _ inductionHypothesis =>
      exact inductionHypothesis.trans (.modifyOther _ distinct change)
  | topics indexer _ inductionHypothesis =>
      exact inductionHypothesis.trans (.of_record rfl)
  | write bytes _ inductionHypothesis =>
      exact inductionHypothesis.trans (.of_record rfl)
  | @login world _ user password _ _ _ _ _ inductionHypothesis =>
      have checked :
          TimerKept client world
            (world.log (.credentials other user password)) :=
        .of_record rfl
      exact (inductionHypothesis.trans checked).trans
        (.modifyOther _ distinct _)
  | connAck _ _ inductionHypothesis =>
      exact inductionHypothesis.trans (.modifyOther _ distinct _)
  | forward parent topic _ _ _ _ _ inductionHypothesis =>
      exact inductionHypothesis.trans
        (forwarded parent topic _ inductionHypothesis)
  | callback topic payload _ _ _ inductionHypothesis =>
      exact inductionHypothesis.trans (.of_record rfl)

variable [Indexer Index]

/-- `processMessage` of somebody else. -/
theorem processMessageWith_timerKept
    {forward :
      BrokerId → ClientId → Topic → MqttMessage →
        World Index Os → World Index Os}
    (world : World Index Os)
    (distinct : client ≠ other)
    (mesg : MqttMessage)
    (forwarded :
      ∀ parent topic middle,
        TimerKept client world middle →
        TimerKept client middle
          (forward parent other topic mesg middle)) :
    TimerKept client world
      (world.processMessageWith forward other mesg) := by
  obtain ⟨active, activity, outcome⟩ :=
    processMessageWith_outcome forward world other mesg
  have entered :
      TimerKept client world (world.log (.processed other mesg)) :=
    .of_record rfl
  have acted : TimerKept client world active :=
    entered.trans
      (activity.timerKept distinct fun parent topic middle kept =>
        forwarded parent topic middle (entered.trans kept))
  generalize world.processMessageWith forward other mesg = after
    at outcome ⊢
  cases outcome with
  | rejected => exact acted.trans (.close client active other)
  | disconnected _ moreSeconds =>
      exact (acted.trans (.close client active other)).trans
        (.clientAlive _ distinct moreSeconds)
  | taken => exact acted.trans (.clientAlive active distinct _)

/-- A delivery to a networked client only sends. -/
theorem publishIfSubscribed_timerKept
    (isRemote : (world.clients client).client = true)
    (target : ClientId)
    (topic : Topic)
    (msg : MqttMessage) :
    TimerKept client world
      (world.publishIfSubscribed target topic msg).2 := by
  unfold publishIfSubscribed
  split
  · split
    · exact .sendTo client world msg target
    · rename_i notRemote
      have distinct : client ≠ target := by
        rintro rfl
        exact notRemote isRemote
      exact processMessageWith_timerKept world distinct msg
        fun _ _ middle _ => .refl client middle
  · exact .refl client world

/-- So does `publish`. -/
theorem publish_timerKept
    (isRemote : (world.clients client).client = true)
    (broker : BrokerId)
    (source : ClientId)
    (topic : Topic)
    (msg : MqttMessage) :
    TimerKept client world (world.publish broker source topic msg).2 := by
  refine publish_relates (fun world => (world.clients client).client = true)
    (.refl client) .trans ?_ broker source topic msg ?_ isRemote
  · intro first second kept isRemote
    rw [kept.remote, isRemote]
  · intro world target msg isRemote
    exact publishIfSubscribed_timerKept isRemote target topic msg

/-- A byte of somebody else. -/
theorem feed_timerKept
    (isRemote : (world.clients client).client = true)
    (distinct : client ≠ other)
    (byte : Byte) :
    TimerKept client world (world.feed other byte) := by
  have taken : TimerKept client world (world.takeByte other byte) :=
    .modifyOther world distinct _
  rcases world.feed_cases other byte with ⟨_, result⟩ | ⟨_, result⟩
  · rw [result]
    exact taken
  · rw [result]
    refine (taken.trans ?_).trans (.modifyOther _ distinct _)
    refine processMessageWith_timerKept _ distinct _ ?_
    intro parent topic middle kept
    refine publish_timerKept ?_ parent other topic _
    rw [kept.remote, taken.remote, isRemote]

/-- A round of the read loop of somebody else. -/
theorem poll_timerKept
    (isRemote : (world.clients client).client = true)
    (distinct : client ≠ other) :
    TimerKept client world (world.poll other).2 := by
  obtain ⟨device, _, result | ⟨session, byte, result⟩⟩ :=
    world.poll_cases other
  · exact result ▸ .of_record rfl
  · let fed : World Index Os :=
      { world with device := device }.log (.fed other session byte)
    have read : TimerKept client world fed := .of_record rfl
    rw [result]
    exact read.trans (feed_timerKept (read.remote.trans isRemote) distinct byte)

omit [Platform Os] in
/-- Keeping a subscription. -/
theorem insertSubscription_timerKept
    (client : ClientId)
    (world : World Index Os)
    (other : ClientId)
    (topic : Topic) :
    TimerKept client world (world.insertSubscription other topic) := by
  have used :
      TimerKept client world
        (if topic ∈ (world.clients other).subscriptions then
          world
        else
          world.useTopic topic) := by
    split
    · exact .refl client world
    · exact .of_record rfl
  exact used.trans
    (.modifyClient client _ other
      (keepsTimer_subscriptions fun subscriptions =>
        subscriptions.insert topic))

/-- A publication of the application. -/
theorem publishBuilt_timerKept
    (isRemote : (world.clients client).client = true)
    (source : ClientId)
    (topic : Topic)
    (payload : List Byte) :
    TimerKept client world
      (world.publishBuilt source topic payload).2 := by
  unfold publishBuilt
  dsimp only
  split
  · exact publish_timerKept isRemote _ _ _ _
  · exact .sendTo client world _ source
  · exact .refl client world

/-- `MqttClient::unsubscribe`. -/
theorem clientUnsubscribe_timerKept
    (client : ClientId)
    (world : World Index Os)
    (other : ClientId)
    (topic : Topic) :
    TimerKept client world (world.clientUnsubscribe other topic).2 := by
  have erased :
      TimerKept client world
        ((world.modifyClient other fun record =>
          { record with
            subscriptions := record.subscriptions.erase topic
          }).releaseTopic topic) :=
    .trans
      (.modifyClient client world other
        (keepsTimer_subscriptions fun subscriptions =>
          subscriptions.erase topic))
      (.of_record rfl)
  exact clientUnsubscribe_relates (.refl client) .trans erased
    fun world _ => .sendTo client world _ other

omit [Indexer Index] in
/-- Connecting somebody else to a host. -/
theorem hosted_timerKept
    (world : World Index Os)
    (distinct : client ≠ other)
    (keepAlive : Nat)
    (established : Bool) :
    TimerKept client world
      (world.hosted other keepAlive established) := by
  have opened :
      TimerKept client world
        (((world.modifyClient other fun record =>
            { record with keepAlive := keepAlive }).close other).modifyClient
          other fun record => { record with client := true }) :=
    ((TimerKept.modifyOther world distinct _).trans
      (.close client _ other)).trans (.modifyOther _ distinct _)
  unfold hosted onConnect
  dsimp only
  split
  · exact (opened.trans (.sendTo client _ _ _)).trans
      (.clientAlive _ distinct _)
  · exact opened

omit [Indexer Index] in
/-- Setting up the upstream link. -/
theorem uplinked_timerKept
    (notUpstream : (world.brokers broker).broker ≠ some client)
    (born : client < world.next)
    (alive : Nat)
    (established : Bool) :
    TimerKept client world
      (world.uplinked broker alive established) := by
  have distinct := ne_upstreamLink notUpstream born alive
  have created : TimerKept client world (world.upstreamLink broker alive).2 := by
    unfold upstreamLink
    split
    · exact .refl client world
    · have same := Nat.ne_of_lt born
      exact .of_record (by simp [modifyBroker, same])
  unfold uplinked
  dsimp only
  exact (created.trans (hosted_timerKept _ distinct 10 established)).trans
    (.modifyOther _ distinct _)

/-- Only the poll and the timeout of a member are about its deadline. -/
theorem Step.timerKept
    {action : Action Os}
    (linked : Linked broker before)
    (attached : Attached before broker client slot)
    (step : Step broker before action after)
    (notPoll : action ≠ .poll client)
    (notExpire : action ≠ .expire client) :
    TimerKept client before after := by
  have isRemote := attached.remote linked
  have born := linked.member_lt_next attached.member
  have notUpstream : (before.brokers broker).broker ≠ some client :=
    fun isUpstream => (linked.outside client isUpstream).1 attached.member
  cases step with
  | accept => exact .of_record (accept_aside broker born).record
  | expire other _ =>
      have distinct : client ≠ other := fun same => notExpire (same ▸ rfl)
      have changes :
          Changes (fun _ _ => True) (fun actor => actor = other) before
            (before.expire other) :=
        expire_changes rfl fun _ => trivial
      exact .of_record (changes.other distinct)
  | poll other _ =>
      exact poll_timerKept isRemote fun same => notPoll (same ▸ rfl)
  | newLocal id alive =>
      exact .of_record ((created_newLocal before broker id alive).other client
        (Nat.ne_of_lt born))
  | setCallback other _ =>
      exact .modifyClient client before other keepsTimer_callback
  | publish source topic payload _ ret _ returned =>
      rw [eq_published returned]
      exact publishBuilt_timerKept isRemote source topic payload
  | subscribe other topic qos _ fuel ret _ returned =>
      exact clientSubscribe_relates .trans
        (fun world other =>
          insertSubscription_timerKept client world other topic)
        (fun world other _ => .sendTo client world _ other) returned
  | unsubscribe other topic _ =>
      exact clientUnsubscribe_timerKept client before other topic
  | connectUpstream alive established _ returned =>
      rw [eq_uplinked returned]
      exact uplinked_timerKept notUpstream born alive established
  | internTopic name => exact .of_record rfl
  | releaseTopic topic => exact .of_record rfl
  | environment os => exact .of_record rfl

/-! ## Waiting for the next message -/

/-- The deadline that `clientAlive` sets for an attached client. -/
def Armed
    (world : World Index Os)
    (client : ClientId)
    (millis : Nat) : Prop :=
  (world.clients client).alive =
    (millis + 1000 * ((world.clients client).keepAlive + 5)) % 2 ^ 32

/-- A byte that completes no message only goes into the message. -/
theorem feed_of_silent
    (isRemote : (world.clients client).client = true)
    (byte : Byte)
    (silent :
      (world.feed client byte).trace.processedBy client =
        world.trace.processedBy client) :
    world.feed client byte = world.takeByte client byte := by
  rcases world.feed_cases client byte with ⟨_, taken⟩ | ⟨_, processed⟩
  · exact taken
  · have takenRemote :
        ((world.takeByte client byte).clients client).client = true := by
      simpa [takeByte] using isRemote
    rw [processed, trace_modifyClient,
      processedBy_processMessage takenRemote] at silent
    simp [takeByte] at silent

/-- A round of the read loop that completes no message. -/
theorem poll_of_silent
    (isRemote : (world.clients client).client = true)
    (silent :
      (world.poll client).2.trace.processedBy client =
        world.trace.processedBy client) :
    LinksKept world (world.poll client).2 ∧
      TimerKept client world (world.poll client).2 := by
  obtain ⟨device, work, result | ⟨session, byte, result⟩⟩ :=
    world.poll_cases client
  · rw [result]
    exact ⟨.device world device, .of_record rfl⟩
  · let fed : World Index Os :=
      { world with device := device }.log (.fed client session byte)
    have sameMessages :
        fed.trace.processedBy client = world.trace.processedBy client := by
      have kept :
          ReceptionKept client world { world with device := device } :=
        .of_device work.trace
      rw [trace_log, Trace.processedBy_cons, kept.processedBy]
      simp [Event.processedBy?]
    have keeps := keepsLogin_message fun message => message.incoming byte
    rw [result, ← sameMessages] at silent
    have read : TimerKept client world fed := .of_record rfl
    have fedRemote : (fed.clients client).client = true := isRemote
    rw [result, feed_of_silent fedRemote byte silent]
    exact ⟨.trans (.trans (.device world device) (.log _ _))
        (.modifyClient fed client keeps.toKeepsLinks),
      read.trans (.modifyClient client fed client
        (keepsTimer_message fun message => message.incoming byte))⟩

/-- A message that leaves its client attached arms its deadline. -/
theorem processMessage_armed
    {parent : BrokerId}
    {mesg : MqttMessage}
    (stays :
      ((world.processMessage client mesg).clients client).parent =
        some parent)
    (keepAlive :
      ((world.processMessage client mesg).clients client).keepAlive ≠ 0) :
    Armed (world.processMessage client mesg) client
      (world.processMessage client mesg).device.millis := by
  have processed :
      world.processMessage client mesg =
        world.processMessageWith
          (fun broker source topic mesg world =>
            (world.publish broker source topic mesg).2) client mesg := rfl
  rw [processed] at stays keepAlive ⊢
  obtain ⟨active, _, outcome⟩ :=
    processMessageWith_outcome
      (fun broker source topic mesg world =>
        (world.publish broker source topic mesg).2) world client mesg
  generalize world.processMessageWith _ client mesg = after
    at outcome stays keepAlive ⊢
  cases outcome with
  | rejected =>
      rw [clients_close_self] at stays
      contradiction
  | disconnected _ moreSeconds =>
      simp [World.clientAlive, clients_close_self] at stays
  | taken =>
      have attached : (active.clients client).parent = some parent := by
        simpa [World.clientAlive] using stays
      simp only [World.clientAlive, clients_modifyClient_self] at keepAlive
      simp [Armed, World.clientAlive, attached, keepAlive]

/-- A round of the read loop that completes a message arms the deadline. -/
theorem poll_armed
    (linked : Linked broker world)
    (attached : Attached world broker client slot)
    (handed :
      (world.poll client).2.trace.processedBy client ≠
        world.trace.processedBy client)
    (stays : Attached (world.poll client).2 broker client slot)
    (keepAlive : ((world.poll client).2.clients client).keepAlive ≠ 0) :
    Armed (world.poll client).2 client (world.poll client).2.device.millis := by
  have parent := stays.parent (linked.step (.poll client attached.polled))
  obtain ⟨device, work, result | ⟨session, byte, result⟩⟩ :=
    world.poll_cases client
  · have kept :
        ReceptionKept client world { world with device := device } :=
      .of_device work.trace
    rw [result, kept.processedBy] at handed
    exact absurd rfl handed
  · let fed : World Index Os :=
      { world with device := device }.log (.fed client session byte)
    rw [result] at handed parent keepAlive ⊢
    rcases fed.feed_cases client byte with ⟨_, taken⟩ | ⟨_, processed⟩
    · have kept :
          ReceptionKept client world { world with device := device } :=
        .of_device work.trace
      rw [taken, takeByte, trace_modifyClient, trace_log,
        Trace.processedBy_cons, kept.processedBy] at handed
      simp [Event.processedBy?] at handed
    · rw [processed, clients_modifyClient_self] at parent keepAlive
      have armed := processMessage_armed parent keepAlive
      rw [processed]
      simpa [Armed] using armed

/-- What is known of an attached client since its deadline was set. -/
structure DeadlineSet
    (broker : BrokerId)
    (client : ClientId)
    (slot : SlotId)
    (alive : Nat)
    (world : World Index Os) : Prop where
  attached : Attached world broker client slot
  alive : (world.clients client).alive = alive

/-- What is known of a client that is no longer attached. -/
structure Gone
    (client : ClientId)
    (slot : SlotId)
    (world : World Index Os) : Prop where
  detached : (world.clients client).parent = none
  connection : (world.clients client).connection = some slot

/-- A client that is gone stays so. -/
theorem Gone.step
    {action : Action Os}
    (gone : Gone client slot before)
    (linked : Linked broker before)
    (step : Step broker before action after) :
    Gone client slot after := by
  have aside :=
    step.aside linked (linked.remote client slot gone.connection)
      (linked.not_polled gone.detached gone.connection)
      (linked.lt_next gone.connection)
  exact ⟨aside.record ▸ gone.detached, aside.record ▸ gone.connection⟩

/-- Without message a step leaves the deadline alone, or closes the client. -/
theorem DeadlineSet.step
    {action : Action Os}
    {alive : Nat}
    (waiting : DeadlineSet broker client slot alive before)
    (linked : Linked broker before)
    (step : Step broker before action after)
    (silent :
      after.trace.processedBy client = before.trace.processedBy client) :
    DeadlineSet broker client slot alive after ∨ Gone client slot after := by
  have attached := waiting.attached
  by_cases isPoll : action = .poll client
  · subst isPoll
    cases step with
    | poll =>
        obtain ⟨kept, timer⟩ :=
          poll_of_silent (attached.remote linked) silent
        exact .inl ⟨attached.kept kept, timer.alive.trans waiting.alive⟩
  · by_cases isExpire : action = .expire client
    · subst isExpire
      cases step with
      | expire =>
          rcases expire_of_attached attached linked with same | ⟨_, closed⟩
          · rw [same]
            exact .inl waiting
          · rw [closed]
            refine .inr ⟨by rw [clients_close_self], ?_⟩
            rw [connection_close]
            exact attached.connection
    · have timer := step.timerKept linked attached isPoll isExpire
      exact .inl ⟨step.keepsAttached linked attached isPoll isExpire,
        timer.alive.trans waiting.alive⟩

/--
In a run without message the deadline of a client stays the same until the
client is closed.
-/
theorem DeadlineSet.run
    {alive : Nat}
    (linked : Linked broker before)
    (waiting : DeadlineSet broker client slot alive before)
    (run : Run broker always before after)
    (silent :
      after.trace.processedBy client = before.trace.processedBy client) :
    DeadlineSet broker client slot alive after ∨ Gone client slot after := by
  have isRemote := waiting.attached.remote linked
  have born := linked.member_lt_next waiting.attached.member
  induction run with
  | refl => exact .inl waiting
  | @tail middle after earlier last inductionHypothesis =>
      have linkedThen := (Run.trace linked earlier).1
      obtain ⟨_, first⟩ := Run.receives earlier isRemote born
      obtain ⟨action, step, _⟩ := last
      obtain ⟨_, _, second⟩ :=
        step.receives (first.remote.trans isRemote)
          (Nat.lt_of_lt_of_le born first.next)
      -- Nothing was handed on before the last step, and nothing in it.
      have silentFirst :
          middle.trace.processedBy client =
            before.trace.processedBy client := by
        rw [second.processedBy, first.processedBy, List.append_assoc,
          List.append_right_eq_self, List.append_eq_nil_iff] at silent
        rw [first.processedBy, silent.1, List.append_nil]
      rcases inductionHypothesis silentFirst with waiting | gone
      · exact waiting.step linkedThen step (silent.trans silentFirst.symm)
      · exact .inr (gone.step linkedThen step)

/-! ## The timeout check -/

/-- The timeout check of `MqttClient::loop` closes the client. -/
def TimesOut
    (world : World Index Os)
    (client : ClientId) : Prop :=
  ((world.expire client).clients client).parent = none

omit [Indexer Index] in
/-- An attached client times out when its deadline has passed. -/
theorem timesOut_iff_passed
    (linked : Linked broker world)
    (attached : Attached world broker client slot) :
    world.TimesOut client ↔
      Passed (world.clients client).alive world.device.millis := by
  have parent := attached.parent linked
  unfold TimesOut
  by_cases passed :
      Passed (world.clients client).alive world.device.millis
  · have closed : world.expire client = world.close client := by
      unfold expire
      dsimp only
      rw [parent]
      exact if_pos passed
    rw [closed, clients_close_self]
    exact iff_of_true rfl passed
  · have same : world.expire client = world := if_neg passed
    rw [same, parent]
    exact iff_of_false (Option.some_ne_none broker) passed

/-- Rounds that complete no message leave a client where it is. -/
theorem readLoop_of_silent
    {fuel : Nat}
    (isRemote : (world.clients client).client = true)
    (returned : readLoop client fuel world = some after)
    (silent :
      after.trace.processedBy client = world.trace.processedBy client) :
    (after.clients client).parent = (world.clients client).parent := by
  let keeps (middle : World Index Os) : Prop :=
    (middle.clients client).client = true ∧
      ∃ handed,
        middle.trace.processedBy client =
            world.trace.processedBy client ++ handed ∧
          (handed = [] →
            (middle.clients client).parent = (world.clients client).parent)
  have round (middle : World Index Os) (earlier : keeps middle) :
      keeps (middle.poll client).2 := by
    obtain ⟨isRemote, handed, processed, same⟩ := earlier
    obtain ⟨bytes, _, receives⟩ := poll_receives isRemote
    refine ⟨receives.remote.trans isRemote,
      handed ++ (Decoder.feed receive (middle.clients client).message bytes).2,
      ?_, ?_⟩
    · rw [receives.processedBy, processed, List.append_assoc]
    · intro nothing
      obtain ⟨nothingBefore, nothingNow⟩ := List.append_eq_nil_iff.mp nothing
      have silentNow := receives.processedBy
      rw [nothingNow, List.append_nil] at silentNow
      rw [(poll_of_silent isRemote silentNow).1.parent, same nothingBefore]
  rw [readLoop_eq_loop] at returned
  obtain ⟨_, handed, processed, same⟩ :=
    Polling.loop_preserves round returned
      ⟨isRemote, [], (List.append_nil _).symm, fun _ => rfl⟩
  rw [processed, List.append_right_eq_self] at silent
  exact same silent

/-- Without message the rest of `MqttClient::loop` closes nobody. -/
theorem clientLoop_of_silent
    {fuel : Nat}
    (returned : clientLoop fuel world client = some after)
    (silent :
      after.trace.processedBy client = world.trace.processedBy client) :
    (after.clients client).parent =
      ((world.expire client).clients client).parent := by
  have checked := expire_spared client world client
  unfold clientLoop at returned
  dsimp only at returned
  split at returned
  · rename_i isRemote
    exact readLoop_of_silent isRemote returned
      (silent.trans checked.processedBy.symm)
  · obtain rfl : world.expire client = after := Option.some.inj returned
    rfl

/--
A client hands a message on and stays attached.  At a later tick without
message in between, the timeout check is right, that is, it closes the client
if and only if more than the keep-alive time and five seconds have passed,
exactly when the clock is in the same turn as the deadline.  The rest of the
loop changes nothing about it.
-/
theorem times_out_on_time_iff
    {elapsed : Nat}
    {first start armed tick : World Index Os}
    (initial : Initial first broker)
    (earlier : Run broker always first start)
    (polled : Attached start broker client slot)
    (round : (start.poll client).2 = armed)
    (handed :
      armed.trace.processedBy client ≠ start.trace.processedBy client)
    (stays : Attached armed broker client slot)
    (keepAlive : 1 ≤ (armed.clients client).keepAlive)
    (sixteenBits : (armed.clients client).keepAlive ≤ 65535)
    (run : Run broker always armed tick)
    (silent :
      tick.trace.processedBy client = armed.trace.processedBy client)
    (notClosed : Attached tick broker client slot)
    (time :
      Platform.millis tick.device.os =
        Platform.millis armed.device.os + elapsed)
    (short : elapsed < 2 ^ 31) :
    ((tick.TimesOut client ↔
          1000 * ((armed.clients client).keepAlive + 5) < elapsed) ↔
        InTurn (2 ^ 32) (Platform.millis armed.device.os)
          (1000 * ((armed.clients client).keepAlive + 5)) elapsed) ∧
      ∀ fuel after,
        clientLoop fuel tick client = some after →
        after.trace.processedBy client = tick.trace.processedBy client →
          ((after.clients client).parent = none ↔ tick.TimesOut client) := by
  subst round
  have linkedStart := Linked.run initial earlier
  have linked := linkedStart.step (.poll client polled.polled)
  have linkedTick := (Run.trace linked run).1
  have armed :=
    poll_armed linkedStart polled handed stays
      (Nat.one_le_iff_ne_zero.mp keepAlive)
  have waiting :
      DeadlineSet broker client slot
        ((start.poll client).2.clients client).alive tick := by
    rcases DeadlineSet.run linked ⟨stays, rfl⟩ run silent with waiting | gone
    · exact waiting
    · have parent := notClosed.parent linkedTick
      rw [gone.detached] at parent
      contradiction
  constructor
  · rw [timesOut_iff_passed linkedTick notClosed, waiting.alive, armed,
      Device.millis, Device.millis, time, Nat.mod_add_mod]
    exact passed_iff_inTurn (by omega) (by omega) (by omega)
  · intro fuel after returned silentTick
    rw [clientLoop_of_silent returned silentTick]
    rfl

/-- A peer of which the first byte of a PINGRESP message was read. -/
def pingingAt (clock : Nat) : World StringIndexer Script :=
  performAll 0 always [.accept, .poll 0]
    (Script.setup
      { clock := clock
        connections := [5]
        receipts := Script.receive [0xD0, 0x00]
        sendResults := [] })

/-- The peer once the message was handed on. -/
def pingedAt (clock : Nat) : World StringIndexer Script :=
  ((pingingAt clock).poll 0).2

/-- The peer after some time of silence. -/
def silentSince (clock elapsed : Nat) : World StringIndexer Script :=
  performAll 0 always
    [.environment
      { clock := clock + elapsed
        connections := []
        receipts := []
        sendResults := [] }]
    (pingedAt clock)

/-- A peer that starts with the clock is closed after 65 seconds, not before. -/
theorem times_out_on_time_ping :
    (silentSince 0 65001).TimesOut 0 ∧ ¬ (silentSince 0 65000).TimesOut 0 := by
  have onTime (elapsed : Nat)
      (silent :
        (silentSince 0 elapsed).trace.processedBy 0 =
          (pingedAt 0).trace.processedBy 0)
      (notClosed : Attached (silentSince 0 elapsed) 0 0 0)
      (time :
        Platform.millis (silentSince 0 elapsed).device.os =
          Platform.millis (pingedAt 0).device.os + elapsed)
      (short : elapsed < 2 ^ 31) :=
    (times_out_on_time_iff (Script.initial_setup _)
      (run_performAll 0 always [.accept, .poll 0] _)
      ⟨by decide, by decide⟩ (rfl : _ = pingedAt 0) (by decide)
      ⟨by decide, by decide⟩ (by decide) (by decide)
      (run_performAll 0 always _ _) silent notClosed time short).1
  constructor
  · exact ((onTime 65001 (by decide) ⟨by decide, by decide⟩ (by decide)
      (by decide)).mpr (by decide)).mpr (by decide)
  · intro closed
    have late :=
      ((onTime 65000 (by decide) ⟨by decide, by decide⟩ (by decide)
        (by decide)).mpr (by decide)).mp closed
    exact absurd late (by decide)

/--
A message half a minute before the clock wraps: the client is closed ten
seconds later.  A message 65 seconds before it wraps: the client is not closed
after 65 seconds, nor a week later.
-/
theorem not_on_time_wrapping :
    (∃ script : Script, Run 0 always script.setup (pingingAt 4294937296)) ∧
      (pingedAt 4294937296).trace.processedBy 0 ≠
        (pingingAt 4294937296).trace.processedBy 0 ∧
      ((pingedAt 4294937296).clients 0).keepAlive = 60 ∧
      Run 0 always (pingedAt 4294937296) (silentSince 4294937296 10000) ∧
      Attached (silentSince 4294937296 10000) 0 0 0 ∧
      (silentSince 4294937296 10000).TimesOut 0 ∧
      (∃ script : Script, Run 0 always script.setup (pingingAt 4294902296)) ∧
      Run 0 always (pingedAt 4294902296) (silentSince 4294902296 65001) ∧
      ¬ (silentSince 4294902296 65001).TimesOut 0 ∧
      ¬ (silentSince 4294902296 604800000).TimesOut 0 := by
  refine ⟨⟨_, run_performAll 0 always _ _⟩, by decide, by decide,
    run_performAll 0 always _ _, ⟨by decide, by decide⟩, ?_,
    ⟨_, run_performAll 0 always _ _⟩, run_performAll 0 always _ _, ?_, ?_⟩
  all_goals
    unfold TimesOut
    decide

end World

end SimpleTlsBroker
