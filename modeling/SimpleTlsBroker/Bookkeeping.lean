import SimpleTlsBroker.ExactInterning
import SimpleTlsBroker.StepTransitions

namespace SimpleTlsBroker

/-!
# Books about topics

A table is balanced for given numbers of holders if every counter is the number
of holders of its index and what is held has an entry.  Here names may be the
beginnings of others; nothing is said about which index a name gets.

What a function of the broker does to the table is said once: for any holders
for which the table is balanced, it is balanced afterwards, and held topics
keep their names.
-/

namespace StringIndexer

/-- Every counter is the number of holders of its index. -/
structure Balanced
    (indexer : StringIndexer)
    (held : Topic → Nat) : Prop where
  unindexed : indexer.strings 0 = none
  counted :
    ∀ topic counter, indexer.entry topic = some counter →
      counter.used = held topic ∧ 0 < held topic
  entered :
    ∀ topic, topic.index ≠ 0 → 0 < held topic →
      ∃ counter, indexer.entry topic = some counter

namespace Balanced

variable {indexer after : StringIndexer}
variable {held : Topic → Nat}
variable {topic : Topic}

/-- The empty table, with no holders or with some that found no index. -/
theorem start
    (noIndex : ∀ topic, topic.index ≠ 0 → held topic = 0) :
    Balanced empty held where
  unindexed := rfl
  counted := by
    intro topic counter found
    cases found
  entered := by
    intro topic isIndex isHeld
    have notHeld := noIndex topic isIndex
    omega

/-- An entry belongs to an index. -/
theorem index_ne_zero
    {counter : StringCounter}
    (balanced : Balanced indexer held)
    (found : indexer.entry topic = some counter) :
    topic.index ≠ 0 := by
  intro isZero
  unfold entry at found
  rw [isZero, balanced.unindexed] at found
  contradiction

/-- Index 0 reads as the empty string. -/
theorem str_unindexed
    (unindexed : indexer.strings 0 = none)
    (isZero : topic.index = 0) :
    indexer.str topic = [] := by
  unfold str
  rw [isZero, unindexed]

/-- Taking an index counts one more holder and renames nothing. -/
theorem take
    (balanced : Balanced indexer held)
    (room : held topic < 255)
    (taken : Taken indexer topic after) :
    Balanced after (more held topic) ∧ KeepsNames held indexer after := by
  have unindexed := taken.unindexed balanced.unindexed
  constructor
  · refine ⟨unindexed, ?_, ?_⟩
    · intro other counter found
      by_cases same : other = topic
      · subst same
        have isIndex : other.index ≠ 0 := by
          intro isZero
          unfold entry at found
          rw [isZero, unindexed] at found
          contradiction
        obtain ⟨stored, isStored, cases⟩ := taken.entry_self isIndex
        rw [found] at isStored
        obtain rfl := Option.some.inj isStored
        rw [more, Function.update_self]
        rcases cases with ⟨free, used⟩ | ⟨earlier, isEarlier, used⟩
        · have notHeld : held other = 0 := by
            by_contra isHeld
            obtain ⟨earlier, isEarlier⟩ :=
              balanced.entered other isIndex (Nat.pos_of_ne_zero isHeld)
            rw [free] at isEarlier
            contradiction
          omega
        · have counted := balanced.counted other earlier isEarlier
          omega
      · rw [taken.entry_other same] at found
        rw [more, Function.update_of_ne same]
        exact balanced.counted other counter found
    · intro other isIndex isHeld
      by_cases same : other = topic
      · subst same
        obtain ⟨counter, found, _⟩ := taken.entry_self isIndex
        exact ⟨counter, found⟩
      · rw [more, Function.update_of_ne same] at isHeld
        rw [taken.entry_other same]
        exact balanced.entered other isIndex isHeld
  · intro other isHeld
    change after.str other = indexer.str other
    by_cases isZero : other.index = 0
    · rw [str_unindexed unindexed isZero,
        str_unindexed balanced.unindexed isZero]
    · obtain ⟨counter, found⟩ := balanced.entered other isZero isHeld
      obtain ⟨counter', found', sameStr⟩ := taken.str found
      rw [str_of_entry found, str_of_entry found', sameStr]

/-- Interning a name takes the index that is returned. -/
theorem strToIndex
    (balanced : Balanced indexer held)
    (room : ∀ topic, held topic < 255)
    (name : List Byte) :
    Balanced (indexer.strToIndex name).2
        (more held (indexer.strToIndex name).1) ∧
      KeepsNames held indexer (indexer.strToIndex name).2 :=
  balanced.take (room _)
    (taken_strToIndex indexer name balanced.unindexed)

/-- Copying a topic that is held. -/
theorem use
    (balanced : Balanced indexer held)
    (isHeld : 0 < held topic)
    (room : held topic < 255) :
    Balanced (indexer.use topic) (more held topic) ∧
      KeepsNames held indexer (indexer.use topic) :=
  balanced.take room
    (taken_use (fun isIndex => balanced.entered topic isIndex isHeld)
      balanced.unindexed)

/-- Giving an index back counts one holder less. -/
theorem release
    (balanced : Balanced indexer held)
    (isHeld : 0 < held topic)
    (room : held topic ≤ 255) :
    Balanced (indexer.release topic) (fewer held topic) ∧
      KeepsNames (fewer held topic) indexer (indexer.release topic) := by
  have entry :
      ∀ counter, indexer.entry topic = some counter →
        (indexer.release topic).entry topic =
          if held topic - 1 = 0 then
            none
          else
            some { counter with used := held topic - 1 } := by
    intro counter found
    obtain ⟨used, _⟩ := balanced.counted topic counter found
    have remains : (counter.used + 255) % 256 = held topic - 1 := by omega
    rw [entry_release found, remains]
  have unindexed : (indexer.release topic).strings 0 = none :=
    release_unindexed balanced.unindexed
  have stays :
      ∀ other, other.index ≠ 0 → 0 < fewer held topic other →
        ∃ counter counter', indexer.entry other = some counter ∧
          (indexer.release topic).entry other = some counter' := by
    intro other isIndex stillHeld
    by_cases same : other = topic
    · subst same
      rw [fewer, Function.update_self] at stillHeld
      obtain ⟨counter, found⟩ := balanced.entered other isIndex isHeld
      have kept := entry counter found
      rw [if_neg (by omega)] at kept
      exact ⟨counter, _, found, kept⟩
    · rw [fewer, Function.update_of_ne same] at stillHeld
      obtain ⟨counter, found⟩ := balanced.entered other isIndex stillHeld
      exact ⟨counter, counter, found,
        (entry_release_other indexer same).trans found⟩
  constructor
  · refine ⟨unindexed, ?_, ?_⟩
    · intro other counter found
      by_cases same : other = topic
      · subst same
        cases earlier : indexer.entry other with
        | none =>
            rw [release_of_none earlier, earlier] at found
            contradiction
        | some stored =>
            rw [entry stored earlier] at found
            rw [fewer, Function.update_self]
            split at found
            · contradiction
            · obtain rfl := Option.some.inj found
              exact ⟨rfl, by omega⟩
      · rw [entry_release_other indexer same] at found
        rw [fewer, Function.update_of_ne same]
        exact balanced.counted other counter found
    · intro other isIndex stillHeld
      obtain ⟨_, counter', _, found'⟩ := stays other isIndex stillHeld
      exact ⟨counter', found'⟩
  · intro other stillHeld
    change (indexer.release topic).str other = indexer.str other
    by_cases isZero : other.index = 0
    · rw [str_unindexed unindexed isZero,
        str_unindexed balanced.unindexed isZero]
    · obtain ⟨counter, counter', found, found'⟩ :=
        stays other isZero stillHeld
      rw [str_of_entry found, str_of_entry found', str_release found found']

/-- What is held and given back at once is as it was. -/
theorem release_more
    (balanced : Balanced indexer (more held topic))
    (room : held topic < 255) :
    Balanced (indexer.release topic) held ∧
      KeepsNames held indexer (indexer.release topic) := by
  have released :=
    balanced.release (more_self_pos held topic) (by simp [more]; omega)
  rw [fewer_more] at released
  exact released

end Balanced

end StringIndexer

/-- Names that are kept by one table and then by another. -/
theorem KeepsNames.trans
    [Indexer Index]
    {held : Topic → Nat}
    {first second third : Index}
    (earlier : KeepsNames held first second)
    (later : KeepsNames held second third) :
    KeepsNames held first third :=
  fun topic isHeld => (later topic isHeld).trans (earlier topic isHeld)

/-- Names that are kept with one more holder. -/
theorem KeepsNames.of_more
    [Indexer Index]
    {held : Topic → Nat}
    {before after : Index}
    {topic : Topic}
    (kept : KeepsNames (more held topic) before after) :
    KeepsNames held before after :=
  fun other isHeld => kept other (more_pos isHeld topic)

/-- Copying topics for a message, one after the other. -/
theorem StringIndexer.balanced_copies
    {held : Topic → Nat}
    {indexer : StringIndexer}
    (topics : List Topic)
    (msg : MqttMessage)
    (isHeld : ∀ topic ∈ topics, 0 < held topic)
    (fits : ∀ topic, held topic + 1 ≤ 255)
    (balanced : indexer.Balanced held) :
    let after :=
      (topics.foldl
        (fun (msg, indexer) topic =>
          let indexer := Indexer.use indexer topic
          ((msg.addString (Indexer.str indexer topic)).add 0,
            Indexer.release indexer topic))
        (msg, indexer)).2
    after.Balanced held ∧ KeepsNames held indexer after := by
  induction topics generalizing msg indexer with
  | nil => exact ⟨balanced, fun _ _ => rfl⟩
  | cons topic rest inductionHypothesis =>
      have fitsHere := fits topic
      have used :=
        balanced.use (isHeld topic List.mem_cons_self) (by omega)
      have released := used.1.release_more (by omega)
      have later :=
        inductionHypothesis
          ((msg.addString
            (Indexer.str (Indexer.use indexer topic) topic)).add 0)
          (fun other member =>
            isHeld other (List.mem_cons_of_mem topic member))
          released.1
      rw [List.foldl_cons]
      exact ⟨later.1, (used.2.trans released.2).trans later.2⟩

/-! ## Functions that leave the subscriptions alone -/

namespace World

variable {Os : Type}

/-- The table is balanced, and what clients are subscribed to is held. -/
structure Booked
    (world : World StringIndexer Os)
    (held : Topic → Nat) : Prop where
  balanced : world.indexer.Balanced held
  subscribed :
    ∀ client, ∀ topic ∈ (world.clients client).subscriptions,
      0 < held topic

/--
The subscriptions stay, and the books with them.  The counters need some room
for the topics that are held in between.
-/
structure KeepsBooks
    (room : Nat)
    (before after : World StringIndexer Os) : Prop where
  next : after.next = before.next
  subscriptions : ∀ client,
    (after.clients client).subscriptions =
      (before.clients client).subscriptions
  books :
    ∀ held, before.Booked held → (∀ topic, held topic + room ≤ 255) →
      after.indexer.Balanced held ∧
        KeepsNames held before.indexer after.indexer

namespace KeepsBooks

variable {room : Nat}
variable {before middle after : World StringIndexer Os}

/-- The table afterwards, with the subscriptions. -/
theorem booked
    (keeps : KeepsBooks room before after)
    {held : Topic → Nat}
    (booked : before.Booked held)
    (fits : ∀ topic, held topic + room ≤ 255) :
    after.Booked held where
  balanced := (keeps.books held booked fits).1
  subscribed client topic member := by
    rw [keeps.subscriptions] at member
    exact booked.subscribed client topic member

/-- What does not touch topics keeps the books. -/
theorem of_same
    (indexer : after.indexer = before.indexer)
    (subscriptions : ∀ client,
      (after.clients client).subscriptions =
        (before.clients client).subscriptions)
    (next : after.next = before.next) :
    KeepsBooks room before after where
  next := next
  subscriptions := subscriptions
  books held booked _ := by
    rw [indexer]
    exact ⟨booked.balanced, fun _ _ => rfl⟩

theorem refl (world : World StringIndexer Os) :
    KeepsBooks room world world :=
  .of_same rfl (fun _ => rfl) rfl

theorem trans
    (first : KeepsBooks room before middle)
    (second : KeepsBooks room middle after) :
    KeepsBooks room before after where
  next := second.next.trans first.next
  subscriptions client :=
    (second.subscriptions client).trans (first.subscriptions client)
  books held booked fits := by
    have earlier := first.books held booked fits
    have later := second.books held (first.booked booked fits) fits
    exact ⟨later.1, earlier.2.trans later.2⟩

/-- Less room is enough. -/
theorem roomy
    {more : Nat}
    (keeps : KeepsBooks room before after)
    (enough : room ≤ more) :
    KeepsBooks more before after where
  next := keeps.next
  subscriptions := keeps.subscriptions
  books held booked fits :=
    keeps.books held booked fun topic =>
      Nat.le_trans (Nat.add_le_add_left enough _) (fits topic)

/-- Logging an event. -/
theorem log
    (world : World StringIndexer Os)
    (event : Event) :
    KeepsBooks room world (world.log event) :=
  .of_same rfl (fun _ => rfl) rfl

/-- Work on the device. -/
theorem device
    (world : World StringIndexer Os)
    (device : Device Os) :
    KeepsBooks room world { world with device := device } :=
  .of_same rfl (fun _ => rfl) rfl

/-- Changing a record except for its subscriptions. -/
theorem modifyClient
    (world : World StringIndexer Os)
    (client : ClientId)
    {change : MqttClient → MqttClient}
    (keeps : ∀ record, (change record).subscriptions = record.subscriptions) :
    KeepsBooks room world (world.modifyClient client change) := by
  refine .of_same rfl ?_ rfl
  intro other
  by_cases same : other = client
  · subst same
    rw [clients_modifyClient_self, keeps]
  · rw [clients_modifyClient_other world change same]

/-- Constructing a topic, working with it, and destroying it. -/
theorem temporary
    (name : List Byte)
    (work :
      KeepsBooks room (before.internTopic name).2 middle)
    (result : after = middle.releaseTopic (before.internTopic name).1) :
    KeepsBooks (room + 1) before after := by
  subst result
  refine ⟨work.next, work.subscriptions, ?_⟩
  intro held booked fits
  have interned :=
    booked.balanced.strToIndex
      (fun topic => by have fitsHere := fits topic; omega) name
  have fitsMore :
      ∀ topic, more held (before.internTopic name).1 topic + room ≤ 255 := by
    intro topic
    have fitsHere := fits topic
    by_cases same : topic = (before.internTopic name).1
    · subst same
      simp only [more, Function.update_self]
      omega
    · simp only [more, Function.update_of_ne same]
      omega
  have bookedMore :
      (before.internTopic name).2.Booked
        (more held (before.internTopic name).1) :=
    ⟨interned.1, fun client topic member =>
      more_pos (booked.subscribed client topic member) _⟩
  obtain ⟨balanced, worked⟩ := work.books _ bookedMore fitsMore
  have fitsHere := fits (before.internTopic name).1
  have released := balanced.release_more (by omega)
  exact ⟨released.1, (interned.2.trans worked.of_more).trans released.2⟩

variable [Platform Os]

/-- Writing to the session of a client. -/
theorem writeClient
    (world : World StringIndexer Os)
    (client : ClientId)
    (bytes : List Byte) :
    KeepsBooks room world (world.writeClient client bytes) :=
  .device world _

/-- Sending a message. -/
theorem sendTo
    (world : World StringIndexer Os)
    (message : MqttMessage)
    (client : ClientId) :
    KeepsBooks room world (world.sendTo message client).2 := by
  unfold World.sendTo
  split
  · exact (log world _).trans (writeClient _ client _)
  · exact refl world

/-- Setting a deadline. -/
theorem clientAlive
    (world : World StringIndexer Os)
    (client : ClientId)
    (moreSeconds : Nat) :
    KeepsBooks room world (world.clientAlive client moreSeconds) := by
  unfold World.clientAlive
  exact modifyClient world client fun _ => rfl

/-- Closing a client: its subscriptions are not given back. -/
theorem close
    (world : World StringIndexer Os)
    (client : ClientId) :
    KeepsBooks room world (world.close client) := by
  refine .of_same ?_ ?_ (next_close world client)
  · unfold World.close
    dsimp only
    split
    · unfold removeClient dropSession
      split <;> rfl
    · rfl
  · intro other
    by_cases same : other = client
    · subst same
      rw [clients_close_self]
    · rw [clients_close_other world same]

/-- Sending the subscriptions again holds a copy of each for a while. -/
theorem resubscribe
    (world : World StringIndexer Os)
    (client : ClientId) :
    KeepsBooks 1 world (world.resubscribe client) := by
  unfold World.resubscribe
  dsimp only
  split
  · refine trans ?_ (sendTo { world with indexer := _ } _ client)
    refine ⟨rfl, fun _ => rfl, ?_⟩
    intro held booked fits
    exact StringIndexer.balanced_copies _ _
      (fun topic member => booked.subscribed client topic member) fits
      booked.balanced
  · exact refl world

/-! ## Messages -/

/-- The CONNECT case. -/
theorem processConnect
    (world : World StringIndexer Os)
    (client : ClientId)
    (mesg : MqttMessage) :
    KeepsBooks room world (world.processConnect client mesg).2 := by
  unfold World.processConnect
  dsimp only
  split
  · exact refl world
  · exact refl world
  · have read (change : MqttClient → MqttClient) (event : Event)
        (keeps :
          ∀ record, (change record).subscriptions = record.subscriptions) :
        KeepsBooks room world
          ((world.modifyClient client change).log event) :=
      (modifyClient world client keeps).trans (log _ event)
    split
    · refine ((read _ _ ?_).trans (modifyClient _ client ?_)).trans
        (sendTo _ _ client)
      · exact fun _ => rfl
      · exact fun _ => rfl
    · refine read _ _ ?_
      exact fun _ => rfl

/-- The CONNACK case. -/
theorem processConnAck
    (world : World StringIndexer Os)
    (client : ClientId) :
    KeepsBooks 1 world (world.processConnAck client).2 := by
  refine (modifyClient world client ?_).trans (resubscribe _ client)
  exact fun _ => rfl

/-- The PINGREQ case. -/
theorem processPingReq
    (world : World StringIndexer Os)
    (client : ClientId) :
    KeepsBooks room world (world.processPingReq client).2 := by
  unfold World.processPingReq
  dsimp only
  split
  · exact writeClient world client _
  · exact refl world

/-- The DISCONNECT case. -/
theorem processDisconnect
    (world : World StringIndexer Os)
    (client : ClientId) :
    KeepsBooks room world (world.processDisconnect client).2 := by
  unfold World.processDisconnect
  split
  · refine (modifyClient world client ?_).trans (close _ client)
    exact fun _ => rfl
  · exact refl world

/-- The PUBLISH case holds its topic while it hands the message on. -/
theorem processPublish
    {forward :
      BrokerId → ClientId → Topic → MqttMessage →
        World StringIndexer Os → World StringIndexer Os}
    (world : World StringIndexer Os)
    (client : ClientId)
    (mesg : MqttMessage)
    (forwarded :
      (world.clients client).client = true →
        ∀ parent topic middle,
          KeepsBooks room middle (forward parent client topic mesg middle)) :
    KeepsBooks (room + 1) world
      (world.processPublish forward client mesg).2 := by
  unfold World.processPublish
  dsimp only
  split
  · refine temporary _ ?_ rfl
    split
    · rename_i isRemote
      exact forwarded isRemote _ _ _
    · split
      · exact log _ _
      · exact refl _
  · exact refl world

/-- Messages other than requests for subscriptions. -/
theorem processKind
    {forward :
      BrokerId → ClientId → Topic → MqttMessage →
        World StringIndexer Os → World StringIndexer Os}
    (world : World StringIndexer Os)
    (client : ClientId)
    {mesg : MqttMessage}
    (notSubscribe : mesg.kind? ≠ some .subscribe)
    (notUnsubscribe : mesg.kind? ≠ some .unSubscribe)
    (forwarded :
      mesg.kind? = some .publish → (world.clients client).client = true →
        ∀ parent topic middle,
          KeepsBooks room middle (forward parent client topic mesg middle)) :
    KeepsBooks (room + 1) world
      (world.processKind forward client mesg).2 := by
  unfold World.processKind
  split
  · exact processConnect world client mesg
  · exact (processConnAck world client).roomy (Nat.le_add_left 1 room)
  · exact refl world
  · exact refl world
  · exact refl world
  · exact refl world
  · exact processPingReq world client
  · exact absurd ‹_› notSubscribe
  · exact absurd ‹_› notUnsubscribe
  · rename_i isPublish
    exact processPublish world client mesg (forwarded isPublish)
  · exact processDisconnect world client
  · exact refl world
  · exact refl world

/-- The end of `processMessage`. -/
theorem finish
    (client : ClientId)
    (arm : Arm StringIndexer Os) :
    KeepsBooks room arm.2 (World.finish client arm) := by
  unfold World.finish
  split
  · exact close arm.2 client
  · exact clientAlive arm.2 client _

/-- A message that asks for no subscriptions. -/
theorem processMessageWith
    {forward :
      BrokerId → ClientId → Topic → MqttMessage →
        World StringIndexer Os → World StringIndexer Os}
    (world : World StringIndexer Os)
    (client : ClientId)
    {mesg : MqttMessage}
    (notSubscribe : mesg.kind? ≠ some .subscribe)
    (notUnsubscribe : mesg.kind? ≠ some .unSubscribe)
    (forwarded :
      mesg.kind? = some .publish → (world.clients client).client = true →
        ∀ parent topic middle,
          KeepsBooks room middle (forward parent client topic mesg middle)) :
    KeepsBooks (room + 1) world
      (world.processMessageWith forward client mesg) :=
  ((log world _).trans
    (processKind _ client notSubscribe notUnsubscribe forwarded)).trans
      (finish client _)

/-- Delivering a publication. -/
theorem publishIfSubscribed
    (world : World StringIndexer Os)
    (client : ClientId)
    (topic : Topic)
    {msg : MqttMessage}
    (isPublish : msg.kind? = some .publish) :
    KeepsBooks 1 world (world.publishIfSubscribed client topic msg).2 := by
  unfold World.publishIfSubscribed
  split
  · split
    · exact sendTo world msg client
    · have idle (middle : World StringIndexer Os) :
          KeepsBooks 0 middle middle := refl middle
      exact processMessageWith world client (by simp [isPublish])
        (by simp [isPublish]) fun _ _ _ _ middle => idle middle
  · exact refl world

/-- One round of the loop of `publish`. -/
theorem publishStep
    (broker : BrokerId)
    (source : ClientId)
    (topic : Topic)
    {msg : MqttMessage}
    (isPublish : msg.kind? = some .publish)
    (world : World StringIndexer Os)
    (retval : MqttError)
    (client : ClientId) :
    let after :=
      World.publishStep broker source topic ((retval, msg), world) client
    after.1.2 = msg ∧ KeepsBooks 1 world after.2 := by
  have delivered (target : ClientId) :
      (world.publishIfSubscribed target topic msg).1.2 = msg ∧
        KeepsBooks 1 world
          (world.publishIfSubscribed target topic msg).2 := by
    refine ⟨?_, publishIfSubscribed world target topic isPublish⟩
    unfold World.publishIfSubscribed
    split
    · split
      · exact sendTo_complete (complete_of_publish isPublish)
      · rfl
    · rfl
  unfold World.publishStep
  dsimp only
  split
  · split
    · exact delivered _
    · exact delivered client
  · exact delivered client

/-- Publishing a message to the clients of a list. -/
theorem publish
    (world : World StringIndexer Os)
    (broker : BrokerId)
    (source : ClientId)
    (topic : Topic)
    {msg : MqttMessage}
    (isPublish : msg.kind? = some .publish) :
    KeepsBooks 1 world (world.publish broker source topic msg).2 := by
  have loop (clients : List ClientId) (retval : MqttError)
      (world : World StringIndexer Os) :
      KeepsBooks 1 world
        (clients.foldl (World.publishStep broker source topic)
          ((retval, msg), world)).2 := by
    induction clients generalizing retval world with
    | nil => exact refl world
    | cons client rest inductionHypothesis =>
        obtain ⟨sameMessage, first⟩ :=
          publishStep broker source topic isPublish world retval client
        rw [List.foldl_cons]
        generalize
          World.publishStep broker source topic ((retval, msg), world)
            client = state at sameMessage first ⊢
        obtain ⟨⟨retval', msg'⟩, middle⟩ := state
        dsimp only at sameMessage first
        subst sameMessage
        exact first.trans (inductionHypothesis retval' middle)
  exact loop (world.members broker) .ok world

/-- A message that asks for no subscriptions, with `parent->publish`. -/
theorem processMessage
    (world : World StringIndexer Os)
    (client : ClientId)
    {mesg : MqttMessage}
    (notSubscribe : mesg.kind? ≠ some .subscribe)
    (notUnsubscribe : mesg.kind? ≠ some .unSubscribe) :
    KeepsBooks 2 world (world.processMessage client mesg) :=
  processMessageWith world client notSubscribe notUnsubscribe
    fun isPublish _ parent topic middle =>
      publish middle parent client topic isPublish

/-- A publication of the application. -/
theorem publishBuilt
    (world : World StringIndexer Os)
    (client : ClientId)
    (topic : Topic)
    (payload : List Byte)
    (isPublish :
      (publishMessage (Indexer.str world.indexer topic) payload).kind? =
        some .publish) :
    KeepsBooks 1 world (world.publishBuilt client topic payload).2 := by
  unfold World.publishBuilt
  dsimp only
  split
  · exact publish world _ client topic isPublish
  · exact sendTo world _ client
  · exact refl world

/-- The CONNECT message of a link, and its deadline. -/
theorem onConnect
    (world : World StringIndexer Os)
    (client : ClientId) :
    KeepsBooks room world (world.onConnect client) :=
  (sendTo world _ client).trans (clientAlive _ client 0)

/-- Connecting a client to a host. -/
theorem hosted
    (world : World StringIndexer Os)
    (client : ClientId)
    (ka : Nat)
    (established : Bool) :
    KeepsBooks room world (world.hosted client ka established) := by
  have opened :
      KeepsBooks room world
        (((world.modifyClient client fun record =>
            { record with keepAlive := ka }).close client).modifyClient client
          fun record => { record with client := true }) := by
    refine ((modifyClient world client ?_).trans (close _ client)).trans
      (modifyClient _ client ?_)
    · exact fun _ => rfl
    · exact fun _ => rfl
  unfold World.hosted
  dsimp only
  split
  · exact opened.trans (onConnect _ client)
  · exact opened

end KeepsBooks

end World

end SimpleTlsBroker
