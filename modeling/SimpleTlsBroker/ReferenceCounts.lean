import SimpleTlsBroker.Bookkeeping
import SimpleTlsBroker.Bystanders
import SimpleTlsBroker.Library.Shares
import SimpleTlsBroker.Scripts

namespace SimpleTlsBroker

/-!
# Who holds a topic

A topic is held by every client that is subscribed to it, closed clients
included, and by the application as often as it has constructed it.  In every
run the counters of the string table are the numbers of these holders.
-/

open History

namespace World

variable {Os : Type}

/-- How many clients are subscribed to a topic. -/
def holders (world : World StringIndexer Os) (topic : Topic) : Nat :=
  Shares.count (Finset.range world.next)
    (fun client topic => topic ∈ (world.clients client).subscriptions) topic

/-- The holders of a topic, with those outside of the clients. -/
def held
    (world : World StringIndexer Os)
    (owned : Topic → Nat)
    (topic : Topic) : Nat :=
  world.holders topic + owned topic

/-- Clients that are not created yet are not subscribed. -/
def UnbornIdle (world : World StringIndexer Os) : Prop :=
  ∀ client, world.next ≤ client →
    (world.clients client).subscriptions = .empty

/-- The counters are the numbers of holders. -/
structure Ledger
    (owned : Topic → Nat)
    (world : World StringIndexer Os) : Prop where
  balanced : world.indexer.Balanced (world.held owned)
  unborn : world.UnbornIdle

/-- No counter is near its end. -/
def Spacious
    (owned : Topic → Nat)
    (world : World StringIndexer Os) : Prop :=
  ∀ topic, world.held owned topic ≤ 253

/-- A topic held before and after keeps its name. -/
structure Accounted
    (owned owned' : Topic → Nat)
    (before after : World StringIndexer Os) : Prop where
  ledger : Ledger owned' after
  names :
    ∀ topic, 0 < before.held owned topic → 0 < after.held owned' topic →
      after.indexer.str topic = before.indexer.str topic

variable {owned owned' : Topic → Nat}
variable {before middle after world : World StringIndexer Os}
variable {client : ClientId}
variable {topic : Topic}

/-! ## Counting subscriptions -/

/-- The same subscriptions have the same holders. -/
theorem holders_of_same
    (unborn : before.UnbornIdle)
    (subscriptions : ∀ client,
      (after.clients client).subscriptions =
        (before.clients client).subscriptions)
    (next : before.next ≤ after.next)
    (topic : Topic) :
    after.holders topic = before.holders topic := by
  unfold holders
  have newcomers :
      Shares.count (Finset.range after.next)
          (fun client topic =>
            topic ∈ (before.clients client).subscriptions) topic =
        Shares.count (Finset.range before.next)
          (fun client topic =>
            topic ∈ (before.clients client).subscriptions) topic := by
    apply Shares.count_mono (Finset.range_subset_range.mpr next)
    intro client _ notBorn
    rw [Finset.mem_range, not_lt] at notBorn
    rw [unborn client notBorn]
    exact TopicSet.not_mem_empty topic
  rw [← newcomers]
  apply Shares.count_congr
  intro client _
  rw [subscriptions]

/-- Clients that are not created stay without subscriptions. -/
theorem UnbornIdle.of_same
    (unborn : before.UnbornIdle)
    (subscriptions : ∀ client,
      (after.clients client).subscriptions =
        (before.clients client).subscriptions)
    (next : before.next ≤ after.next) :
    after.UnbornIdle := by
  intro client notBorn
  rw [subscriptions]
  exact unborn client (Nat.le_trans next notBorn)

/-- Changing the subscriptions of a client that is there. -/
theorem UnbornIdle.modifyClient
    (unborn : world.UnbornIdle)
    (born : client < world.next)
    (change : MqttClient → MqttClient) :
    (world.modifyClient client change).UnbornIdle := by
  intro other notBorn
  have distinct : other ≠ client := by
    rintro rfl
    exact Nat.not_lt.mpr notBorn born
  rw [clients_modifyClient_other world change distinct]
  exact unborn other notBorn

/-- Changing the subscriptions of one client. -/
def changeSubscriptions
    (world : World StringIndexer Os)
    (client : ClientId)
    (change : TopicSet → TopicSet) : World StringIndexer Os :=
  world.modifyClient client fun record =>
    { record with subscriptions := change record.subscriptions }

/-- Who is subscribed after the subscriptions of one client were changed. -/
theorem mem_changeSubscriptions
    (world : World StringIndexer Os)
    (client other : ClientId)
    (change : TopicSet → TopicSet)
    (topic : Topic) :
    topic ∈ ((world.changeSubscriptions client change).clients
        other).subscriptions ↔
      topic ∈ if other = client then
          change (world.clients client).subscriptions
        else
          (world.clients other).subscriptions := by
  unfold changeSubscriptions
  by_cases same : other = client
  · subst same
    rw [clients_modifyClient_self, if_pos rfl]
  · rw [clients_modifyClient_other world _ same, if_neg same]

/-- A change that does not concern a topic. -/
theorem holders_changeSubscriptions_of_iff
    {change : TopicSet → TopicSet}
    (same :
      topic ∈ change (world.clients client).subscriptions ↔
        topic ∈ (world.clients client).subscriptions) :
    (world.changeSubscriptions client change).holders topic =
      world.holders topic := by
  apply Shares.count_congr
  intro other _
  rw [mem_changeSubscriptions]
  by_cases isClient : other = client
  · rw [if_pos isClient, isClient]
    exact same
  · rw [if_neg isClient]

/-- A new subscription is one more holder. -/
theorem holders_insert
    (born : client < world.next)
    (absent : topic ∉ (world.clients client).subscriptions) :
    (world.changeSubscriptions client fun set => set.insert topic).holders =
      more world.holders topic := by
  funext other
  by_cases same : other = topic
  · subst same
    rw [more, Function.update_self]
    apply Shares.count_gain (Finset.mem_range.mpr born) absent
    · rw [mem_changeSubscriptions, if_pos rfl, TopicSet.mem_insert]
      exact .inl rfl
    · intro someone _ distinct
      rw [mem_changeSubscriptions, if_neg distinct]
  · rw [more, Function.update_of_ne same]
    apply holders_changeSubscriptions_of_iff
    rw [TopicSet.mem_insert]
    exact or_iff_right same

/-- A subscription that is there already is no new holder. -/
theorem holders_insert_again
    (present : topic ∈ (world.clients client).subscriptions) :
    (world.changeSubscriptions client fun set => set.insert topic).holders =
      world.holders := by
  funext other
  apply holders_changeSubscriptions_of_iff
  rw [TopicSet.mem_insert, or_iff_right_iff_imp]
  rintro rfl
  exact present

/-- A subscription that is given up is one holder less. -/
theorem holders_erase
    (born : client < world.next)
    (present : topic ∈ (world.clients client).subscriptions) :
    (world.changeSubscriptions client fun set => set.erase topic).holders =
      fewer world.holders topic := by
  funext other
  by_cases same : other = topic
  · subst same
    rw [fewer, Function.update_self]
    have loss :
        (world.changeSubscriptions client
            fun set => set.erase other).holders other + 1 =
          world.holders other := by
      apply Shares.count_loss (Finset.mem_range.mpr born) present
      · rw [mem_changeSubscriptions, if_pos rfl, TopicSet.mem_erase]
        exact fun erased => erased.2 rfl
      · intro someone _ distinct
        rw [mem_changeSubscriptions, if_neg distinct]
    omega
  · rw [fewer, Function.update_of_ne same]
    apply holders_changeSubscriptions_of_iff
    rw [TopicSet.mem_erase]
    exact and_iff_left same

/-- What nobody was subscribed to is given up by nobody. -/
theorem holders_erase_absent
    (absent : topic ∉ (world.clients client).subscriptions) :
    (world.changeSubscriptions client fun set => set.erase topic).holders =
      world.holders := by
  funext other
  apply holders_changeSubscriptions_of_iff
  rw [TopicSet.mem_erase, and_iff_left_iff_imp]
  rintro present rfl
  exact absent present

/-- One more holder among the clients is one more holder. -/
theorem more_add
    (holders owned : Topic → Nat)
    (topic : Topic) :
    (fun other => more holders topic other + owned other) =
      more (fun other => holders other + owned other) topic := by
  funext other
  by_cases same : other = topic
  · subst same
    simp only [more, Function.update_self]
    omega
  · simp only [more, Function.update_of_ne same]

/-- One holder less among the clients is one holder less. -/
theorem fewer_add
    {holders owned : Topic → Nat}
    (isHeld : 0 < holders topic) :
    (fun other => fewer holders topic other + owned other) =
      fewer (fun other => holders other + owned other) topic := by
  funext other
  by_cases same : other = topic
  · subst same
    simp only [fewer, Function.update_self]
    omega
  · simp only [fewer, Function.update_of_ne same]

/-- A subscriber is a holder. -/
theorem holders_pos
    (unborn : world.UnbornIdle)
    (present : topic ∈ (world.clients client).subscriptions) :
    0 < world.holders topic := by
  refine Shares.count_pos_iff.mpr ⟨client, ?_, present⟩
  rw [Finset.mem_range]
  by_contra notBorn
  rw [unborn client (Nat.le_of_not_lt notBorn)] at present
  exact TopicSet.not_mem_empty topic present

/-- There are no more holders than clients. -/
theorem holders_le_next
    (world : World StringIndexer Os)
    (topic : Topic) :
    world.holders topic ≤ world.next := by
  have counted := Finset.card_filter_le (Finset.range world.next)
    fun client => topic ∈ (world.clients client).subscriptions
  rw [Finset.card_range] at counted
  exact counted

/-- A topic that was constructed has one more holder. -/
theorem held_internTopic
    (world : World StringIndexer Os)
    (owned : Topic → Nat)
    (name : List Byte) :
    (world.internTopic name).2.held (more owned (world.internTopic name).1) =
      more (world.held owned) (world.internTopic name).1 := by
  funext topic
  by_cases same : topic = (world.internTopic name).1
  · subst same
    simp only [held, more, Function.update_self]
    exact (Nat.add_assoc _ _ _).symm
  · simp only [held, more, Function.update_of_ne same]
    rfl

/-- The holders after a subscription was kept. -/
theorem holders_insertSubscription
    (born : client < world.next)
    (topic : Topic) :
    (world.insertSubscription client topic).holders =
      if topic ∈ (world.clients client).subscriptions then
        world.holders
      else
        more world.holders topic := by
  by_cases present : topic ∈ (world.clients client).subscriptions
  · have holders := holders_insert_again present
    unfold insertSubscription
    rw [if_pos present, if_pos present]
    exact holders
  · have holders :
        ((world.useTopic topic).changeSubscriptions client
            fun set => set.insert topic).holders =
          more world.holders topic :=
      holders_insert born present
    unfold insertSubscription
    rw [if_neg present, if_neg present]
    exact holders

/-! ## Steps of the books -/

namespace Accounted

/-- One after the other, if what is held throughout is held in between. -/
theorem trans
    {owned'' : Topic → Nat}
    (first : Accounted owned owned' before middle)
    (second : Accounted owned' owned'' middle after)
    (between :
      ∀ topic, 0 < before.held owned topic → 0 < after.held owned'' topic →
        0 < middle.held owned' topic) :
    Accounted owned owned'' before after where
  ledger := second.ledger
  names topic earlier later := by
    have isHeld := between topic earlier later
    exact (second.names topic isHeld later).trans
      (first.names topic earlier isHeld)

end Accounted

namespace Ledger

/-- What clients are subscribed to is held. -/
theorem booked (ledger : Ledger owned world) :
    world.Booked (world.held owned) where
  balanced := ledger.balanced
  subscribed _ _ member :=
    Nat.add_pos_left (holders_pos ledger.unborn member) _

/-- The holders that stay the same, with those outside. -/
theorem held_of_same
    (ledger : Ledger owned before)
    (subscriptions : ∀ client,
      (after.clients client).subscriptions =
        (before.clients client).subscriptions)
    (next : before.next ≤ after.next) :
    after.held owned = before.held owned := by
  funext topic
  exact congrArg (· + owned topic)
    (holders_of_same ledger.unborn subscriptions next topic)

/-- Clients that come without subscriptions need no books. -/
theorem of_same
    (ledger : Ledger owned before)
    (indexer : after.indexer = before.indexer)
    (subscriptions : ∀ client,
      (after.clients client).subscriptions =
        (before.clients client).subscriptions)
    (next : before.next ≤ after.next) :
    Accounted owned owned before after := by
  refine ⟨⟨?_, ledger.unborn.of_same subscriptions next⟩, ?_⟩
  · rw [indexer, ledger.held_of_same subscriptions next]
    exact ledger.balanced
  · intro topic _ _
    rw [indexer]

/-- What keeps the books keeps the ledger. -/
theorem keeps
    {room : Nat}
    (ledger : Ledger owned before)
    (keeps : KeepsBooks room before after)
    (fits : ∀ topic, before.held owned topic + room ≤ 255) :
    Accounted owned owned before after := by
  obtain ⟨balanced, names⟩ := keeps.books _ ledger.booked fits
  have next := Nat.le_of_eq keeps.next.symm
  have held := ledger.held_of_same keeps.subscriptions next
  refine ⟨⟨?_, ledger.unborn.of_same keeps.subscriptions next⟩, ?_⟩
  · rw [held]
    exact balanced
  · intro topic isHeld _
    exact names topic isHeld

/-- The application constructs a topic. -/
theorem internTopic
    (ledger : Ledger owned before)
    (room : ∀ topic, before.held owned topic < 255)
    (name : List Byte) :
    Accounted owned (more owned (before.internTopic name).1) before
      (before.internTopic name).2 := by
  have interned := ledger.balanced.strToIndex room name
  refine ⟨⟨?_, ledger.unborn⟩, ?_⟩
  · rw [held_internTopic]
    exact interned.1
  · intro topic isHeld _
    exact interned.2 topic isHeld

/-- The application destroys a topic of its own. -/
theorem releaseTopic
    (ledger : Ledger owned before)
    (room : before.held owned topic ≤ 255)
    (owns : 0 < owned topic) :
    Accounted owned (fewer owned topic) before
      (before.releaseTopic topic) := by
  have isHeld : 0 < before.held owned topic := Nat.add_pos_right _ owns
  have released := ledger.balanced.release isHeld room
  have held :
      (before.releaseTopic topic).held (fewer owned topic) =
        fewer (before.held owned) topic := by
    funext other
    by_cases same : other = topic
    · subst same
      simp only [World.held, fewer, Function.update_self]
      change before.holders other + (owned other - 1) = _
      omega
    · simp only [World.held, fewer, Function.update_of_ne same]
      rfl
  refine ⟨⟨?_, ledger.unborn⟩, ?_⟩
  · rw [held]
    exact released.1
  · intro other _ stillHeld
    rw [held] at stillHeld
    exact released.2 other stillHeld

/-- A client keeps a copy of a topic that is held. -/
theorem insertSubscription
    (ledger : Ledger owned before)
    (room : before.held owned topic < 255)
    (born : client < before.next)
    (isHeld : 0 < before.held owned topic) :
    Accounted owned owned before
      (before.insertSubscription client topic) := by
  have unborn : (before.insertSubscription client topic).UnbornIdle := by
    have used : (before.useTopic topic).UnbornIdle := ledger.unborn
    unfold World.insertSubscription
    split
    · exact ledger.unborn.modifyClient born _
    · exact used.modifyClient born _
  have holders := holders_insertSubscription born topic
  by_cases present : topic ∈ (before.clients client).subscriptions
  · rw [if_pos present] at holders
    have indexer :
        (before.insertSubscription client topic).indexer =
          before.indexer := by
      unfold World.insertSubscription
      rw [if_pos present]
      rfl
    refine ⟨⟨?_, unborn⟩, ?_⟩
    · unfold World.held
      rw [indexer, holders]
      exact ledger.balanced
    · intro other _ _
      rw [indexer]
  · rw [if_neg present] at holders
    have indexer :
        (before.insertSubscription client topic).indexer =
          before.indexer.use topic := by
      unfold World.insertSubscription
      rw [if_neg present]
      rfl
    have used := ledger.balanced.use isHeld room
    refine ⟨⟨?_, unborn⟩, ?_⟩
    · unfold World.held
      rw [indexer, holders, more_add]
      exact used.1
    · intro other isHeld _
      rw [indexer]
      exact used.2 other isHeld

/-- A client gives up its copy. -/
theorem eraseSubscription
    (ledger : Ledger owned before)
    (room : before.held owned topic ≤ 255)
    (born : client < before.next)
    (present : topic ∈ (before.clients client).subscriptions) :
    Accounted owned owned before
      ((before.changeSubscriptions client
        fun set => set.erase topic).releaseTopic topic) := by
  have holders := holders_erase born present
  have counted := holders_pos ledger.unborn present
  have isHeld : 0 < before.held owned topic := Nat.add_pos_left counted _
  have released := ledger.balanced.release isHeld room
  have unborn :
      (before.changeSubscriptions client
        fun set => set.erase topic).UnbornIdle :=
    ledger.unborn.modifyClient born _
  have held :
      ((before.changeSubscriptions client
          fun set => set.erase topic).releaseTopic topic).held owned =
        fewer (before.held owned) topic := by
    have sameHolders :
        ((before.changeSubscriptions client
            fun set => set.erase topic).releaseTopic topic).holders =
          fewer before.holders topic := holders
    unfold World.held
    rw [sameHolders]
    exact fewer_add counted
  refine ⟨⟨?_, unborn⟩, ?_⟩
  · rw [held]
    exact released.1
  · intro other _ stillHeld
    rw [held] at stillHeld
    exact released.2 other stillHeld

end Ledger

/-! ## Functions that change subscriptions -/

/-- Nobody is created, and subscriptions are only added. -/
structure Extends (before after : World StringIndexer Os) : Prop where
  next : after.next = before.next
  subscriptions :
    ∀ client, ∀ topic ∈ (before.clients client).subscriptions,
      topic ∈ (after.clients client).subscriptions

namespace Extends

theorem refl (world : World StringIndexer Os) : Extends world world :=
  ⟨rfl, fun _ _ => id⟩

theorem trans
    (first : Extends before middle)
    (second : Extends middle after) :
    Extends before after where
  next := second.next.trans first.next
  subscriptions client topic member :=
    second.subscriptions client topic
      (first.subscriptions client topic member)

/-- More subscriptions have more holders. -/
theorem held_le
    (extend : Extends before after)
    (owned : Topic → Nat)
    (topic : Topic) :
    before.held owned topic ≤ after.held owned topic := by
  have holders : before.holders topic ≤ after.holders topic := by
    unfold World.holders
    rw [extend.next]
    exact Shares.count_le_count
      fun client => extend.subscriptions client topic
  exact Nat.add_le_add_right holders _

/-- Keeping one more subscription. -/
theorem insertSubscription
    (world : World StringIndexer Os)
    (client : ClientId)
    (topic : Topic) :
    Extends world (world.insertSubscription client topic) := by
  have inserted (world : World StringIndexer Os) :
      Extends world
        (world.changeSubscriptions client fun set => set.insert topic) := by
    refine ⟨rfl, ?_⟩
    intro other item member
    rw [mem_changeSubscriptions]
    split
    · rename_i same
      subst same
      exact TopicSet.mem_insert.mpr (.inr member)
    · exact member
  have used := inserted (world.useTopic topic)
  unfold World.insertSubscription
  split
  · exact inserted world
  · exact ⟨used.next, used.subscriptions⟩

/-- Giving a subscription up. -/
theorem eraseSubscription
    (world : World StringIndexer Os)
    (client : ClientId)
    (topic : Topic) :
    Extends (world.changeSubscriptions client fun set => set.erase topic)
      world := by
  refine ⟨rfl, ?_⟩
  intro other item member
  rw [mem_changeSubscriptions] at member
  split at member
  · rename_i same
    rw [same]
    exact (TopicSet.mem_erase.mp member).1
  · exact member

/-- A round of the topic loop with SUBSCRIBE. -/
theorem processFilter_subscribe
    (world : World StringIndexer Os)
    (client : ClientId)
    (qoss : List Byte)
    (filter : List Byte × Byte) :
    Extends world (processFilter true client (qoss, world) filter).2 := by
  have inserted :=
    insertSubscription (world.internTopic filter.1).2 client
      (world.internTopic filter.1).1
  exact ⟨inserted.next, inserted.subscriptions⟩

/-- A round with UNSUBSCRIBE. -/
theorem processFilter_unsubscribe
    (world : World StringIndexer Os)
    (client : ClientId)
    (qoss : List Byte)
    (filter : List Byte × Byte) :
    Extends (processFilter false client (qoss, world) filter).2 world := by
  have erased :=
    eraseSubscription (world.internTopic filter.1).2 client
      (world.internTopic filter.1).1
  unfold processFilter
  dsimp only
  rw [if_neg Bool.false_ne_true]
  split
  · exact ⟨erased.next, erased.subscriptions⟩
  · exact ⟨erased.next, erased.subscriptions⟩

/-- The topic loop with SUBSCRIBE. -/
theorem foldl_subscribe
    (client : ClientId)
    (filters : List (List Byte × Byte))
    (qoss : List Byte)
    (world : World StringIndexer Os) :
    Extends world
      (filters.foldl (processFilter true client) (qoss, world)).2 := by
  induction filters generalizing qoss world with
  | nil => exact refl world
  | cons filter rest inductionHypothesis =>
      exact (processFilter_subscribe world client qoss filter).trans
        (inductionHypothesis _ _)

/-- The topic loop with UNSUBSCRIBE. -/
theorem foldl_unsubscribe
    (client : ClientId)
    (filters : List (List Byte × Byte))
    (qoss : List Byte)
    (world : World StringIndexer Os) :
    Extends
      (filters.foldl (processFilter false client) (qoss, world)).2 world := by
  induction filters generalizing qoss world with
  | nil => exact refl world
  | cons filter rest inductionHypothesis =>
      exact (inductionHypothesis _ _).trans
        (processFilter_unsubscribe world client qoss filter)

end Extends

namespace Ledger

/-- A round of the topic loop with SUBSCRIBE. -/
theorem processFilter_subscribe
    (ledger : Ledger owned before)
    (spacious : before.Spacious owned)
    (born : client < before.next)
    (qoss : List Byte)
    (filter : List Byte × Byte) :
    Accounted owned owned before
      (processFilter true client (qoss, before) filter).2 := by
  let topic := (before.internTopic filter.1).1
  let interned := (before.internTopic filter.1).2
  let inserted := interned.insertSubscription client topic
  have heldInterned :
      interned.held (more owned topic) = more (before.held owned) topic :=
    held_internTopic before owned filter.1
  have spaciousHere := spacious topic
  have heldTopic :
      interned.held (more owned topic) topic =
        before.held owned topic + 1 := by
    rw [heldInterned, more, Function.update_self]
  have bornStill : client < interned.next := born
  have extended : Extends interned inserted :=
    .insertSubscription interned client topic
  have grown := extended.held_le (more owned topic)
  have taken : Accounted owned (more owned topic) before interned :=
    ledger.internTopic
      (fun topic => Nat.lt_of_le_of_lt (spacious topic) (by decide)) filter.1
  have copied :
      Accounted (more owned topic) (more owned topic) interned inserted :=
    taken.ledger.insertSubscription (by omega) bornStill (by omega)
  have room : inserted.held (more owned topic) topic ≤ 255 := by
    have holders :
        inserted.holders topic ≤ interned.holders topic + 1 := by
      unfold inserted
      rw [holders_insertSubscription bornStill topic]
      split
      · exact Nat.le_succ _
      · simp [more]
    have held :
        inserted.held (more owned topic) topic ≤
          interned.held (more owned topic) topic + 1 := by
      unfold World.held
      omega
    omega
  have given :
      Accounted (more owned topic) (fewer (more owned topic) topic) inserted
        (inserted.releaseTopic topic) :=
    copied.ledger.releaseTopic room (more_self_pos owned topic)
  rw [fewer_more] at given
  have heldMore (other : Topic) (isHeld : 0 < before.held owned other) :
      0 < interned.held (more owned topic) other := by
    rw [heldInterned]
    exact more_pos isHeld topic
  refine (taken.trans copied ?_).trans given ?_
  · intro other isHeld _
    exact heldMore other isHeld
  · intro other isHeld _
    exact Nat.lt_of_lt_of_le (heldMore other isHeld) (grown other)

/-- A round with UNSUBSCRIBE. -/
theorem processFilter_unsubscribe
    (ledger : Ledger owned before)
    (spacious : before.Spacious owned)
    (born : client < before.next)
    (qoss : List Byte)
    (filter : List Byte × Byte) :
    Accounted owned owned before
      (processFilter false client (qoss, before) filter).2 := by
  let topic := (before.internTopic filter.1).1
  let interned := (before.internTopic filter.1).2
  let erased := interned.changeSubscriptions client fun set => set.erase topic
  have bornStill : client < interned.next := born
  have heldInterned :
      interned.held (more owned topic) = more (before.held owned) topic :=
    held_internTopic before owned filter.1
  have room (other : Topic) :
      interned.held (more owned topic) other ≤ 255 := by
    have spaciousHere := spacious other
    rw [heldInterned]
    by_cases same : other = topic
    · subst same
      simp only [more, Function.update_self]
      omega
    · simp only [more, Function.update_of_ne same]
      omega
  have taken : Accounted owned (more owned topic) before interned :=
    ledger.internTopic
      (fun topic => Nat.lt_of_le_of_lt (spacious topic) (by decide)) filter.1
  have given {world : World StringIndexer Os}
      (ledger : Ledger (more owned topic) world)
      (room : world.held (more owned topic) topic ≤ 255) :
      Accounted (more owned topic) owned world
        (world.releaseTopic topic) := by
    have released := ledger.releaseTopic room (more_self_pos owned topic)
    rw [fewer_more] at released
    exact released
  have heldMore (other : Topic) (isHeld : 0 < before.held owned other) :
      0 < interned.held (more owned topic) other := by
    rw [heldInterned]
    exact more_pos isHeld topic
  by_cases present : topic ∈ (interned.clients client).subscriptions
  · have result :
        (processFilter false client (qoss, before) filter).2 =
          (erased.releaseTopic topic).releaseTopic topic := by
      unfold processFilter
      dsimp only
      rw [if_neg Bool.false_ne_true, if_pos present]
      rfl
    have fewerHeld :=
      (Extends.eraseSubscription interned client topic).held_le
        (more owned topic)
    have givenUp :
        Accounted (more owned topic) (more owned topic) interned
          (erased.releaseTopic topic) :=
      taken.ledger.eraseSubscription (room topic) bornStill present
    rw [result]
    refine (taken.trans givenUp ?_).trans
      (given givenUp.ledger (Nat.le_trans (fewerHeld topic) (room topic))) ?_
    · intro other isHeld _
      exact heldMore other isHeld
    · intro other _ stillHeld
      refine Nat.lt_of_lt_of_le stillHeld (Nat.add_le_add_left ?_ _)
      by_cases same : other = topic
      · subst same
        simp [more]
      · simp [more, same]
  · have result :
        (processFilter false client (qoss, before) filter).2 =
          erased.releaseTopic topic := by
      unfold processFilter
      dsimp only
      rw [if_neg Bool.false_ne_true, if_neg present]
      rfl
    have sameHolders : erased.holders = interned.holders :=
      holders_erase_absent present
    have sameHeld :
        erased.held (more owned topic) =
          interned.held (more owned topic) := by
      unfold held
      rw [sameHolders]
    have kept :
        Accounted (more owned topic) (more owned topic) interned erased := by
      refine ⟨⟨?_, taken.ledger.unborn.modifyClient bornStill _⟩,
        fun _ _ _ => rfl⟩
      rw [sameHeld]
      exact taken.ledger.balanced
    rw [result]
    refine (taken.trans kept ?_).trans (given kept.ledger ?_) ?_
    · intro other isHeld _
      exact heldMore other isHeld
    · rw [sameHeld]
      exact room topic
    · intro other isHeld _
      rw [sameHeld]
      exact heldMore other isHeld

/-- The topic loop. -/
theorem foldl_processFilter
    (subscribe : Bool)
    (filters : List (List Byte × Byte))
    (qoss : List Byte)
    (ledger : Ledger owned before)
    (born : client < before.next)
    (spacious : before.Spacious owned)
    (spaciousAfter :
      (filters.foldl (processFilter subscribe client)
        (qoss, before)).2.Spacious owned) :
    Accounted owned owned before
      (filters.foldl (processFilter subscribe client) (qoss, before)).2 := by
  induction filters generalizing qoss before with
  | nil => exact ⟨ledger, fun _ _ _ => rfl⟩
  | cons filter rest inductionHypothesis =>
      rw [List.foldl_cons] at spaciousAfter ⊢
      cases subscribe with
      | true =>
          have extended :=
            Extends.processFilter_subscribe before client qoss filter
          have later :=
            Extends.foldl_subscribe client rest
              (processFilter true client (qoss, before) filter).1
              (processFilter true client (qoss, before) filter).2
          have first :=
            ledger.processFilter_subscribe spacious born qoss filter
          refine first.trans
            (inductionHypothesis _ first.ledger (extended.next ▸ born)
              ?_ spaciousAfter) ?_
          · intro topic
            exact Nat.le_trans (later.held_le owned topic)
              (spaciousAfter topic)
          · intro topic isHeld _
            exact Nat.lt_of_lt_of_le isHeld (extended.held_le owned topic)
      | false =>
          have extended :=
            Extends.processFilter_unsubscribe before client qoss filter
          have later :=
            Extends.foldl_unsubscribe client rest
              (processFilter false client (qoss, before) filter).1
              (processFilter false client (qoss, before) filter).2
          have first :=
            ledger.processFilter_unsubscribe spacious born qoss filter
          refine first.trans
            (inductionHypothesis _ first.ledger (extended.next ▸ born)
              ?_ spaciousAfter) ?_
          · intro topic
            exact Nat.le_trans (extended.held_le owned topic)
              (spacious topic)
          · intro topic _ stillHeld
            exact Nat.lt_of_lt_of_le stillHeld (later.held_le owned topic)

end Ledger

/-- The holders stay with the subscriptions. -/
theorem KeepsBooks.held
    {room : Nat}
    (keeps : KeepsBooks room before after)
    (owned : Topic → Nat) :
    after.held owned = before.held owned := by
  funext topic
  have holders : after.holders topic = before.holders topic := by
    unfold World.holders
    rw [keeps.next]
    apply Shares.count_congr
    intro client _
    rw [keeps.subscriptions]
  exact congrArg (· + owned topic) holders

/-- Functions that keep the books, after others. -/
theorem Accounted.keeps
    {room : Nat}
    (first : Accounted owned owned' before middle)
    (keeps : KeepsBooks room middle after)
    (fits : ∀ topic, after.held owned' topic + room ≤ 255) :
    Accounted owned owned' before after := by
  have held := keeps.held owned'
  rw [held] at fits
  refine first.trans (first.ledger.keeps keeps fits) ?_
  intro topic _ isHeld
  rw [held] at isHeld
  exact isHeld

/-- Without much space there is some. -/
theorem Spacious.fits
    {room : Nat}
    (spacious : world.Spacious owned)
    (small : room ≤ 2)
    (topic : Topic) :
    world.held owned topic + room ≤ 255 :=
  Nat.add_le_add (spacious topic) small

/-- The space is the same where the holders are. -/
theorem Spacious.earlier
    {room : Nat}
    (spacious : after.Spacious owned)
    (keeps : KeepsBooks room before after) :
    before.Spacious owned := by
  intro topic
  rw [← keeps.held owned]
  exact spacious topic

/-- And the other way round. -/
theorem Spacious.later
    {room : Nat}
    (spacious : before.Spacious owned)
    (keeps : KeepsBooks room before after) :
    after.Spacious owned := by
  intro topic
  rw [keeps.held owned]
  exact spacious topic

namespace Ledger

variable [Platform Os]

/-- The SUBSCRIBE and UNSUBSCRIBE case. -/
theorem processSubscribe
    (subscribe : Bool)
    (ledger : Ledger owned before)
    (born : client < before.next)
    (mesg : MqttMessage)
    (spacious : before.Spacious owned)
    (spaciousAfter :
      (before.processSubscribe subscribe client mesg).2.Spacious owned) :
    Accounted owned owned before
      (before.processSubscribe subscribe client mesg).2 := by
  unfold World.processSubscribe at spaciousAfter ⊢
  by_cases connected : (before.clients client).mqttConnected = true
  · rw [if_pos connected] at spaciousAfter ⊢
    dsimp only at spaciousAfter ⊢
    generalize
      (MqttClient.parseFilters subscribe mesg.buffer.length
        mesg.buffer.length (mesg.vheader + 2)).run (before.memory mesg) =
      parsed at spaciousAfter ⊢
    have answered (ack : MqttMessage) :
        KeepsBooks 0
          (parsed.1.foldl (processFilter subscribe client) ([], before)).2
          ((parsed.1.foldl (processFilter subscribe client)
            ([], before)).2.sendOwn ack client) :=
      .sendTo _ ack client
    exact (ledger.foldl_processFilter subscribe parsed.1 [] born spacious
      (spaciousAfter.earlier (answered _))).keeps (answered _)
        (spaciousAfter.fits (Nat.zero_le 2))
  · rw [if_neg connected]
    exact ⟨ledger, fun _ _ _ => rfl⟩

/-- `processMessage`, whatever the message. -/
theorem processMessage
    (ledger : Ledger owned before)
    (born : client < before.next)
    (mesg : MqttMessage)
    (spacious : before.Spacious owned)
    (spaciousAfter : (before.processMessage client mesg).Spacious owned) :
    Accounted owned owned before (before.processMessage client mesg) := by
  have noted : KeepsBooks 0 before (before.log (.processed client mesg)) :=
    .log before _
  have logged :=
    ledger.keeps noted (spacious.fits (Nat.zero_le 2))
  have requested
      (subscribe : Bool)
      (result :
        before.processMessage client mesg =
          World.finish client
            ((before.log (.processed client mesg)).processSubscribe subscribe
              client mesg)) :
      Accounted owned owned before (before.processMessage client mesg) := by
    have finished (arm : Arm StringIndexer Os) :
        KeepsBooks 0 arm.2 (World.finish client arm) :=
      .finish client arm
    rw [result] at spaciousAfter ⊢
    have processed :=
      logged.ledger.processSubscribe subscribe born mesg
        (spacious.later noted) (spaciousAfter.earlier (finished _))
    refine (logged.trans processed ?_).keeps (finished _)
      (spaciousAfter.fits (Nat.zero_le 2))
    intro topic isHeld _
    rw [noted.held]
    exact isHeld
  by_cases isSubscribe : mesg.kind? = some .subscribe
  · apply requested true
    unfold World.processMessage processMessageWith processKind
    rw [isSubscribe]
  · by_cases isUnsubscribe : mesg.kind? = some .unSubscribe
    · apply requested false
      unfold World.processMessage processMessageWith processKind
      rw [isUnsubscribe]
    · exact ledger.keeps
        (.processMessage before client isSubscribe isUnsubscribe)
        (spacious.fits (Nat.le_refl 2))

/-- `MqttClient::subscribe` only adds subscriptions. -/
theorem clientSubscribe_extends
    {fuel : Nat}
    {qos : Byte}
    {ret : MqttError}
    (returned :
      clientSubscribe fuel before client topic qos = some (ret, after)) :
    Extends before after := by
  refine clientSubscribe_relates Extends.trans ?_ ?_ returned
  · intro world client
    exact .insertSubscription world client topic
  · intro world client type
    have sent :
        KeepsBooks 0 world (world.sendTopic client topic type qos).2 :=
      .sendTo world _ client
    refine ⟨sent.next, ?_⟩
    intro other item member
    rw [sent.subscriptions]
    exact member

/-- `MqttClient::subscribe`, on the client and on the upstream link. -/
theorem clientSubscribe
    {fuel : Nat}
    {qos : Byte}
    {ret : MqttError}
    {broker : BrokerId}
    (ledger : Ledger owned before)
    (linked : Linked broker before)
    (born : client < before.next)
    (unconnected : (before.clients client).connection = none)
    (owns : 0 < owned topic)
    (spacious : after.Spacious owned)
    (returned :
      World.clientSubscribe fuel before client topic qos =
        some (ret, after)) :
    Accounted owned owned before after := by
  induction fuel generalizing before client with
  | zero => simp [World.clientSubscribe] at returned
  | succ fuel inductionHypothesis =>
      have extended := clientSubscribe_extends returned
      have room := Nat.le_trans (extended.held_le owned topic) (spacious topic)
      have inserted : Accounted owned owned before
          (before.insertSubscription client topic) :=
        ledger.insertSubscription (by omega) born
          (Nat.add_pos_right _ owns)
      have added : Extends before
          (before.insertSubscription client topic) :=
        .insertSubscription before client topic
      have changes :
          Changes never (fun _ => True) before
            (before.insertSubscription client topic) :=
        insertSubscription_changes before topic trivial
      have linked' := linked.changes changes
      have sent (type : Byte) :
          KeepsBooks 0 (before.insertSubscription client topic)
            ((before.insertSubscription client topic).sendTopic client topic
              type qos).2 :=
        .sendTo _ _ client
      rw [World.clientSubscribe] at returned
      split at returned
      · obtain ⟨_, rfl⟩ := Prod.mk.inj (Option.some.inj returned)
        exact inserted.keeps (sent _) (spacious.fits (Nat.zero_le 2))
      · rename_i parent attached
        split at returned
        · rename_i upstream isUpstream
          split at returned
          · rw [linked'.parentBroker client parent attached] at isUpstream
            have later :=
              inductionHypothesis inserted.ledger linked'
                (linked'.outside upstream isUpstream).2
                (linked'.unconnected upstream isUpstream) returned
            refine inserted.trans later ?_
            intro other isHeld _
            exact Nat.lt_of_lt_of_le isHeld (added.held_le owned other)
          · obtain ⟨_, rfl⟩ := Prod.mk.inj (Option.some.inj returned)
            exact inserted
        · obtain ⟨_, rfl⟩ := Prod.mk.inj (Option.some.inj returned)
          exact inserted

/-- `MqttClient::unsubscribe`. -/
theorem clientUnsubscribe
    (ledger : Ledger owned before)
    (born : client < before.next)
    (topic : Topic)
    (spacious : before.Spacious owned) :
    Accounted owned owned before
      (before.clientUnsubscribe client topic).2 := by
  unfold World.clientUnsubscribe
  by_cases present : topic ∈ (before.clients client).subscriptions
  · rw [if_pos present]
    dsimp only
    have erased : Accounted owned owned before
        ((before.changeSubscriptions client
          fun set => set.erase topic).releaseTopic topic) :=
      ledger.eraseSubscription
        (Nat.le_trans (spacious topic) (by decide)) born present
    split
    · have sent (world : World StringIndexer Os) (type : Byte) :
          KeepsBooks 0 world (world.sendTopic client topic type 0).2 :=
        .sendTo world _ client
      refine erased.keeps (sent _ _) ?_
      intro other
      rw [(sent _ _).held]
      exact Nat.le_trans
        ((Extends.eraseSubscription before client topic).held_le owned other)
        (Nat.le_trans (spacious other) (by decide))
    · exact erased
  · rw [if_neg present]
    exact ⟨ledger, fun _ _ _ => rfl⟩

/-- Feeding a byte to a message, and processing it when it is complete. -/
theorem feed
    (ledger : Ledger owned before)
    (born : client < before.next)
    (byte : Byte)
    (spacious : before.Spacious owned)
    (spaciousAfter : (before.feed client byte).Spacious owned) :
    Accounted owned owned before (before.feed client byte) := by
  have taken : KeepsBooks 0 before (before.takeByte client byte) := by
    refine .modifyClient before client ?_
    exact fun _ => rfl
  have takenLedger := ledger.keeps taken (spacious.fits (Nat.zero_le 2))
  rcases before.feed_cases client byte with ⟨_, result⟩ | ⟨_, result⟩
  · rw [result]
    exact takenLedger
  · have reset (world : World StringIndexer Os) :
        KeepsBooks 0 world
          (world.modifyClient client fun record =>
            { record with message := record.message.reset }) := by
      refine .modifyClient world client ?_
      exact fun _ => rfl
    rw [result] at spaciousAfter ⊢
    have processed :=
      takenLedger.ledger.processMessage born _ (spacious.later taken)
        (spaciousAfter.earlier (reset _))
    refine (takenLedger.trans processed ?_).keeps (reset _)
      (spaciousAfter.fits (Nat.zero_le 2))
    intro topic isHeld _
    rw [taken.held]
    exact isHeld

/-- A round of the read loop. -/
theorem poll
    (ledger : Ledger owned before)
    (born : client < before.next)
    (spacious : before.Spacious owned)
    (spaciousAfter : (before.poll client).2.Spacious owned) :
    Accounted owned owned before (before.poll client).2 := by
  obtain ⟨device, _, result | ⟨slot, byte, result⟩⟩ :=
    before.poll_cases client
  · have worked : KeepsBooks 0 before { before with device := device } :=
      .device before device
    rw [result]
    exact ledger.keeps worked (spacious.fits (Nat.zero_le 2))
  · have worked : KeepsBooks 0 before
        ({ before with device := device }.log (.fed client slot byte)) :=
      .trans (.device before device) (.log _ _)
    rw [result] at spaciousAfter ⊢
    have read := ledger.keeps worked (spacious.fits (Nat.zero_le 2))
    have fed :=
      read.ledger.feed born byte (spacious.later worked) spaciousAfter
    refine read.trans fed ?_
    intro topic isHeld _
    rw [worked.held]
    exact isHeld

/-- The timeout check. -/
theorem expire
    (ledger : Ledger owned before)
    (client : ClientId)
    (spacious : before.Spacious owned) :
    Accounted owned owned before (before.expire client) := by
  have keeps : KeepsBooks 0 before (before.expire client) := by
    unfold World.expire
    dsimp only
    split
    · split
      · exact .close before client
      · split
        · exact .clientAlive before client 0
        · exact .refl before
      · exact .refl before
    · exact .refl before
  exact ledger.keeps keeps (spacious.fits (Nat.zero_le 2))

omit [Platform Os] in
/-- A client that is created has no subscriptions. -/
theorem created
    {record : MqttClient}
    {broker : BrokerId}
    (ledger : Ledger owned before)
    (created : Created broker record before after)
    (indexer : after.indexer = before.indexer)
    (unsubscribed : record.subscriptions = .empty) :
    Accounted owned owned before after := by
  refine ledger.of_same indexer ?_ (created.next ▸ Nat.le_succ before.next)
  intro client
  by_cases isNew : client = before.next
  · subst isNew
    rw [created.self, ledger.unborn before.next (Nat.le_refl _)]
    exact unsubscribed
  · rw [created.other client isNew]

/-- The accept part of the loop. -/
theorem accept
    (ledger : Ledger owned before)
    (broker : BrokerId) :
    Accounted owned owned before (before.accept broker) := by
  cases found : before.device.checkAvail.1 with
  | none =>
      rw [accept_none broker found]
      exact ledger.of_same rfl (fun _ => rfl) (Nat.le_refl _)
  | some slot =>
      refine ledger.created (created_accept broker found).1 ?_ rfl
      unfold World.accept
      dsimp only
      split <;> rfl

/-- Setting up the upstream link. -/
theorem uplinked
    (ledger : Ledger owned before)
    (broker : BrokerId)
    (alive : Nat)
    (established : Bool)
    (spacious : before.Spacious owned) :
    Accounted owned owned before
      (before.uplinked broker alive established) := by
  have indexer :
      (before.upstreamLink broker alive).2.indexer = before.indexer := by
    unfold upstreamLink
    split <;> rfl
  have next : before.next ≤ (before.upstreamLink broker alive).2.next := by
    unfold upstreamLink
    split
    · exact Nat.le_refl _
    · exact Nat.le_succ _
  have subscriptions (client : ClientId) :
      ((before.upstreamLink broker alive).2.clients client).subscriptions =
        (before.clients client).subscriptions := by
    unfold upstreamLink
    split
    · rfl
    · by_cases isNew : client = before.next
      · subst isNew
        rw [ledger.unborn before.next (Nat.le_refl _)]
        simp [modifyBroker, MqttClient.initial]
      · simp [modifyBroker, isNew]
  have connected (world : World StringIndexer Os) (upstream : ClientId) :
      KeepsBooks 0 world
        ((world.hosted upstream 10 established).modifyClient upstream
          fun record => { record with parent := some broker }) := by
    refine (KeepsBooks.hosted world upstream 10 established).trans
      (.modifyClient _ upstream ?_)
    exact fun _ => rfl
  unfold World.uplinked
  dsimp only
  refine (ledger.of_same indexer subscriptions next).keeps (connected _ _) ?_
  intro topic
  rw [(connected _ _).held, ledger.held_of_same subscriptions next]
  exact spacious.fits (Nat.zero_le 2) topic

end Ledger

end World


/-! ## Runs, with the topics of the application -/

/-- The program, and how often the application has constructed each topic. -/
structure Registry (Os : Type) where
  world : World StringIndexer Os
  owned : Topic → Nat

namespace Registry

open World

variable {Os : Type}

/-- The clients that are subscribed to a topic, and the topics constructed. -/
def held (registry : Registry Os) : Topic → Nat :=
  registry.world.held registry.owned

/-- The name of a topic. -/
def str (registry : Registry Os) (topic : Topic) : List Byte :=
  registry.world.indexer.str topic

/-- No topic has more than 253 holders. -/
def Spacious (registry : Registry Os) : Prop :=
  ∀ topic, registry.held topic ≤ 253

/--
The application calls clients that it has created, subscribes with topics that
it has constructed, destroys no others, and publishes what fits a message.
-/
def Permits (registry : Registry Os) : Action Os → Prop
  | .publish _ topic payload =>
      (publishMessage (registry.str topic) payload).kind? = some .publish
  | .subscribe client topic _ =>
      client < registry.world.next ∧ 0 < registry.owned topic
  | .unsubscribe client _ => client < registry.world.next
  | .releaseTopic topic => 0 < registry.owned topic
  | _ => True

instance
    (registry : Registry Os)
    (action : Action Os) : Decidable (registry.Permits action) :=
  match action with
  | .publish _ _ _ => inferInstanceAs (Decidable (_ = _))
  | .subscribe _ _ _ => inferInstanceAs (Decidable (_ ∧ _))
  | .unsubscribe _ _ => inferInstanceAs (Decidable (_ < _))
  | .releaseTopic _ => inferInstanceAs (Decidable (_ < _))
  | .accept | .expire _ | .poll _ | .newLocal _ _ | .setCallback _
  | .connectUpstream _ _ | .internTopic _ | .environment _ => .isTrue trivial

/-- The topics of the application after an action. -/
def ownedAfter
    (registry : Registry Os) : Action Os → Topic → Nat
  | .internTopic name =>
      more registry.owned (registry.world.internTopic name).1
  | .releaseTopic topic => fewer registry.owned topic
  | _ => registry.owned

/-- A freshly set up device without topics. -/
structure Start
    (broker : BrokerId)
    (registry : Registry Os) : Prop where
  initial : Initial registry.world broker
  noTopics : registry.world.indexer = .empty
  noneOwned : ∀ topic, registry.owned topic = 0

variable [Platform Os]

/-- One step of the program that is permitted. -/
def Next (broker : BrokerId) (before after : Registry Os) : Prop :=
  ∃ action, Step broker before.world action after.world ∧
    before.Permits action ∧ after.owned = before.ownedAfter action

/-- A run whose states all meet a condition. -/
abbrev Run
    (broker : BrokerId)
    (condition : Registry Os → Prop) : Registry Os → Registry Os → Prop :=
  Relation.ReflTransGen fun before after =>
    Next broker before after ∧ condition before ∧ condition after

variable {broker : BrokerId}
variable {before middle after : Registry Os}
variable {topic : Topic}

/-- Every permitted step keeps the ledger. -/
theorem Next.accounted
    (next : Next broker before after)
    (linked : Linked broker before.world)
    (ledger : World.Ledger before.owned before.world)
    (spacious : before.Spacious)
    (spaciousAfter : after.Spacious) :
    Accounted before.owned after.owned before.world after.world := by
  obtain ⟨action, step, permitted, owned⟩ := next
  obtain ⟨world, owned'⟩ := after
  dsimp only at step owned ⊢
  have polledBorn {client : ClientId}
      (polled : before.world.Polled broker client) :
      client < before.world.next := by
    rcases polled with member | isUpstream
    · exact linked.member_lt_next member
    · exact (linked.outside client isUpstream).2
  have fits (topic : Topic) : before.held topic + 1 ≤ 255 :=
    Spacious.fits spacious (by decide) topic
  cases step with
  | accept =>
      subst owned
      exact ledger.accept broker
  | expire client polled =>
      subst owned
      exact ledger.expire client spacious
  | poll client polled =>
      subst owned
      exact ledger.poll (polledBorn polled) spacious spaciousAfter
  | newLocal id alive =>
      subst owned
      exact ledger.created (created_newLocal _ broker id alive) rfl rfl
  | setCallback client isLocal =>
      subst owned
      refine ledger.keeps (.modifyClient before.world client ?_) fits
      exact fun _ => rfl
  | publish client topic payload isLocal ret _ returned =>
      subst owned
      rw [eq_published returned]
      exact ledger.keeps
        (.publishBuilt before.world client topic payload permitted) fits
  | subscribe client topic qos isLocal fuel ret _ returned =>
      subst owned
      exact ledger.clientSubscribe linked permitted.1
        (linked.unconnected_of_local isLocal) permitted.2 spaciousAfter
        returned
  | unsubscribe client topic isLocal =>
      subst owned
      exact ledger.clientUnsubscribe permitted topic spacious
  | connectUpstream alive established _ returned =>
      subst owned
      rw [eq_uplinked returned]
      exact ledger.uplinked broker alive established spacious
  | internTopic name =>
      subst owned
      exact ledger.internTopic
        (fun topic => Nat.lt_of_le_of_lt (spacious topic) (by decide)) name
  | releaseTopic topic =>
      subst owned
      exact ledger.releaseTopic
        (Nat.le_trans (spacious topic) (by decide)) permitted
  | environment os =>
      subst owned
      exact ledger.keeps (.device before.world _) fits

omit [Platform Os] in
/-- At the start nobody holds anything. -/
theorem Start.ledger
    (start : Start broker before) :
    Linked broker before.world ∧ World.Ledger before.owned before.world := by
  have noHolders (topic : Topic) : before.world.holders topic = 0 := by
    apply Nat.eq_zero_of_not_pos
    intro isHeld
    obtain ⟨client, _, member⟩ := Shares.count_pos_iff.mp isHeld
    rw [start.initial.noClients client] at member
    exact TopicSet.not_mem_empty topic member
  refine ⟨.initial start.initial, ?_, ?_⟩
  · rw [start.noTopics]
    refine .start fun topic _ => ?_
    rw [World.held, noHolders, start.noneOwned]
  · intro client _
    rw [start.initial.noClients client]
    rfl

/-- The links and the ledger, along a run. -/
theorem Run.ledger
    (run : Run broker Spacious before after)
    (linked : Linked broker before.world)
    (ledger : World.Ledger before.owned before.world) :
    Linked broker after.world ∧ World.Ledger after.owned after.world := by
  induction run with
  | refl => exact ⟨linked, ledger⟩
  | tail _ last inductionHypothesis =>
      obtain ⟨next, spacious, spaciousAfter⟩ := last
      obtain ⟨linked, ledger⟩ := inductionHypothesis
      have accounted := next.accounted linked ledger spacious spaciousAfter
      obtain ⟨action, step, _⟩ := next
      exact ⟨linked.step step, accounted.ledger⟩

/-! ## Scripted runs -/

/-- Perform one action. -/
def perform
    (broker : BrokerId)
    (registry : Registry Os)
    (action : Action Os) : Registry Os where
  world := registry.world.perform broker action
  owned := registry.ownedAfter action

/-- May all these actions be performed, with few clients and topics? -/
def allowsAll
    (broker : BrokerId) :
    (owned : Nat) → Registry Os → List (Action Os) → Bool
  | _, _, [] => true
  | owned, registry, action :: rest =>
      registry.world.allows broker action &&
        decide (registry.Permits action) &&
        decide (registry.world.next + owned ≤ 253) &&
        decide ((registry.perform broker action).world.next + (owned + 1) ≤
          253) &&
        allowsAll broker (owned + 1) (registry.perform broker action) rest

omit [Platform Os] in
/-- Few clients and topics leave enough space. -/
theorem spacious_of_small
    {owned : Nat}
    (few : ∀ topic, before.owned topic ≤ owned)
    (small : before.world.next + owned ≤ 253) :
    before.Spacious :=
  fun topic =>
    Nat.le_trans
      (Nat.add_le_add (before.world.holders_le_next topic) (few topic)) small

omit [Platform Os] in
/-- An action constructs one topic at most. -/
theorem ownedAfter_le
    (registry : Registry Os)
    (action : Action Os)
    (topic : Topic) :
    registry.ownedAfter action topic ≤ registry.owned topic + 1 := by
  have moreLe (other : Topic) :
      more registry.owned other topic ≤ registry.owned topic + 1 := by
    by_cases same : topic = other
    · subst same
      simp [more]
    · simp [more, same]
  have fewerLe (other : Topic) :
      fewer registry.owned other topic ≤ registry.owned topic + 1 := by
    by_cases same : topic = other
    · subst same
      simp only [fewer, Function.update_self]
      omega
    · simp [fewer, same]
  unfold ownedAfter
  split
  · exact moreLe _
  · exact fewerLe _
  · exact Nat.le_succ _

/-- So many actions construct no more topics. -/
theorem owned_foldl_le
    (actions : List (Action Os))
    (registry : Registry Os)
    (topic : Topic) :
    (actions.foldl (perform broker) registry).owned topic ≤
      registry.owned topic + actions.length := by
  induction actions generalizing registry with
  | nil => exact Nat.le_refl _
  | cons action rest inductionHypothesis =>
      have first := registry.ownedAfter_le action topic
      have later := inductionHypothesis (registry.perform broker action)
      change _ ≤ registry.ownedAfter action topic + rest.length at later
      rw [List.foldl_cons, List.length_cons]
      omega

/-- Performing an action that is allowed is a step. -/
theorem next_perform
    {action : Action Os}
    (allowed : before.world.allows broker action = true)
    (permitted : before.Permits action) :
    Next broker before (before.perform broker action) :=
  ⟨action, step_perform allowed, permitted, rfl⟩

/-- Performing actions that are allowed is a run. -/
theorem run_foldl
    (actions : List (Action Os))
    (owned : Nat)
    (registry : Registry Os)
    (few : ∀ topic, registry.owned topic ≤ owned)
    (allowed : allowsAll broker owned registry actions = true) :
    Run broker Spacious registry (actions.foldl (perform broker) registry) := by
  induction actions generalizing owned registry with
  | nil => exact .refl
  | cons action rest inductionHypothesis =>
      simp only [allowsAll, Bool.and_eq_true, decide_eq_true_eq] at allowed
      obtain ⟨⟨⟨⟨isAllowed, permitted⟩, small⟩, smallAfter⟩, later⟩ := allowed
      have fewAfter (topic : Topic) :
          (registry.perform broker action).owned topic ≤ owned + 1 :=
        Nat.le_trans (registry.ownedAfter_le action topic)
          (Nat.succ_le_succ (few topic))
      exact .head
        ⟨next_perform isAllowed permitted, spacious_of_small few small,
          spacious_of_small fewAfter smallAfter⟩
        (inductionHypothesis (owned + 1) _ fewAfter later)

/-- A peer that logs in, subscribes to `"a"` and leaves. -/
def leavingScript : Script where
  clock := 0
  connections := [5]
  receipts :=
    Script.receive
      (Script.connectPacket ++ Script.subscribePacket ++ [0xE0, 0x00])
  sendResults := []

/-- The set-up broker, with no topics of the application. -/
def fresh : Registry Script where
  world := leavingScript.setup
  owned := fun _ => 0

/-- The set-up broker is at its start. -/
theorem start_fresh : Start 0 fresh where
  initial := leavingScript.initial_setup
  noTopics := rfl
  noneOwned _ := rfl

/-- The peer has left. -/
def left : Registry Script :=
  (.accept :: List.replicate 31 (.poll 0)).foldl (perform 0) fresh

/-- Its coming and going is a run. -/
theorem run_left : Run 0 Spacious fresh left :=
  run_foldl _ 0 fresh (fun _ => Nat.le_refl 0) (by decide +kernel)

/-- Then the application constructs the topic `"b"`. -/
def joined : Registry Script :=
  left.perform 0 (.internTopic [0x62])

/-- Both states leave enough space. -/
theorem next_joined :
    Next 0 left joined ∧ left.Spacious ∧ joined.Spacious := by
  have few (topic : Topic) : left.owned topic ≤ 32 := by
    have constructed :=
      @owned_foldl_le _ _ 0 (.accept :: List.replicate 31 (.poll 0)) fresh
        topic
    unfold left
    refine Nat.le_trans constructed ?_
    simp [fresh]
  have fewAfter (topic : Topic) : joined.owned topic ≤ 33 := by
    have constructed := left.ownedAfter_le (.internTopic [0x62]) topic
    have fewHere := few topic
    unfold joined perform
    dsimp only
    omega
  refine ⟨?_, spacious_of_small few (by decide +kernel),
    spacious_of_small fewAfter (by decide +kernel)⟩
  exact next_perform (by decide +kernel) trivial

/-! ## What the counters say -/

/--
In every run in which no topic ever has more than 253 holders, the table has an
entry for exactly the indices that are held, and its counter is the number of
subscribed clients and of topics of the application that hold it.
-/
theorem counters_are_holders
    (start : Start broker before)
    (run : Run broker Spacious before after)
    (index : Nat) :
    (after.world.indexer.strings index).map StringCounter.used =
      if index = 0 ∨ after.held ⟨index⟩ = 0 then
        none
      else
        some (after.held ⟨index⟩) := by
  obtain ⟨linked, ledger⟩ := start.ledger
  have balanced := (run.ledger linked ledger).2.balanced
  by_cases isZero : index = 0
  · rw [if_pos (.inl isZero), isZero, balanced.unindexed]
    rfl
  · cases found : after.world.indexer.strings index with
    | none =>
        have notHeld : after.held ⟨index⟩ = 0 := by
          apply Nat.eq_zero_of_not_pos
          intro isHeld
          obtain ⟨counter, entry⟩ := balanced.entered ⟨index⟩ isZero isHeld
          unfold StringIndexer.entry at entry
          rw [found] at entry
          contradiction
        rw [if_pos (.inr notHeld)]
        rfl
    | some counter =>
        obtain ⟨used, isHeld⟩ := balanced.counted ⟨index⟩ counter found
        have stillHeld : after.held ⟨index⟩ ≠ 0 := Nat.ne_of_gt isHeld
        rw [if_neg (not_or.mpr ⟨isZero, stillHeld⟩)]
        exact congrArg some used

/-- The peer that has left is the only holder of its topic. -/
theorem counters_are_holders_left :
    (left.world.indexer.strings 1).map StringCounter.used = some 1 :=
  (counters_are_holders start_fresh run_left 1).trans (by decide +kernel)

omit [Platform Os] in
/-- A held topic other than index 0 has an entry. -/
theorem strings_isSome
    (ledger : World.Ledger before.owned before.world)
    (isIndex : topic.index ≠ 0)
    (isHeld : 0 < before.held topic) :
    (before.world.indexer.entry topic).isSome := by
  obtain ⟨counter, entry⟩ := ledger.balanced.entered topic isIndex isHeld
  exact Option.isSome_iff_exists.mpr ⟨counter, entry⟩

/--
In every run in which no topic ever has more than 253 holders, a topic keeps its
name and its entry as long as it is held by somebody, be it another one than
before.
-/
theorem held_topic_keeps_name
    (start : Start broker before)
    (earlier : Run broker Spacious before middle)
    (isHeld : 0 < middle.held topic)
    (later :
      Relation.ReflTransGen
        (fun first second =>
          (Next broker first second ∧ first.Spacious ∧ second.Spacious) ∧
            0 < second.held topic)
        middle after) :
    after.str topic = middle.str topic ∧
      (topic.index ≠ 0 →
        (after.world.indexer.entry topic).isSome) := by
  obtain ⟨linked, ledger⟩ := start.ledger
  obtain ⟨linked, ledger⟩ := earlier.ledger linked ledger
  have kept :
      after.str topic = middle.str topic ∧ 0 < after.held topic ∧
        Linked broker after.world ∧ World.Ledger after.owned after.world := by
    induction later with
    | refl => exact ⟨rfl, isHeld, linked, ledger⟩
    | tail _ last inductionHypothesis =>
        obtain ⟨⟨next, spacious, spaciousAfter⟩, stillHeld⟩ := last
        obtain ⟨sameName, isHeld, linked, ledger⟩ := inductionHypothesis
        have accounted := next.accounted linked ledger spacious spaciousAfter
        have named := accounted.names topic isHeld stillHeld
        obtain ⟨action, step, _⟩ := next
        exact ⟨Eq.trans named sameName, stillHeld, linked.step step,
          accounted.ledger⟩
  obtain ⟨sameName, stillHeld, _, ledger⟩ := kept
  exact ⟨sameName, fun isIndex => strings_isSome ledger isIndex stillHeld⟩

/-- The topic of the peer is still called `"a"`. -/
theorem held_topic_keeps_name_left :
    joined.str ⟨1⟩ = [0x61] ∧
      (joined.world.indexer.entry ⟨1⟩).isSome := by
  obtain ⟨sameName, stays⟩ :=
    @held_topic_keeps_name _ _ 0 fresh left joined ⟨1⟩ start_fresh run_left
      (by decide +kernel) (.single ⟨next_joined, by decide +kernel⟩)
  exact ⟨sameName.trans (by decide +kernel), stays Nat.one_ne_zero⟩

/-- A networked client that was closed, with the session it had. -/
structure Gone
    (client : ClientId)
    (world : World StringIndexer Os) : Prop where
  isRemote : (world.clients client).client = true
  detached : (world.clients client).parent = none
  session : (world.clients client).connection ≠ none

/-- A closed client takes part in nothing any more. -/
theorem Gone.kept
    {client : ClientId}
    (gone : Gone client before.world)
    (linked : Linked broker before.world)
    (next : Next broker before after) :
    after.world.clients client = before.world.clients client := by
  obtain ⟨action, step, _⟩ := next
  obtain ⟨slot, connected⟩ := Option.ne_none_iff_exists'.mp gone.session
  exact (step.aside linked gone.isRemote
    (linked.not_polled gone.detached connected)
    (linked.lt_next connected)).record

end Registry

end SimpleTlsBroker
