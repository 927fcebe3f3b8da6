import Mathlib.Data.Set.Insert
import SimpleTlsBroker.Answers
import SimpleTlsBroker.ExactInterning
import SimpleTlsBroker.SubscriptionFrames

namespace SimpleTlsBroker

/-!
# Subscribing and unsubscribing

The topic loop builds the return codes and the set of subscriptions by
different statements.  With exact interning the set is the set of names that
the frame says it is; the return code of a filter tells its QoS and not
whether it was inserted.
-/

/-- The names of the topics in a set. -/
def TopicSet.names
    [Indexer Index]
    (set : TopicSet)
    (indexer : Index) : Set (List Byte) :=
  {name | ∃ topic ∈ set, Indexer.str indexer topic = name}

namespace TopicSet

variable {Index : Type} [Indexer Index]
variable {before after : Index}
variable {set : TopicSet}
variable {topic : Topic}
variable {name : List Byte}

/-- Inserting a topic adds its name, if the others keep theirs. -/
theorem names_insert
    (kept :
      ∀ item ∈ set, Indexer.str after item = Indexer.str before item)
    (isName : Indexer.str after topic = name) :
    (set.insert topic).names after =
      Insert.insert name (set.names before) := by
  ext other
  constructor
  · rintro ⟨item, member, rfl⟩
    rcases TopicSet.mem_insert.mp member with rfl | isOther
    · exact .inl isName
    · exact .inr ⟨item, isOther, (kept item isOther).symm⟩
  · rintro (rfl | ⟨item, member, rfl⟩)
    · exact ⟨topic, TopicSet.mem_insert.mpr (.inl rfl), isName⟩
    · exact ⟨item, TopicSet.mem_insert.mpr (.inr member), kept item member⟩

/-- Erasing the topic with a name removes this name. -/
theorem names_erase
    (kept :
      ∀ item ∈ set, item ≠ topic →
        Indexer.str after item = Indexer.str before item)
    (isNamed :
      ∀ item ∈ set, Indexer.str before item = name ↔ item = topic) :
    (set.erase topic).names after = set.names before \ {name} := by
  ext other
  constructor
  · rintro ⟨item, member, rfl⟩
    obtain ⟨isOld, distinct⟩ := TopicSet.mem_erase.mp member
    rw [kept item isOld distinct]
    exact ⟨⟨item, isOld, rfl⟩, fun same =>
      distinct ((isNamed item isOld).mp same)⟩
  · rintro ⟨⟨item, member, rfl⟩, otherName⟩
    have distinct : item ≠ topic := fun same =>
      otherName ((isNamed item member).mpr same)
    exact ⟨item, TopicSet.mem_erase.mpr ⟨member, distinct⟩,
      kept item member distinct⟩

end TopicSet

/-! ## One round on the table -/

namespace ExactInterning

variable {Index : Type} [Indexer Index]
variable {interning : ExactInterning Index}
variable {indexer : Index}
variable {held : Topic → Nat}
variable {room : Nat}
variable {name : List Byte}
variable {set : TopicSet}

/-- A table in which the topics of a set are held. -/
structure Holds
    (interning : ExactInterning Index)
    (indexer : Index)
    (set : TopicSet)
    (room : Nat) : Prop where
  exists_held :
    ∃ held, interning.Exact indexer held room ∧
      ∀ topic ∈ set, 0 < held topic

/-- A topic that was interned is the one in the set with the same name. -/
theorem str_eq_iff
    (exact : interning.Exact indexer held (room + 1))
    (allowed : interning.Allowed name)
    {topic : Topic}
    (isHeld : 0 < held topic) :
    Indexer.str indexer topic = name ↔
      topic = (Indexer.strToIndex indexer name).1 := by
  obtain ⟨exact', isName, kept⟩ := interning.strToIndex exact allowed
  constructor
  · intro same
    apply interning.distinct exact' (more_pos isHeld _) (more_self_pos held _)
    rw [kept topic isHeld, isName, same]
  · intro same
    rw [← kept topic isHeld, same, isName]

/-- The table after a round of SUBSCRIBE. -/
def subscribeRound
    (indexer : Index)
    (set : TopicSet)
    (name : List Byte) : Topic × Index :=
  let (topic, indexer) := Indexer.strToIndex indexer name
  (topic,
    Indexer.release
      (if topic ∈ set then indexer else Indexer.use indexer topic) topic)

/-- The table after a round of UNSUBSCRIBE. -/
def unsubscribeRound
    (indexer : Index)
    (set : TopicSet)
    (name : List Byte) : Topic × Index :=
  let (topic, indexer) := Indexer.strToIndex indexer name
  (topic,
    Indexer.release
      (if topic ∈ set then Indexer.release indexer topic else indexer) topic)

/--
The set owns a copy of the topic: the one it had, or a new one.  When the other
copy is given back, there is as much room as before.
-/
theorem exists_owned
    {topic : Topic}
    (exact : interning.Exact indexer (more held topic) (room + 1))
    (subscribed : ∀ other ∈ set, 0 < held other) :
    ∃ held',
      interning.Exact
          (if topic ∈ set then indexer else Indexer.use indexer topic)
          (more held' topic) room ∧
        (∃ earlier, interning.Exact earlier held' (room + 1)) ∧
          (∀ other ∈ set, 0 < held' other) ∧ 0 < held' topic ∧
            KeepsNames held' indexer
              (if topic ∈ set then
                indexer
              else
                Indexer.use indexer topic) := by
  by_cases found : topic ∈ set
  · obtain ⟨released, _⟩ := interning.release exact (more_self_pos held topic)
    rw [fewer_more] at released
    rw [if_pos found]
    exact ⟨held, interning.less exact, ⟨_, released⟩, subscribed,
      subscribed topic found, fun _ _ => rfl⟩
  · rw [if_neg found]
    obtain ⟨exact', kept⟩ := interning.use exact (more_self_pos held topic)
    exact ⟨more held topic, exact', ⟨indexer, exact⟩,
      fun other member => more_pos (subscribed other member) topic,
      more_self_pos held topic, kept⟩

/-- The set gives its copy back, if it has one. -/
theorem exists_erased
    {topic : Topic}
    (exact : interning.Exact indexer (more held topic) (room + 1))
    (subscribed : ∀ other ∈ set, 0 < held other) :
    ∃ held',
      interning.Exact
          (Indexer.release
            (if topic ∈ set then Indexer.release indexer topic else indexer)
            topic)
          held' (room + 1) ∧
        (∀ other ∈ set, other ≠ topic → 0 < held' other) ∧
          ∀ other ∈ set, other ≠ topic →
            Indexer.str
                (Indexer.release
                  (if topic ∈ set then
                    Indexer.release indexer topic
                  else
                    indexer) topic) other =
              Indexer.str indexer other := by
  obtain ⟨released, kept⟩ :=
    interning.release exact (more_self_pos held topic)
  rw [fewer_more] at released kept
  by_cases found : topic ∈ set
  · obtain ⟨released', kept'⟩ :=
      interning.release released (subscribed topic found)
    have stillHeld (other : Topic) (member : other ∈ set)
        (distinct : other ≠ topic) : 0 < fewer held topic other := by
      simpa [fewer, distinct] using subscribed other member
    rw [if_pos found]
    refine ⟨fewer held topic, released', stillHeld, ?_⟩
    intro other member distinct
    rw [kept' other (stillHeld other member distinct),
      kept other (subscribed other member)]
  · rw [if_neg found]
    exact ⟨held, released,
      fun other member _ => subscribed other member,
      fun other member _ => kept other (subscribed other member)⟩

/-- A round of SUBSCRIBE adds the name, and the table stays exact. -/
theorem Holds.subscribeRound
    (holds : interning.Holds indexer set (room + 2))
    (allowed : interning.Allowed name) :
    let round := ExactInterning.subscribeRound indexer set name
    interning.Holds round.2 (set.insert round.1) (room + 1) ∧
      (set.insert round.1).names round.2 = insert name (set.names indexer) := by
  obtain ⟨held, exact, subscribed⟩ := holds
  obtain ⟨exact', isName, kept⟩ := interning.strToIndex exact allowed
  simp only [ExactInterning.subscribeRound]
  generalize Indexer.strToIndex indexer name = interned
    at exact' isName kept ⊢
  obtain ⟨topic, indexer'⟩ := interned
  dsimp only at exact' isName kept ⊢
  obtain ⟨held', exact'', ⟨_, earlier⟩, stillHeld, topicHeld, kept'⟩ :=
    exists_owned exact' subscribed
  generalize
    (if topic ∈ set then indexer' else Indexer.use indexer' topic) = middle
    at exact'' kept' ⊢
  obtain ⟨released, kept''⟩ :=
    interning.release exact'' (more_self_pos held' topic)
  rw [fewer_more] at released kept''
  have names (other : Topic) (isHeld : 0 < held' other) :
      Indexer.str (Indexer.release middle topic) other =
        Indexer.str indexer' other :=
    (kept'' other isHeld).trans (kept' other isHeld)
  constructor
  · refine ⟨held', interning.sameRoom earlier released, ?_⟩
    intro other member
    rcases TopicSet.mem_insert.mp member with rfl | isOther
    · exact topicHeld
    · exact stillHeld other isOther
  · apply TopicSet.names_insert
    · intro item member
      rw [names item (stillHeld item member),
        kept item (subscribed item member)]
    · exact (names topic topicHeld).trans isName

/-- A round of UNSUBSCRIBE removes the name, and the table stays exact. -/
theorem Holds.unsubscribeRound
    (holds : interning.Holds indexer set (room + 2))
    (allowed : interning.Allowed name) :
    let round := ExactInterning.unsubscribeRound indexer set name
    interning.Holds round.2 (set.erase round.1) (room + 1) ∧
      (set.erase round.1).names round.2 = set.names indexer \ {name} := by
  obtain ⟨held, exact, subscribed⟩ := holds
  have isNamed (topic : Topic) (member : topic ∈ set) :=
    str_eq_iff exact allowed (subscribed topic member)
  obtain ⟨exact', isName, kept⟩ := interning.strToIndex exact allowed
  simp only [ExactInterning.unsubscribeRound]
  generalize Indexer.strToIndex indexer name = interned
    at exact' isName kept isNamed ⊢
  obtain ⟨topic, indexer'⟩ := interned
  dsimp only at exact' isName kept isNamed ⊢
  obtain ⟨held', exact'', stillHeld, names⟩ :=
    exists_erased exact' subscribed
  constructor
  · refine ⟨held', exact'', ?_⟩
    intro other member
    obtain ⟨isOld, distinct⟩ := TopicSet.mem_erase.mp member
    exact stillHeld other isOld distinct
  · apply TopicSet.names_erase _ isNamed
    intro item member distinct
    exact (names item member distinct).trans
      (kept item (subscribed item member))

end ExactInterning

/-! ## The topic loop -/

namespace FilterList

/-- The names in a list of filters. -/
def names (filters : List (List Byte × Byte)) : Set (List Byte) :=
  {name | ∃ filter ∈ filters, filter.1 = name}

/-- The names that a set of subscriptions has to have after a frame. -/
def changed
    (subscribe : Bool)
    (before filters : Set (List Byte)) : Set (List Byte) :=
  if subscribe then before ∪ filters else before \ filters

/-- The return code of a filter with SUBSCRIBE. -/
def returnCode (filter : List Byte × Byte) : Byte :=
  if filter.2 ≠ 0 then 0x80 else filter.2

/-- The return codes that a frame is answered with. -/
def returnCodes
    (subscribe : Bool)
    (filters : List (List Byte × Byte)) : List Byte :=
  if subscribe then filters.map returnCode else []

theorem names_cons
    (filter : List Byte × Byte)
    (rest : List (List Byte × Byte)) :
    names (filter :: rest) = {filter.1} ∪ names rest := by
  ext name
  simp [names, eq_comm]

/-- Two changes are one. -/
theorem changed_changed
    (subscribe : Bool)
    (before first second : Set (List Byte)) :
    changed subscribe (changed subscribe before first) second =
      changed subscribe before (first ∪ second) := by
  cases subscribe with
  | true => exact Set.union_assoc before first second
  | false => exact Set.sdiff_sdiff

end FilterList

namespace World

open FilterList

variable {Index Os : Type} [Indexer Index]
variable {interning : ExactInterning Index}
variable {world : World Index Os}
variable {client : ClientId}
variable {subscribe : Bool}
variable {room : Nat}

/-- The names a client is subscribed to. -/
def subscribedNames
    (world : World Index Os)
    (client : ClientId) : Set (List Byte) :=
  (world.clients client).subscriptions.names world.indexer

/-- The topics that a client is subscribed to are held in an exact table. -/
def Interned
    (interning : ExactInterning Index)
    (world : World Index Os)
    (client : ClientId)
    (room : Nat) : Prop :=
  interning.Holds world.indexer (world.clients client).subscriptions room

/-- What the topic loop keeps besides the subscriptions and the codes. -/
structure Round
    (interning : ExactInterning Index)
    (subscribe : Bool)
    (client : ClientId)
    (filters : List (List Byte × Byte))
    (room : Nat)
    (before after : List Byte × World Index Os) : Prop where
  codes : after.1 = before.1 ++ returnCodes subscribe filters
  interned : Interned interning after.2 client room
  names :
    after.2.subscribedNames client =
      changed subscribe (before.2.subscribedNames client) (names filters)
  device : after.2.device = before.2.device

/-- A round of the topic loop with SUBSCRIBE, as a state. -/
theorem processFilter_subscribe
    (world : World Index Os)
    (client : ClientId)
    (qoss : List Byte)
    (filter : List Byte × Byte) :
    let round :=
      ExactInterning.subscribeRound world.indexer
        (world.clients client).subscriptions filter.1
    processFilter true client (qoss, world) filter =
      (qoss ++ [returnCode filter],
        { world with indexer := round.2 }.modifyClient client fun record =>
          { record with
            subscriptions := record.subscriptions.insert round.1 }) := by
  unfold processFilter internTopic ExactInterning.subscribeRound
  dsimp only
  rw [if_pos rfl]
  by_cases found :
      (Indexer.strToIndex world.indexer filter.1).1 ∈
        (world.clients client).subscriptions
  · rw [if_pos found, if_pos found]
    rfl
  · rw [if_neg found, if_neg found]
    rfl

/-- A round with UNSUBSCRIBE. -/
theorem processFilter_unsubscribe
    (world : World Index Os)
    (client : ClientId)
    (qoss : List Byte)
    (filter : List Byte × Byte) :
    let round :=
      ExactInterning.unsubscribeRound world.indexer
        (world.clients client).subscriptions filter.1
    processFilter false client (qoss, world) filter =
      (qoss,
        { world with indexer := round.2 }.modifyClient client fun record =>
          { record with
            subscriptions := record.subscriptions.erase round.1 }) := by
  unfold processFilter internTopic ExactInterning.unsubscribeRound
  dsimp only
  rw [if_neg Bool.false_ne_true]
  by_cases found :
      (Indexer.strToIndex world.indexer filter.1).1 ∈
        (world.clients client).subscriptions
  · rw [if_pos found, if_pos found]
    rfl
  · rw [if_neg found, if_neg found]
    rfl

/-- What a round of the topic loop does to the names. -/
theorem round_processFilter
    {filter : List Byte × Byte}
    (interned : Interned interning world client (room + 2))
    (allowed : interning.Allowed filter.1)
    (qoss : List Byte) :
    Round interning subscribe client [filter] (room + 1) (qoss, world)
      (processFilter subscribe client (qoss, world) filter) := by
  have single : names [filter] = {filter.1} := by
    ext name
    simp [names, eq_comm]
  cases subscribe with
  | true =>
      obtain ⟨holds, added⟩ := interned.subscribeRound allowed
      rw [processFilter_subscribe]
      refine ⟨rfl, ?_, ?_, rfl⟩
      · simpa [Interned] using holds
      · rw [single]
        simp only [subscribedNames, clients_modifyClient_self,
          indexer_modifyClient, changed, if_true, Set.union_singleton]
        exact added
  | false =>
      obtain ⟨holds, removed⟩ := interned.unsubscribeRound allowed
      rw [processFilter_unsubscribe]
      refine ⟨(List.append_nil qoss).symm, ?_, ?_, rfl⟩
      · simpa [Interned] using holds
      · rw [single]
        simp only [subscribedNames, clients_modifyClient_self,
          indexer_modifyClient, changed, Bool.false_eq_true, if_false]
        exact removed

/-- What the whole loop does. -/
theorem round_foldl
    {filters : List (List Byte × Byte)}
    (interned :
      Interned interning world client (room + filters.length + 1))
    (allowed : ∀ filter ∈ filters, interning.Allowed filter.1)
    (qoss : List Byte) :
    Round interning subscribe client filters (room + 1) (qoss, world)
      (filters.foldl (processFilter subscribe client) (qoss, world)) := by
  induction filters generalizing world qoss with
  | nil =>
      refine ⟨?_, interned, ?_, rfl⟩
      · cases subscribe <;> simp [returnCodes]
      · cases subscribe <;> simp [changed, names]
  | cons filter rest inductionHypothesis =>
      have first :=
        @round_processFilter _ _ _ interning world client subscribe _ filter
          interned (allowed filter List.mem_cons_self) qoss
      have later :=
        inductionHypothesis first.interned
          (fun other member =>
            allowed other (List.mem_cons_of_mem filter member))
          (processFilter subscribe client (qoss, world) filter).1
      rw [List.foldl_cons]
      refine ⟨?_, later.interned, ?_, later.device.trans first.device⟩
      · rw [later.codes, first.codes]
        cases subscribe <;> simp [returnCodes]
      · rw [later.names, first.names, changed_changed, names_cons]
        congr 2
        ext name
        simp [names, eq_comm]

end World

end SimpleTlsBroker
