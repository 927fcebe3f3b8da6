import SimpleTlsBroker.LongTopics

namespace SimpleTlsBroker

/-!
# A full table of strings

With all 255 indices in use, `strToIndex` returns index 0 for every name that
it does not find.  The operators of `IndexedString` and `Topic::matches` take
this for an index like the others, so all such names are one topic.
-/

namespace StringIndexer

variable {indexer : StringIndexer}
variable {name : List Byte}

/-- All indices are in use; index 0 is never one. -/
structure Exhausted (indexer : StringIndexer) : Prop where
  unindexed : indexer.strings 0 = none
  inUse :
    ∀ index, 1 ≤ index → index < 256 → (indexer.strings index).isSome = true

/-- No stored string equals a name or extends it, as `strncmp` compares. -/
def Fresh
    (indexer : StringIndexer)
    (name : List Byte) : Prop :=
  ∀ index < 256, ∀ counter,
    indexer.strings index = some counter →
      strncmpEqual counter.str name = false

/-- For a name without NUL this is about beginnings. -/
theorem fresh_iff
    (noNul : 0 ∉ name) :
    indexer.Fresh name ↔ ∀ index < 256, ¬ indexer.Begins name index := by
  constructor
  · rintro fresh index inTable ⟨counter, found, begins⟩
    have rejected := fresh index inTable counter found
    rw [(strncmpEqual_iff noNul).mpr begins] at rejected
    contradiction
  · intro none index inTable counter found
    rw [← Bool.not_eq_true, strncmpEqual_iff noNul]
    exact fun begins => none index inTable ⟨counter, found, begins⟩

/-- The search does not find such a name. -/
theorem Fresh.lookup?
    (fresh : indexer.Fresh name) :
    indexer.lookup? name = none := by
  unfold StringIndexer.lookup?
  rw [List.find?_eq_none]
  intro index inTable
  cases found : indexer.strings index with
  | none => simp
  | some counter =>
      simp [fresh index (List.mem_range.mp inTable) counter found]

namespace Exhausted

/-- There is no free index. -/
theorem free? (exhausted : Exhausted indexer) : indexer.free? = none := by
  unfold StringIndexer.free?
  rw [List.find?_eq_none]
  intro index inTable
  rw [List.mem_range'_1] at inTable
  have inUse := exhausted.inUse index inTable.1 (by omega)
  simpa [Option.isNone_iff_eq_none, Option.isSome_iff_ne_none] using inUse

/-- A new name gets index 0, and the table stays as it is. -/
theorem strToIndex
    (exhausted : Exhausted indexer)
    (fresh : indexer.Fresh (Topic.cut name)) :
    indexer.strToIndex name = (⟨0⟩, indexer) :=
  strToIndex_of_full fresh.lookup? exhausted.free?

/-- Index 0 cannot be taken. -/
theorem use_unindexed
    (exhausted : Exhausted indexer) :
    indexer.use ⟨0⟩ = indexer := by
  exact use_of_none exhausted.unindexed

/-- A round of SUBSCRIBE inserts index 0. -/
theorem subscribeRound
    (exhausted : Exhausted indexer)
    (fresh : indexer.Fresh (Topic.cut name))
    (set : TopicSet) :
    ExactInterning.subscribeRound indexer set name = (⟨0⟩, indexer) := by
  have interned : Indexer.strToIndex indexer name = ((⟨0⟩ : Topic), indexer) :=
    exhausted.strToIndex fresh
  have used : Indexer.use indexer ⟨0⟩ = indexer := exhausted.use_unindexed
  have released : Indexer.release indexer ⟨0⟩ = indexer :=
    release_of_none exhausted.unindexed
  unfold ExactInterning.subscribeRound
  rw [interned]
  dsimp only
  rw [used, ite_self, released]

end Exhausted

end StringIndexer

/-- A set has an element for each of two topics that were inserted. -/
def TopicSet.KeepsBoth
    (set : TopicSet)
    (first second : Topic) : Prop :=
  first ∈ (set.insert first).insert second ∧
    second ∈ (set.insert first).insert second ∧ first ≠ second

namespace World

open StringIndexer

variable {Os : Type} [Platform Os]
variable {world : World StringIndexer Os}
variable {broker : BrokerId}
variable {subscriber publisher : ClientId}
variable {subscription : Subscription}
variable {publication : Publication}
variable {lengthBytes lengthBytes' : List Byte}

/-- With a full table, every new name is delivered for every other one. -/
theorem messagesTo_exhausted
    (apart : SessionsApart Os)
    (linked : Linked broker world)
    (exhausted : Exhausted world.indexer)
    (fresh : world.indexer.Fresh (Topic.cut subscription.name))
    (fresh' : world.indexer.Fresh (Topic.cut publication.name))
    (isSubscriber : world.Peer broker subscriber)
    (isPublisher : world.Peer broker publisher)
    (distinct : publisher ≠ subscriber)
    (fits :
      (subscription.packet lengthBytes).bytes.length ≤
        MqttMessage.maxBufferLength)
    (fits' :
      (publication.packet lengthBytes').bytes.length ≤
        MqttMessage.maxBufferLength)
    (noUpstream : world.upstreamConnected broker = false) :
    let middle :=
      world.processMessage subscriber (subscription.packet lengthBytes).message
    let after :=
      middle.processMessage publisher (publication.packet lengthBytes').message
    after.trace.messagesTo subscriber =
      middle.trace.messagesTo subscriber ++
        [(publication.packet lengthBytes').bytes] := by
  rw [← Topic.cut_cut] at fresh fresh'
  have round :
      world.subscribedRound subscriber (Topic.cut subscription.name) =
        (⟨0⟩, world.indexer) :=
    exhausted.subscribeRound fresh _
  have interned :
      Indexer.strToIndex world.indexer (Topic.cut publication.name) =
        ((⟨0⟩ : Topic), world.indexer) :=
    exhausted.strToIndex fresh'
  have exchanged :=
    messagesTo_exchange apart linked isSubscriber isPublisher distinct fits
      fits' round interned
      (exactAt_of_full fresh'.lookup? exhausted.free? exhausted.unindexed)
  have matched :
      ((world.clients subscriber).subscriptions.insert ⟨0⟩).items.any
        (Topic.matchesTopic world.indexer · ⟨0⟩) = true := by
    rw [List.any_eq_true]
    exact ⟨⟨0⟩, TopicSet.mem_insert.mpr (.inl rfl),
      by simp [Topic.matchesTopic]⟩
  dsimp only at exchanged ⊢
  rw [if_pos ⟨noUpstream, matched⟩] at exchanged
  exact exchanged

/--
With a full table, two topics that are constructed from new names match and
are one element of every set.  A publication of one of them, from a peer of a
broker without upstream, is delivered to a peer that subscribed to the other
one.
-/
theorem exhausted_merges
    {name name' : List Byte}
    (exhausted : Exhausted world.indexer)
    (fresh : world.indexer.Fresh (Topic.cut name))
    (fresh' : world.indexer.Fresh (Topic.cut name')) :
    let first := world.indexer.strToIndex name
    let second := first.2.strToIndex name'
    ¬ first.1.matchesTopic second.2 second.1 = false ∧
      (∀ set : TopicSet, ¬ set.KeepsBoth first.1 second.1) ∧
        ∀ (broker : BrokerId)
          (subscriber publisher : ClientId)
          (subscription : Subscription)
          (publication : Publication)
          (lengthBytes lengthBytes' : List Byte),
          subscription.name = name →
          publication.name = name' →
          SessionsApart Os →
          Linked broker world →
          world.upstreamConnected broker = false →
          world.Peer broker subscriber →
          world.Peer broker publisher →
          publisher ≠ subscriber →
          (subscription.packet lengthBytes).bytes.length ≤
            MqttMessage.maxBufferLength →
          (publication.packet lengthBytes').bytes.length ≤
            MqttMessage.maxBufferLength →
          let middle :=
            world.processMessage subscriber
              (subscription.packet lengthBytes).message
          let after :=
            middle.processMessage publisher
              (publication.packet lengthBytes').message
          ¬ after.trace.messagesTo subscriber =
            middle.trace.messagesTo subscriber := by
  dsimp only
  rw [exhausted.strToIndex fresh]
  dsimp only
  rw [exhausted.strToIndex fresh']
  refine ⟨by simp [Topic.matchesTopic], fun set keeps => keeps.2.2 rfl, ?_⟩
  rintro broker subscriber publisher subscription publication lengthBytes
    lengthBytes' rfl rfl apart linked noUpstream isSubscriber isPublisher
    distinct fits fits' same
  rw [messagesTo_exhausted apart linked exhausted fresh fresh' isSubscriber
    isPublisher distinct fits fits' noUpstream] at same
  simp at same

end World

/-! ## How the table gets full -/

namespace StringIndexer

/-- The table with the first names of one character. -/
def filledTable (count : Nat) : StringIndexer where
  strings index :=
    if 1 ≤ index ∧ index ≤ count then
      some ⟨[UInt8.ofNat index], 1⟩
    else
      none

/-- Different indices have different names. -/
theorem name_ne
    {first second : Nat}
    (firstInTable : first < 256)
    (secondInTable : second < 256)
    (differ : first ≠ second) :
    UInt8.ofNat first ≠ UInt8.ofNat second := by
  intro same
  have sameNat := congrArg UInt8.toNat same
  rw [UInt8.toNat_ofNat', UInt8.toNat_ofNat'] at sameNat
  omega

/-- The next name gets the next index. -/
theorem strToIndex_filledTable
    {count : Nat}
    (room : count < 255) :
    (filledTable count).strToIndex [UInt8.ofNat (count + 1)] =
      (⟨count + 1⟩, filledTable (count + 1)) := by
  have looked :
      (filledTable count).lookup? [UInt8.ofNat (count + 1)] = none := by
    unfold StringIndexer.lookup?
    rw [List.find?_eq_none]
    intro index inTable
    rw [List.mem_range] at inTable
    by_cases filled : 1 ≤ index ∧ index ≤ count
    · have differ := name_ne inTable (by omega : count + 1 < 256) (by omega)
      simpa [filledTable, filled, strncmpEqual] using differ
    · simp [filledTable, filled]
  have free : (filledTable count).free? = some (count + 1) := by
    unfold StringIndexer.free?
    rw [List.find?_range'_eq_some]
    refine ⟨by simp [filledTable], ?_, ?_⟩
    · rw [List.mem_range'_1]
      omega
    · intro index first before
      have filled : 1 ≤ index ∧ index ≤ count := by omega
      simp [filledTable, filled]
  have filled :
      (filledTable count).set (count + 1)
          (some ⟨[UInt8.ofNat (count + 1)], 1⟩) =
        filledTable (count + 1) := by
    unfold StringIndexer.set filledTable
    congr 1
    funext index
    by_cases isNext : index = count + 1
    · subst isNext
      simp
    · have same :
          (1 ≤ index ∧ index ≤ count) ↔ 1 ≤ index ∧ index ≤ count + 1 := by
        omega
      simp [isNext, same]
  have whole :
      Topic.cut [UInt8.ofNat (count + 1)] = [UInt8.ofNat (count + 1)] :=
    Topic.cut_eq_self (Nat.le_of_ble_eq_true rfl)
  rw [strToIndex_of_free? (by rwa [whole]) free, whole, filled]

/-- After 255 names the table is full. -/
theorem exhausted_filledTable : Exhausted (filledTable 255) where
  unindexed := rfl
  inUse index first last := by
    have filled : 1 ≤ index ∧ index ≤ 255 := by omega
    simp [filledTable, filled]

/-- Names of two characters are new to it. -/
theorem fresh_filledTable
    {count : Nat}
    {first second : Byte}
    (noNul : first ≠ 0 ∧ second ≠ 0) :
    (filledTable count).Fresh [first, second] := by
  have noNul' : (0 : Byte) ∉ [first, second] := by
    simp [noNul.1.symm, noNul.2.symm]
  rw [fresh_iff noNul']
  rintro index _ ⟨counter, found, begins⟩
  simp only [entry, filledTable, Option.ite_none_right_eq_some,
    Option.some.injEq] at found
  obtain ⟨_, rfl⟩ := found
  have longer := begins.length_le
  simp at longer

end StringIndexer

namespace World

open StringIndexer

variable {Os : Type} [Platform Os]
variable {world : World StringIndexer Os}
variable {broker : BrokerId}

/-- Names of one character fill the table one by one. -/
theorem run_filledTable
    (start : world.indexer = .empty)
    {count : Nat}
    (room : count ≤ 255) :
    Run broker always world { world with indexer := filledTable count } := by
  induction count with
  | zero =>
      have same : world.indexer = filledTable 0 := by
        rw [start]
        unfold filledTable StringIndexer.empty
        congr 1
        funext index
        rw [if_neg (by omega)]
      rw [← same]
  | succ count inductionHypothesis =>
      refine (inductionHypothesis (by omega)).tail
        ⟨.internTopic [UInt8.ofNat (count + 1)], ?_, trivial⟩
      have next :
          { world with indexer := filledTable (count + 1) } =
            ({ world with indexer := filledTable count }.internTopic
              [UInt8.ofNat (count + 1)]).2 := by
        unfold internTopic
        have interned :
            Indexer.strToIndex (filledTable count) [UInt8.ofNat (count + 1)] =
              ((⟨count + 1⟩ : Topic), filledTable (count + 1)) :=
          strToIndex_filledTable (by omega)
        dsimp only
        rw [interned]
      rw [next]
      exact .internTopic _

/-- Both peers log in when the application has filled the table. -/
def exhaustedRun : World StringIndexer Script :=
  performAll 0 always
    ([.accept, .accept] ++ List.replicate 21 (.poll 0) ++
      List.replicate 21 (.poll 1))
    { twoPeersScript.setup with indexer := filledTable 255 }

/-- It is reached from the set-up broker. -/
theorem run_exhaustedRun :
    Run 0 always twoPeersScript.setup exhaustedRun :=
  (run_filledTable rfl (Nat.le_refl 255)).trans (run_performAll 0 always _ _)

/-- Its table is full. -/
theorem exhausted_exhaustedRun : Exhausted exhaustedRun.indexer :=
  exhausted_filledTable

/-- A frame that subscribes to `"aa"`. -/
def newSubscription : Subscription :=
  ⟨(0, 7), [0x61, 0x61], 0⟩

/-- A frame that publishes `"bb"`. -/
def newPublication : Publication :=
  { longPublication with name := [0x62, 0x62] }

/-- Its topic, and that of the publication, are new. -/
theorem fresh_exhaustedRun :
    exhaustedRun.indexer.Fresh (Topic.cut newSubscription.name) ∧
      exhaustedRun.indexer.Fresh (Topic.cut newPublication.name) :=
  ⟨fresh_filledTable (by decide), fresh_filledTable (by decide)⟩

/-- The broker is linked as after every run. -/
theorem linked_exhaustedRun : Linked 0 exhaustedRun :=
  Linked.run (Script.initial_setup _) run_exhaustedRun

/-- The first client is a peer. -/
theorem peer_exhaustedRun_first : exhaustedRun.Peer 0 0 :=
  ⟨by decide, by decide, by decide⟩

/-- So is the second. -/
theorem peer_exhaustedRun_second : exhaustedRun.Peer 0 1 :=
  ⟨by decide, by decide, by decide⟩

/-- The publication of the second peer is delivered to the first one. -/
theorem exhausted_merges_run :
    let middle :=
      exhaustedRun.processMessage 0 (newSubscription.packet [0x07]).message
    let after :=
      middle.processMessage 1 (newPublication.packet [0x05]).message
    ¬ after.trace.messagesTo 0 = middle.trace.messagesTo 0 :=
  (exhausted_merges exhausted_exhaustedRun fresh_exhaustedRun.1
    fresh_exhaustedRun.2).2.2 0 0 1 newSubscription newPublication [0x07]
    [0x05] rfl rfl sessionsApart_script linked_exhaustedRun (by decide)
    peer_exhaustedRun_first peer_exhaustedRun_second (by decide) (by decide)
    (by decide)

/--
In a run that fills the table, `"bb"` matches `"aa"`, adds nothing to a set
with it, and is delivered to a peer that subscribed to `"aa"` only.
-/
theorem topics_merged_run :
    let first := exhaustedRun.indexer.strToIndex [0x61, 0x61]
    let second := first.2.strToIndex [0x62, 0x62]
    let middle :=
      exhaustedRun.processMessage 0 (newSubscription.packet [0x07]).message
    let frame := newPublication.packet [0x05]
    (Run 0 always twoPeersScript.setup exhaustedRun ∧
        Exhausted exhaustedRun.indexer ∧
          exhaustedRun.indexer.Fresh [0x61, 0x61] ∧
            exhaustedRun.indexer.Fresh [0x62, 0x62]) ∧
      first.1.matchesTopic second.2 second.1 = true ∧
        ¬ TopicSet.empty.KeepsBoth first.1 second.1 ∧
          (exhaustedRun.clients 0).subscriptions = TopicSet.empty ∧
            (middle.processMessage 1 frame.message).trace.messagesTo 0 =
              middle.trace.messagesTo 0 ++ [frame.bytes] := by
  have fresh : exhaustedRun.indexer.Fresh [0x61, 0x61] :=
    fresh_exhaustedRun.1
  have fresh' : exhaustedRun.indexer.Fresh [0x62, 0x62] :=
    fresh_exhaustedRun.2
  have delivered :=
    @messagesTo_exhausted _ _ exhaustedRun 0 0 1 newSubscription
      newPublication [0x07] [0x05] sessionsApart_script linked_exhaustedRun
      exhausted_exhaustedRun fresh_exhaustedRun.1 fresh_exhaustedRun.2
      peer_exhaustedRun_first peer_exhaustedRun_second (by decide) (by decide)
      (by decide) (by decide)
  have first :
      exhaustedRun.indexer.strToIndex [0x61, 0x61] =
        (⟨0⟩, exhaustedRun.indexer) :=
    exhausted_exhaustedRun.strToIndex fresh_exhaustedRun.1
  have second :
      exhaustedRun.indexer.strToIndex [0x62, 0x62] =
        (⟨0⟩, exhaustedRun.indexer) :=
    exhausted_exhaustedRun.strToIndex fresh_exhaustedRun.2
  dsimp only
  rw [first]
  dsimp only
  rw [second]
  exact ⟨⟨run_exhaustedRun, exhausted_exhaustedRun, fresh, fresh'⟩,
    by simp [Topic.matchesTopic], fun keeps => keeps.2.2 rfl, rfl, delivered⟩

end World

end SimpleTlsBroker
