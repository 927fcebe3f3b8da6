import SimpleTlsBroker.TopicDelivery
import SimpleTlsBroker.TopicRoundTrip

namespace SimpleTlsBroker

/-!
# Topics with long names

A topic is constructed from a length of 8 bits, although a frame gives it
16.  Two names of more than 255 bytes can be cut to the same topic, and a name
can be cut to the beginning of another one.  The pair of a subscription and a
publication is decided by what is left of both.
-/

/-! ## A name that was interned -/

namespace StringIndexer

variable {indexer other : StringIndexer}
variable {name filter : List Byte}
variable {index : Nat}

/-- A name compares equal to itself, also with NUL in it. -/
theorem strncmpEqual_self (name : List Byte) :
    strncmpEqual name name = true := by
  induction name with
  | nil => rfl
  | cons byte rest inductionHypothesis =>
      simp [strncmpEqual, inductionHypothesis]

/-- The search looks at the strings only. -/
theorem lookup?_congr
    (same :
      ∀ index,
        (other.strings index).map StringCounter.str =
          (indexer.strings index).map StringCounter.str)
    (name : List Byte) :
    other.lookup? name = indexer.lookup? name := by
  unfold lookup?
  congr 1
  funext index
  have sameStr := same index
  cases found : other.strings index <;>
    cases found' : indexer.strings index <;>
    simp_all

/-- The first entry that begins with a new name is its own. -/
theorem lookup?_set_self
    (missing : indexer.lookup? name = none)
    (inTable : index < 256)
    (used : Nat) :
    (indexer.set index (some ⟨name, used⟩)).lookup? name = some index := by
  unfold lookup? at missing ⊢
  rw [List.find?_eq_none] at missing
  rw [List.find?_range_eq_some]
  refine ⟨by simp [set, strncmpEqual_self], List.mem_range.mpr inTable, ?_⟩
  intro earlier before
  have rejected :=
    missing earlier (List.mem_range.mpr (Nat.lt_trans before inTable))
  simpa [set, Nat.ne_of_lt before] using rejected

/-- A name that the full table has no room for is interned as no entry. -/
theorem exactAt_of_full
    (missing : indexer.lookup? (Topic.cut name) = none)
    (full : indexer.free? = none)
    (unindexed : indexer.strings 0 = none) :
    Indexer.ExactAt indexer name ⟨0⟩ := by
  have result :
      Indexer.strToIndex indexer name = ((⟨0⟩ : Topic), indexer) :=
    strToIndex_of_full missing full
  refine ⟨?_, fun _ => ?_, ?_⟩
  · rw [result]
  · rw [result]
  · rw [result]
    exact release_of_none unindexed

/-- An index that is used once more is still found. -/
theorem exactAt_use
    {counter : StringCounter}
    (looked : indexer.lookup? (Topic.cut name) = some index)
    (found : indexer.entry ⟨index⟩ = some counter)
    (live : 0 < counter.used ∧ counter.used < 255) :
    Indexer.ExactAt (indexer.use ⟨index⟩) name ⟨index⟩ := by
  have used :
      indexer.use ⟨index⟩ =
        indexer.set index
          (some { counter with used := counter.used + 1 }) := by
    have small : (counter.used + 1) % 256 = counter.used + 1 := by omega
    rw [use_of_entry found, small]
  have again :
      (indexer.use ⟨index⟩).lookup? (Topic.cut name) =
        some (⟨index⟩ : Topic).index := by
    rw [← looked, used]
    apply lookup?_congr
    intro other
    by_cases same : other = index
    · subst same
      unfold entry at found
      simp [set, found]
    · simp [set, same]
  rw [used] at again ⊢
  have entry :=
    entry_set indexer ⟨index⟩
      (some { counter with used := counter.used + 1 })
  exact exactAt again entry ⟨Nat.succ_pos _, by dsimp only; omega⟩

/-- A name that was interned is found again, and where it is. -/
theorem exactAt_strToIndex
    (unindexed : indexer.strings 0 = none)
    (live :
      ∀ index counter, indexer.strings index = some counter →
        0 < counter.used ∧ counter.used < 255)
    (name : List Byte) :
    Indexer.ExactAt (indexer.strToIndex name).2 name
      (indexer.strToIndex name).1 := by
  cases looked : indexer.lookup? (Topic.cut name) with
  | some index =>
      obtain ⟨counter, found⟩ := entry_of_lookup? looked
      rw [strToIndex_of_lookup? looked]
      exact exactAt_use looked found (live index counter found)
  | none =>
      cases free : indexer.free? with
      | some index =>
          obtain ⟨isIndex, _⟩ := entry_of_free? free
          have live : 0 < 1 ∧ 1 < 256 := by decide
          rw [strToIndex_of_free? looked free]
          exact exactAt (lookup?_set_self looked isIndex.2 1)
            (entry_set indexer ⟨index⟩ (some ⟨Topic.cut name, 1⟩)) live
      | none =>
          rw [strToIndex_of_full looked free]
          exact exactAt_of_full looked free unindexed

/-! ## A table with one name -/

/-- The table with one name, at the lowest index. -/
def single (name : List Byte) : StringIndexer :=
  empty.set 1 (some ⟨name, 1⟩)

/-- No string begins with a name if none is stored. -/
theorem lookup?_empty (name : List Byte) : empty.lookup? name = none := by
  unfold lookup?
  rw [List.find?_eq_none]
  intro index _
  simp [empty]

/-- The first name gets index 1. -/
theorem strToIndex_empty (name : List Byte) :
    empty.strToIndex name = (⟨1⟩, single (Topic.cut name)) := by
  exact strToIndex_of_free? (lookup?_empty _) rfl

/-- A set without topics gets it, and the table keeps it. -/
theorem subscribeRound_empty
    {name : List Byte}
    (short : name.length ≤ 255) :
    ExactInterning.subscribeRound empty .empty name = (⟨1⟩, single name) := by
  have whole := Topic.cut_eq_self short
  unfold ExactInterning.subscribeRound
  have interned : Indexer.strToIndex empty name = (⟨1⟩, single name) := by
    have first := strToIndex_empty name
    rwa [whole] at first
  rw [interned]
  dsimp only
  rw [if_neg (TopicSet.not_mem_empty _)]
  refine Prod.ext rfl ?_
  have entry : (single name).entry ⟨1⟩ = some ⟨name, 1⟩ :=
    entry_set empty ⟨1⟩ _
  have looked :
      (single name).lookup? (Topic.cut name) = some (⟨1⟩ : Topic).index := by
    rw [whole]
    exact lookup?_set_self (lookup?_empty name) (by decide) 1
  have live : 0 < 1 ∧ 1 < 256 := by decide
  have released := (exactAt looked entry live).released
  have again :
      Indexer.strToIndex (single name) name =
        (⟨1⟩, Indexer.use (single name) ⟨1⟩) :=
    strToIndex_of_lookup? looked
  rw [again] at released
  exact released

/-- The next name is interned exactly, whatever it is. -/
theorem exactAt_single (name other : List Byte) :
    Indexer.ExactAt ((single name).strToIndex other).2 other
      ((single name).strToIndex other).1 := by
  apply exactAt_strToIndex
  · rfl
  · intro index counter found
    by_cases isFirst : index = 1
    · subst isFirst
      obtain rfl := Option.some.inj found
      exact ⟨Nat.one_pos, Nat.lt_of_sub_pos (Nat.succ_pos 253)⟩
    · simp [single, set, isFirst, empty] at found

/-- The next name is taken for the first one, or is different from it. -/
theorem matches_single
    (name : List Byte)
    {other : List Byte}
    (short : other.length ≤ 255) :
    Topic.matchesTopic ((single name).strToIndex other).2 ⟨1⟩
        ((single name).strToIndex other).1 =
      strncmpEqual name other := by
  have whole := Topic.cut_eq_self short
  cases accepted : strncmpEqual name other with
  | true =>
      have looked : (single name).lookup? (Topic.cut other) = some 1 := by
        rw [whole]
        unfold lookup?
        rw [List.find?_range_eq_some]
        refine ⟨by simpa [single, set] using accepted, by decide, ?_⟩
        intro earlier before
        simp [single, set, empty, Nat.ne_of_lt before]
      rw [strToIndex_of_lookup? looked]
      simp [Topic.matchesTopic]
  | false =>
      have looked : (single name).lookup? (Topic.cut other) = none := by
        rw [whole]
        unfold lookup?
        rw [List.find?_eq_none]
        intro index _
        by_cases isFirst : index = 1
        · subst isFirst
          simpa [single, set] using accepted
        · simp [single, set, empty, isFirst]
      have free : (single name).free? = some 2 := rfl
      have differ : name ≠ other := by
        rintro rfl
        rw [strncmpEqual_self] at accepted
        contradiction
      rw [strToIndex_of_free? looked free, whole]
      change (decide (1 = 2) ||
        decide (((single name).set 2 (some ⟨other, 1⟩)).str ⟨1⟩ =
          ((single name).set 2 (some ⟨other, 1⟩)).str ⟨2⟩)) = false
      simpa [str, single, set] using differ

end StringIndexer

/-! ## A pair of names -/

namespace World

open StringIndexer

variable {Os : Type} [Platform Os]
variable {world middle after : World StringIndexer Os}
variable {broker : BrokerId}
variable {subscriber publisher : ClientId}
variable {subscription : Subscription}
variable {publication : Publication}
variable {lengthBytes lengthBytes' : List Byte}

/-- Without other topics, what is left of the two names is compared. -/
theorem messagesTo_pair
    (apart : SessionsApart Os)
    (linked : Linked broker world)
    (noTopic : world.indexer = .empty)
    (noSubscription : (world.clients subscriber).subscriptions = .empty)
    (isSubscriber : world.Peer broker subscriber)
    (isPublisher : world.Peer broker publisher)
    (distinct : publisher ≠ subscriber)
    (fits :
      (subscription.packet lengthBytes).bytes.length ≤
        MqttMessage.maxBufferLength)
    (fits' :
      (publication.packet lengthBytes').bytes.length ≤
        MqttMessage.maxBufferLength) :
    let middle :=
      world.processMessage subscriber (subscription.packet lengthBytes).message
    let after :=
      middle.processMessage publisher (publication.packet lengthBytes').message
    after.trace.messagesTo subscriber =
      middle.trace.messagesTo subscriber ++
        if world.upstreamConnected broker = false ∧
            strncmpEqual (Topic.cut subscription.name)
              (Topic.cut publication.name) = true then
          [(publication.packet lengthBytes').bytes]
        else
          [] := by
  have round :
      world.subscribedRound subscriber (Topic.cut subscription.name) =
        (⟨1⟩, single (Topic.cut subscription.name)) := by
    unfold subscribedRound
    rw [noTopic, noSubscription]
    exact subscribeRound_empty (Topic.length_cut_le _)
  have interned (filter name : List Byte) :
      Indexer.strToIndex (single filter) name =
        (((single filter).strToIndex name).1,
          ((single filter).strToIndex name).2) := rfl
  have exchanged :=
    messagesTo_exchange apart linked isSubscriber isPublisher distinct fits
      fits' round (interned _ _) (exactAt_single _ _)
  have matched (filter name : List Byte) (short : name.length ≤ 255) :
      (TopicSet.empty.insert ⟨1⟩).items.any
          (Topic.matchesTopic ((single filter).strToIndex name).2 ·
            ((single filter).strToIndex name).1) =
        strncmpEqual filter name := by
    change (Topic.matchesTopic ((single filter).strToIndex name).2 ⟨1⟩
      ((single filter).strToIndex name).1 || false) = _
    rw [Bool.or_false, matches_single filter short]
  dsimp only at exchanged ⊢
  rw [noSubscription] at exchanged
  simp only [matched _ _ (Topic.length_cut_le _)] at exchanged
  exact exchanged

/--
Topics stay distinct between a subscription and a publication: a name that is
no beginning of the other one is not delivered, and an equal one is.
-/
structure StaysDistinct
    (middle after : World StringIndexer Os)
    (subscriber : ClientId)
    (filter name frame : List Byte) : Prop where
  distinct :
    ¬ filter <+: name → ¬ name <+: filter →
      after.trace.messagesTo subscriber = middle.trace.messagesTo subscriber
  equal :
    filter = name →
      after.trace.messagesTo subscriber =
        middle.trace.messagesTo subscriber ++ [frame]

/--
The condition for it: an upstream broker that is connected takes all
publications; otherwise one name begins with the other, or what is left of
both differs.
-/
def KeptApart
    (world : World StringIndexer Os)
    (broker : BrokerId)
    (filter name : List Byte) : Prop :=
  if world.upstreamConnected broker = true then
    filter ≠ name
  else
    filter <+: name ∨ name <+: filter ∨
      strncmpEqual (Topic.cut filter) (Topic.cut name) = false

instance
    (world : World StringIndexer Os)
    (broker : BrokerId)
    (filter name : List Byte) :
    Decidable (world.KeptApart broker filter name) :=
  inferInstanceAs
    (Decidable
      (if world.upstreamConnected broker = true then
        filter ≠ name
      else
        filter <+: name ∨ name <+: filter ∨
          strncmpEqual (Topic.cut filter) (Topic.cut name) = false))

/--
A subscription and a publication of two peers, with names of any length, keep
their topics distinct if and only if the names are kept apart.
-/
theorem stays_distinct_iff
    (apart : SessionsApart Os)
    (linked : Linked broker world)
    (noTopic : world.indexer = .empty)
    (noSubscription : (world.clients subscriber).subscriptions = .empty)
    (isSubscriber : world.Peer broker subscriber)
    (isPublisher : world.Peer broker publisher)
    (distinct : publisher ≠ subscriber)
    (fits :
      (subscription.packet lengthBytes).bytes.length ≤
        MqttMessage.maxBufferLength)
    (fits' :
      (publication.packet lengthBytes').bytes.length ≤
        MqttMessage.maxBufferLength) :
    let middle :=
      world.processMessage subscriber (subscription.packet lengthBytes).message
    let after :=
      middle.processMessage publisher (publication.packet lengthBytes').message
    StaysDistinct middle after subscriber subscription.name publication.name
        (publication.packet lengthBytes').bytes ↔
      world.KeptApart broker subscription.name publication.name := by
  have sent :=
    messagesTo_pair apart linked noTopic noSubscription isSubscriber
      isPublisher distinct fits fits'
  dsimp only at sent ⊢
  generalize (publication.packet lengthBytes').bytes = frame at *
  unfold KeptApart
  by_cases upstream : world.upstreamConnected broker = true
  · rw [if_pos upstream]
    rw [if_neg (by simp [upstream]), List.append_nil] at sent
    constructor
    · intro stays same
      have delivered := stays.equal same
      rw [sent] at delivered
      simp at delivered
    · intro differ
      exact ⟨fun _ _ => sent, fun same => absurd same differ⟩
  · rw [if_neg upstream]
    have noUpstream : world.upstreamConnected broker = false := by
      simpa using upstream
    simp only [noUpstream, true_and] at sent
    cases compared : strncmpEqual (Topic.cut subscription.name)
        (Topic.cut publication.name) with
    | true =>
        rw [compared, if_pos rfl] at sent
        constructor
        · intro stays
          by_contra kept
          obtain ⟨first, second, _⟩ := by simpa only [not_or] using kept
          have same := stays.distinct first second
          rw [sent] at same
          simp at same
        · rintro (begins | begins | differ)
          · exact ⟨fun notBegins => absurd begins notBegins, fun _ => sent⟩
          · exact ⟨fun _ notBegins => absurd begins notBegins, fun _ => sent⟩
          · contradiction
    | false =>
        rw [compared, if_neg Bool.false_ne_true, List.append_nil] at sent
        refine iff_of_true ⟨fun _ _ => sent, ?_⟩ (.inr (.inr rfl))
        intro same
        rw [same, strncmpEqual_self] at compared
        contradiction

/-- No topic is stored when both peers have logged in. -/
theorem noTopic_twoPeersRun :
    twoPeersRun.indexer = .empty ∧
      (twoPeersRun.clients 0).subscriptions = .empty :=
  ⟨rfl, rfl⟩

/-- Topics `"a"` and `"b"` stay distinct. -/
theorem stays_distinct_short :
    let middle :=
      twoPeersRun.processMessage 0
        (Subscription.packet ⟨(0, 7), [0x61], 0⟩ [0x06]).message
    let frame :=
      Publication.packet ⟨false, 0, false, [0x62], (0, 0), [0x78]⟩ [0x04]
    StaysDistinct middle (middle.processMessage 1 frame.message) 0 [0x61]
      [0x62] frame.bytes :=
  (stays_distinct_iff sessionsApart_script linked_twoPeersRun
    noTopic_twoPeersRun.1 noTopic_twoPeersRun.2 peer_twoPeersRun_first
    peer_twoPeersRun_second (by decide) (by decide) (by decide)).mpr (by decide)

/-- A name of 256 times the same character. -/
def longName (byte : Byte) : List Byte :=
  List.replicate 256 byte

theorem length_longName (byte : Byte) : (longName byte).length = 256 :=
  List.length_replicate

/-- Nothing is left of it. -/
theorem cut_longName (byte : Byte) : Topic.cut (longName byte) = [] := by
  rw [Topic.cut, length_longName, Nat.mod_self, List.take_zero]

/-- Different ones do not begin with each other. -/
theorem longName_not_begins
    {first second : Byte}
    (differ : first ≠ second) :
    ¬ longName first <+: longName second := by
  intro begins
  have same :=
    begins.eq_of_length
      ((length_longName first).trans (length_longName second).symm)
  exact differ (List.replicate_right_injective (by decide) same)

/-- A frame that subscribes to a long name. -/
def longSubscription : Subscription :=
  ⟨(0, 7), longName 0x61, 0⟩

/-- A frame that publishes another one. -/
def longPublication : Publication :=
  ⟨false, ⟨0, by decide⟩, false, longName 0x62, (0, 0), [0x78]⟩

theorem wellFormed_longSubscription :
    (longSubscription.packet [0x85, 0x02]).WellFormed where
  groups := ⟨by decide, by change 2 < 128; decide⟩
  short := by decide
  encodes := by
    have name : longSubscription.name.length = 256 := length_longName 0x61
    rw [Subscription.length_body, name]
    decide

theorem wellFormed_longPublication :
    (longPublication.packet [0x83, 0x02]).WellFormed where
  groups := ⟨by decide, by change 2 < 128; decide⟩
  short := by decide
  encodes := by
    have rest :
        (longPublication.identifierField ++
          longPublication.payload).length = 1 := by
      decide
    have name : longPublication.name.length = 256 := length_longName 0x62
    rw [Publication.body_packet, List.length_append, length_stringField, rest,
      name]
    decide

/-- Of two long names the second one is delivered to the first one. -/
theorem not_stays_distinct_long :
    let middle :=
      twoPeersRun.processMessage 0
        (longSubscription.packet [0x85, 0x02]).message
    let frame := longPublication.packet [0x83, 0x02]
    (∃ script : Script, Run 0 always script.setup twoPeersRun) ∧
      (longSubscription.packet [0x85, 0x02]).WellFormed ∧ frame.WellFormed ∧
        ¬ StaysDistinct middle (middle.processMessage 1 frame.message) 0
          longSubscription.name longPublication.name frame.bytes := by
  refine ⟨⟨_, run_performAll 0 always _ _⟩, wellFormed_longSubscription,
    wellFormed_longPublication, ?_⟩
  intro stays
  have fits :
      (longSubscription.packet [0x85, 0x02]).bytes.length ≤
        MqttMessage.maxBufferLength := by
    rw [Packet.length_bytes, ← wellFormed_longSubscription.encodes]
    decide
  have fits' :
      (longPublication.packet [0x83, 0x02]).bytes.length ≤
        MqttMessage.maxBufferLength := by
    rw [Packet.length_bytes, ← wellFormed_longPublication.encodes]
    decide
  have delivered :=
    messagesTo_pair sessionsApart_script linked_twoPeersRun
      noTopic_twoPeersRun.1 noTopic_twoPeersRun.2 peer_twoPeersRun_first
      peer_twoPeersRun_second (by decide) fits fits'
  have kept :=
    stays.distinct (longName_not_begins (by decide))
      (longName_not_begins (by decide))
  have noUpstream : twoPeersRun.upstreamConnected 0 = false := by decide
  have same :
      strncmpEqual (Topic.cut longSubscription.name)
        (Topic.cut longPublication.name) = true := by
    change strncmpEqual (Topic.cut (longName 0x61))
      (Topic.cut (longName 0x62)) = true
    rw [cut_longName, cut_longName]
    rfl
  dsimp only at delivered
  rw [kept, if_pos ⟨noUpstream, same⟩] at delivered
  simp at delivered

end World

end SimpleTlsBroker
