import SimpleTlsBroker.IndexedStrings

namespace SimpleTlsBroker

/-!
# What the counters guarantee

Two conditions on a history of `IndexedString` objects.  Without an overflow
of a counter, every counter is at least the number of live holders, so a live
topic keeps its entry.  When moreover no assignment overwrites an index, the
counters are the numbers of holders, and the table holds the live topics only.
-/

open History

namespace IndexedStrings

variable {before after : IndexedStrings}
variable {operation : StringOperation}
variable {topic other : Topic}

/-- The index that an operation takes from the table. -/
def takes (state : IndexedStrings) : StringOperation → Option Topic
  | .construct _ name => some (state.indexer.strToIndex name).1
  | .copy _ source => some (state.topic source)
  | .assign _ source => some (state.topic source)
  | .destroy _ => none

/-- The index that an object loses. -/
def loses (state : IndexedStrings) : StringOperation → Option Topic
  | .construct _ _ => none
  | .copy _ _ => none
  | .assign object _ => some (state.topic object)
  | .destroy object => some (state.topic object)

/-- A live object is a holder of its index. -/
theorem holders_pos
    {object : StringId}
    (live : object ∈ before.live) :
    0 < before.holders (before.topic object) :=
  Holders.count_pos_iff.mpr ⟨object, live, rfl⟩

/-- How the number of holders of an index changes. -/
theorem holders_perform
    (allowed : before.Allows operation)
    (topic : Topic) :
    (before.perform operation).holders topic +
        (if before.loses operation = some topic then 1 else 0) =
      before.holders topic +
        if before.takes operation = some topic then 1 else 0 := by
  cases operation with
  | construct object name =>
      have added :=
        Holders.count_insert
          (Function.update before.topic object
            (before.indexer.strToIndex name).1)
          topic allowed
      rw [Function.update_self,
        Holders.count_update_of_notMem allowed] at added
      simpa [holders, perform, loses, takes] using added
  | copy object source =>
      have added :=
        Holders.count_insert
          (Function.update before.topic object (before.topic source))
          topic allowed.1
      rw [Function.update_self,
        Holders.count_update_of_notMem allowed.1] at added
      simpa [holders, perform, loses, takes] using added
  | assign object source =>
      have updated :=
        Holders.count_update before.topic topic allowed.1
          (before.topic source)
      simpa [holders, perform, loses, takes] using updated
  | destroy object =>
      have removed := Holders.count_erase before.topic topic allowed
      simpa [holders, perform, loses, takes] using removed

/-- Every index that is held has an entry; index 0 never has one. -/
structure Indexed (state : IndexedStrings) : Prop where
  unindexed : state.indexer.strings 0 = none
  held :
    ∀ topic, topic.index ≠ 0 → 0 < state.holders topic →
      ∃ counter, state.indexer.entry topic = some counter

/-- What an operation that takes an index does to the table. -/
theorem taken_perform
    (indexed : Indexed before)
    (allowed : before.Allows operation)
    (takes : before.takes operation = some topic) :
    StringIndexer.Taken before.indexer topic
      (before.perform operation).indexer := by
  have used :
      ∀ {source}, source ∈ before.live →
        StringIndexer.Taken before.indexer (before.topic source)
          (before.indexer.use (before.topic source)) := by
    intro source live
    apply StringIndexer.taken_use
    · exact fun isIndex => indexed.held _ isIndex (holders_pos live)
    · exact indexed.unindexed
  cases operation with
  | construct object name =>
      obtain rfl := Option.some.inj takes
      exact StringIndexer.taken_strToIndex _ name indexed.unindexed
  | copy object source =>
      obtain rfl := Option.some.inj takes
      exact used allowed.2
  | assign object source =>
      obtain rfl := Option.some.inj takes
      exact used allowed.2
  | destroy object => cases takes

/-- An operation that takes no index destroys an object. -/
theorem destroy_of_takes
    (takes : before.takes operation = none) :
    ∃ object, operation = .destroy object := by
  cases operation with
  | construct object name => cases takes
  | copy object source => cases takes
  | assign object source => cases takes
  | destroy object => exact ⟨object, rfl⟩

/-! ## Counters without overflow -/

/-- No counter is incremented past 255. -/
def NoOverflow
    (state : IndexedStrings)
    (operation : StringOperation) : Prop :=
  ∀ topic ∈ state.takes operation,
    ∀ counter ∈ state.indexer.entry topic, counter.used < 255

instance (state : IndexedStrings) (operation : StringOperation) :
    Decidable (state.NoOverflow operation) :=
  inferInstanceAs
    (Decidable
      (∀ topic ∈ state.takes operation,
        ∀ counter ∈ state.indexer.entry topic, counter.used < 255))

/-- The counters are at least the numbers of live holders. -/
structure Covered (state : IndexedStrings) : Prop where
  unindexed : state.indexer.strings 0 = none
  enough :
    ∀ topic, topic.index ≠ 0 → 0 < state.holders topic →
      ∃ counter, state.indexer.entry topic = some counter ∧
        state.holders topic ≤ counter.used ∧ counter.used < 256

namespace Covered

/-- What is held has its entry. -/
theorem indexed (covered : Covered before) : Indexed before where
  unindexed := covered.unindexed
  held := by
    intro topic isIndex held
    obtain ⟨counter, found, _⟩ := covered.enough topic isIndex held
    exact ⟨counter, found⟩

/-- Without strings there is nothing to cover. -/
theorem start : Covered empty where
  unindexed := rfl
  enough := by
    intro topic _ held
    simp [holders, empty] at held

/-- Taking an index keeps the table covered. -/
theorem take
    (covered : Covered before)
    (taken : StringIndexer.Taken before.indexer topic after.indexer)
    (noOverflow :
      ∀ counter, before.indexer.entry topic = some counter →
        counter.used < 255)
    (one : after.holders topic ≤ before.holders topic + 1)
    (others :
      ∀ other ≠ topic, after.holders other ≤ before.holders other) :
    Covered after where
  unindexed := taken.unindexed covered.unindexed
  enough := by
    intro index isIndex held
    by_cases same : index = topic
    · subst same
      obtain ⟨counter', found', cases⟩ := taken.entry_self isIndex
      refine ⟨counter', found', ?_⟩
      have enough := covered.enough index isIndex
      rcases cases with ⟨free, used⟩ | ⟨counter, found, used⟩
      · have notHeld : ¬ 0 < before.holders index := by
          intro heldBefore
          obtain ⟨counter, found, _⟩ := enough heldBefore
          rw [free] at found
          contradiction
        omega
      · have small := noOverflow counter found
        by_cases heldBefore : 0 < before.holders index
        · obtain ⟨stored, isStored, enough, _⟩ := enough heldBefore
          rw [found] at isStored
          obtain rfl := Option.some.inj isStored
          omega
        · omega
    · have fewer := others index same
      obtain ⟨counter, found, enough, small⟩ :=
        covered.enough index isIndex (Nat.lt_of_lt_of_le held fewer)
      exact ⟨counter, (taken.entry_other same).trans found,
        Nat.le_trans fewer enough, small⟩

/-- Releasing a held index keeps the table covered. -/
theorem release
    (covered : Covered before)
    (released : after.indexer = before.indexer.release topic)
    (one : after.holders topic + 1 = before.holders topic)
    (others :
      ∀ other ≠ topic, after.holders other = before.holders other) :
    Covered after where
  unindexed := by
    rw [released]
    exact StringIndexer.release_unindexed covered.unindexed
  enough := by
    intro index isIndex held
    by_cases same : index = topic
    · subst same
      obtain ⟨counter, found, enough, small⟩ :=
        covered.enough index isIndex (by omega)
      have remains : (counter.used + 255) % 256 = counter.used - 1 := by
        omega
      have entry := StringIndexer.entry_release found
      rw [remains, if_neg (by omega)] at entry
      rw [released]
      exact ⟨_, entry, by dsimp only; omega, by dsimp only; omega⟩
    · rw [others index same] at held ⊢
      obtain ⟨counter, found, enough⟩ := covered.enough index isIndex held
      rw [released]
      exact ⟨counter,
        (StringIndexer.entry_release_other _ same).trans found, enough⟩

/-- Every operation keeps the table covered. -/
theorem perform
    (covered : Covered before)
    (allowed : before.Allows operation)
    (noOverflow : before.NoOverflow operation) :
    Covered (before.perform operation) := by
  have holders := holders_perform allowed
  cases takes : before.takes operation with
  | some topic =>
      apply covered.take (taken_perform covered.indexed allowed takes)
      · exact noOverflow topic takes
      · have atTopic := holders topic
        rw [takes, if_pos rfl] at atTopic
        omega
      · intro other distinct
        have notTaken : some topic ≠ some other :=
          fun same => distinct (Option.some.inj same).symm
        have atOther := holders other
        rw [takes, if_neg notTaken] at atOther
        omega
  | none =>
      obtain ⟨object, rfl⟩ := destroy_of_takes takes
      apply covered.release rfl
      · have atTopic := holders (before.topic object)
        simpa [loses, IndexedStrings.takes] using atTopic
      · intro other distinct
        have atOther := holders other
        simpa [loses, IndexedStrings.takes, distinct.symm] using atOther

/-- Every history without overflow keeps the table covered. -/
theorem run
    (history : Run NoOverflow before after)
    (covered : Covered before) :
    Covered after := by
  apply run_preserves _ history covered
  rintro before after ⟨operation, allowed, noOverflow, rfl⟩ covered
  exact covered.perform allowed noOverflow

end Covered

/-! ## A live topic -/

/-- An operation that neither destroys an object nor assigns to it. -/
def Leaves
    (object : StringId) : StringOperation → Prop
  | .construct _ _ => True
  | .copy _ _ => True
  | .assign target _ => target ≠ object
  | .destroy target => target ≠ object

instance (object : StringId) (operation : StringOperation) :
    Decidable (Leaves object operation) :=
  match operation with
  | .construct _ _ => inferInstanceAs (Decidable True)
  | .copy _ _ => inferInstanceAs (Decidable True)
  | .assign target _ => inferInstanceAs (Decidable (target ≠ object))
  | .destroy target => inferInstanceAs (Decidable (target ≠ object))

/-- An object that is left alone stays alive with its index. -/
theorem live_perform
    {object : StringId}
    (allowed : before.Allows operation)
    (leaves : Leaves object operation)
    (live : object ∈ before.live) :
    object ∈ (before.perform operation).live ∧
      (before.perform operation).topic object = before.topic object := by
  cases operation with
  | construct target name =>
      have distinct : object ≠ target := fun same => allowed (same ▸ live)
      exact ⟨Finset.mem_insert_of_mem live,
        Function.update_of_ne distinct _ _⟩
  | copy target source =>
      have distinct : object ≠ target := fun same => allowed.1 (same ▸ live)
      exact ⟨Finset.mem_insert_of_mem live,
        Function.update_of_ne distinct _ _⟩
  | assign target source =>
      exact ⟨live, Function.update_of_ne (Ne.symm leaves) _ _⟩
  | destroy target =>
      exact ⟨Finset.mem_erase_of_ne_of_mem (Ne.symm leaves) live, rfl⟩

/-- No operation changes the string of an entry that stays. -/
theorem str_perform
    {counter counter' : StringCounter}
    (indexed : Indexed before)
    (allowed : before.Allows operation)
    (found : before.indexer.entry topic = some counter)
    (found' :
      (before.perform operation).indexer.entry topic = some counter') :
    counter'.str = counter.str := by
  cases takes : before.takes operation with
  | some taken =>
      have takesIt := taken_perform indexed allowed takes
      obtain ⟨stored, isStored, sameStr⟩ := takesIt.str found
      rw [found'] at isStored
      obtain rfl := Option.some.inj isStored
      exact sameStr
  | none =>
      obtain ⟨object, rfl⟩ := destroy_of_takes takes
      exact StringIndexer.str_release found found'

/-- The entry of a live object. -/
theorem Covered.entry_live
    {object : StringId}
    (covered : Covered before)
    (live : object ∈ before.live)
    (isIndex : (before.topic object).index ≠ 0) :
    ∃ counter,
      before.indexer.entry (before.topic object) = some counter ∧
        counter.str = before.str object := by
  obtain ⟨counter, found⟩ :=
    covered.indexed.held _ isIndex (holders_pos live)
  exact ⟨counter, found, (StringIndexer.str_of_entry found).symm⟩

/-- One operation does not change what a live object means. -/
theorem Covered.str_step
    {object : StringId}
    (covered : Covered before)
    (allowed : before.Allows operation)
    (noOverflow : before.NoOverflow operation)
    (leaves : Leaves object operation)
    (live : object ∈ before.live)
    (isIndex : (before.topic object).index ≠ 0) :
    (before.perform operation).str object = before.str object := by
  obtain ⟨live', sameTopic⟩ := live_perform allowed leaves live
  have covered' := covered.perform allowed noOverflow
  obtain ⟨counter, found, isStr⟩ := covered.entry_live live isIndex
  rw [← sameTopic] at isIndex
  obtain ⟨counter', found', isStr'⟩ := covered'.entry_live live' isIndex
  rw [sameTopic] at found'
  rw [← isStr, ← isStr']
  exact str_perform covered.indexed allowed found found'

/--
A live string with an index keeps its index and its meaning until it is
destroyed or assigned to, and the table keeps the entry.
-/
theorem live_topic_kept
    {middle last : IndexedStrings}
    {object : StringId}
    (earlier : Run NoOverflow empty middle)
    (live : object ∈ middle.live)
    (isIndex : (middle.topic object).index ≠ 0)
    (later :
      Run
        (fun state operation =>
          state.NoOverflow operation ∧ Leaves object operation)
        middle last) :
    object ∈ last.live ∧
      last.topic object = middle.topic object ∧
      last.str object = middle.str object ∧
      ∃ counter,
        last.indexer.strings (middle.topic object).index = some counter ∧
          counter.str = middle.str object := by
  have covered := Covered.run earlier .start
  have kept :
      Covered last ∧ object ∈ last.live ∧
        last.topic object = middle.topic object ∧
        last.str object = middle.str object := by
    induction later with
    | refl => exact ⟨covered, live, rfl, rfl⟩
    | tail _ lastStep inductionHypothesis =>
        obtain ⟨covered, live, sameTopic, sameStr⟩ := inductionHypothesis
        obtain ⟨operation, allowed, ⟨noOverflow, leaves⟩, rfl⟩ := lastStep
        obtain ⟨live', sameTopic'⟩ := live_perform allowed leaves live
        rw [← sameTopic] at isIndex
        have sameStr' :=
          covered.str_step allowed noOverflow leaves live isIndex
        exact ⟨covered.perform allowed noOverflow, live',
          sameTopic'.trans sameTopic, sameStr'.trans sameStr⟩
  obtain ⟨covered, live, sameTopic, sameStr⟩ := kept
  rw [← sameTopic] at isIndex
  obtain ⟨counter, found, isStr⟩ := covered.entry_live live isIndex
  rw [sameTopic] at found
  exact ⟨live, sameTopic, sameStr, counter, found, isStr.trans sameStr⟩

/-- A topic keeps its name while others come and go. -/
theorem live_topic_kept_between :
    ((empty.performAll [.construct 0 [97], .copy 1 0]).performAll
      [.construct 2 [98], .assign 1 2, .destroy 2]).str 0 = [97] := by
  have earlier :
      Run NoOverflow empty
        (empty.performAll [.construct 0 [97], .copy 1 0]) :=
    run_performAll (by decide)
  have later :
      Run
        (fun state operation =>
          state.NoOverflow operation ∧ Leaves 0 operation)
        (empty.performAll [.construct 0 [97], .copy 1 0])
        ((empty.performAll [.construct 0 [97], .copy 1 0]).performAll
          [.construct 2 [98], .assign 1 2, .destroy 2]) :=
    run_performAll (by decide)
  have kept := live_topic_kept earlier (by decide) (by decide) later
  exact kept.2.2.1.trans (by decide)

/-! ## Counters that agree with the holders -/

/--
No assignment overwrites an index, and no object is destroyed while its index
has 256, 512, … other holders.
-/
def KeepsCount
    (state : IndexedStrings) : StringOperation → Prop
  | .construct _ _ => True
  | .copy _ _ => True
  | .assign object _ => (state.topic object).index = 0
  | .destroy object =>
      (state.topic object).index ≠ 0 →
        (state.holders (state.topic object) - 1) % 256 = 0 →
          state.holders (state.topic object) = 1

instance (state : IndexedStrings) (operation : StringOperation) :
    Decidable (state.KeepsCount operation) :=
  match operation with
  | .construct _ _ => inferInstanceAs (Decidable True)
  | .copy _ _ => inferInstanceAs (Decidable True)
  | .assign object _ =>
      inferInstanceAs (Decidable ((state.topic object).index = 0))
  | .destroy object =>
      inferInstanceAs
        (Decidable
          ((state.topic object).index ≠ 0 →
            (state.holders (state.topic object) - 1) % 256 = 0 →
              state.holders (state.topic object) = 1))

/-- Every counter is the number of live holders, in 8 bits. -/
structure Exact (state : IndexedStrings) : Prop where
  unindexed : state.indexer.strings 0 = none
  held :
    ∀ topic, topic.index ≠ 0 → 0 < state.holders topic →
      ∃ counter, state.indexer.entry topic = some counter
  exact :
    ∀ topic counter, state.indexer.entry topic = some counter →
      0 < state.holders topic ∧
        counter.used = state.holders topic % 256

namespace Exact

/-- Without strings there are no counters. -/
theorem start : Exact empty where
  unindexed := rfl
  held := by
    intro topic _ held
    simp [holders, empty] at held
  exact := by
    intro topic counter found
    cases found

/-- What is held has its entry. -/
theorem indexed (exact : Exact before) : Indexed before where
  unindexed := exact.unindexed
  held := exact.held

/-- An entry belongs to an index. -/
theorem isIndex_of_entry
    {counter : StringCounter}
    (exact : Exact before)
    (found : before.indexer.entry topic = some counter) :
    topic.index ≠ 0 := by
  intro isZero
  unfold StringIndexer.entry at found
  rw [isZero, exact.unindexed] at found
  contradiction

/-- Taking an index counts one more holder. -/
theorem take
    (exact : Exact before)
    (taken : StringIndexer.Taken before.indexer topic after.indexer)
    (one :
      topic.index ≠ 0 →
        after.holders topic = before.holders topic + 1)
    (others :
      ∀ other ≠ topic, other.index ≠ 0 →
        after.holders other = before.holders other) :
    Exact after where
  unindexed := taken.unindexed exact.unindexed
  held := by
    intro index isIndex held
    by_cases same : index = topic
    · subst same
      obtain ⟨counter, found, _⟩ := taken.entry_self isIndex
      exact ⟨counter, found⟩
    · rw [others index same isIndex] at held
      obtain ⟨counter, found⟩ := exact.held index isIndex held
      exact ⟨counter, (taken.entry_other same).trans found⟩
  exact := by
    intro index counter found
    have isIndex : index.index ≠ 0 := by
      intro isZero
      unfold StringIndexer.entry at found
      rw [isZero, taken.unindexed exact.unindexed] at found
      contradiction
    by_cases same : index = topic
    · subst same
      obtain ⟨stored, isStored, cases⟩ := taken.entry_self isIndex
      rw [found] at isStored
      obtain rfl := Option.some.inj isStored
      have one := one isIndex
      rcases cases with ⟨free, used⟩ | ⟨earlier, isEarlier, used⟩
      · have notHeld : ¬ 0 < before.holders index := by
          intro heldBefore
          obtain ⟨earlier, isEarlier⟩ := exact.held index isIndex heldBefore
          rw [free] at isEarlier
          contradiction
        omega
      · obtain ⟨_, isExact⟩ := exact.exact index earlier isEarlier
        omega
    · rw [taken.entry_other same] at found
      rw [others index same isIndex]
      exact exact.exact index counter found

/-- Releasing an index counts one holder less. -/
theorem release
    (exact : Exact before)
    (released : after.indexer = before.indexer.release topic)
    (one : after.holders topic + 1 = before.holders topic)
    (others :
      ∀ other ≠ topic, after.holders other = before.holders other)
    (noWrap :
      topic.index ≠ 0 → after.holders topic % 256 = 0 →
        after.holders topic = 0) :
    Exact after := by
  have entry :
      ∀ counter, before.indexer.entry topic = some counter →
        after.indexer.entry topic =
          if after.holders topic = 0 then
            none
          else
            some { counter with used := after.holders topic % 256 } := by
    intro counter found
    obtain ⟨_, isExact⟩ := exact.exact topic counter found
    have noWrap := noWrap (exact.isIndex_of_entry found)
    have remains :
        (counter.used + 255) % 256 = after.holders topic % 256 := by
      omega
    rw [released, StringIndexer.entry_release found, remains]
    by_cases last : after.holders topic = 0
    · rw [if_pos last, if_pos (by rw [last])]
    · rw [if_neg last, if_neg fun wraps => last (noWrap wraps)]
  have otherEntry :
      ∀ other ≠ topic,
        after.indexer.entry other = before.indexer.entry other := by
    intro other distinct
    rw [released]
    exact StringIndexer.entry_release_other _ distinct
  constructor
  case unindexed =>
    rw [released]
    exact StringIndexer.release_unindexed exact.unindexed
  case held =>
    intro index isIndex held
    by_cases same : index = topic
    · subst same
      obtain ⟨counter, found⟩ := exact.held index isIndex (by omega)
      rw [entry counter found, if_neg (by omega)]
      exact ⟨_, rfl⟩
    · rw [others index same] at held
      rw [otherEntry index same]
      exact exact.held index isIndex held
  case exact =>
    intro index counter found
    by_cases same : index = topic
    · subst same
      cases earlier : before.indexer.entry index with
      | none =>
          rw [released, StringIndexer.release_of_none earlier,
            earlier] at found
          contradiction
      | some stored =>
          rw [entry stored earlier] at found
          split at found
          · contradiction
          · obtain rfl := Option.some.inj found
            exact ⟨by omega, rfl⟩
    · rw [otherEntry index same] at found
      rw [others index same]
      exact exact.exact index counter found

/-- Every operation that keeps the count keeps the counters exact. -/
theorem perform
    (exact : Exact before)
    (allowed : before.Allows operation)
    (keeps : before.KeepsCount operation) :
    Exact (before.perform operation) := by
  have holders := holders_perform allowed
  cases takes : before.takes operation with
  | some topic =>
      have loses :
          ∀ other, other.index ≠ 0 → before.loses operation ≠ some other := by
        intro other isIndex lost
        cases operation with
        | construct object name => cases lost
        | copy object source => cases lost
        | assign object source =>
            obtain rfl := Option.some.inj lost
            exact isIndex keeps
        | destroy object => cases takes
      apply exact.take (taken_perform exact.indexed allowed takes)
      · intro isIndex
        have atTopic := holders topic
        rw [takes, if_pos rfl, if_neg (loses topic isIndex)] at atTopic
        exact atTopic
      · intro other distinct isIndex
        have notTaken : some topic ≠ some other :=
          fun same => distinct (Option.some.inj same).symm
        have atOther := holders other
        rw [takes, if_neg notTaken, if_neg (loses other isIndex)] at atOther
        exact atOther
  | none =>
      obtain ⟨object, rfl⟩ := destroy_of_takes takes
      have atTopic := holders (before.topic object)
      simp only [loses, IndexedStrings.takes, if_pos, reduceCtorEq,
        if_false, Nat.add_zero] at atTopic
      apply exact.release rfl atTopic
      · intro other distinct
        have atOther := holders other
        simpa [loses, IndexedStrings.takes, distinct.symm] using atOther
      · intro isIndex wraps
        have noWrap := keeps isIndex
        rw [← atTopic, Nat.add_sub_cancel] at noWrap
        have last := noWrap wraps
        omega

/-- Every history that keeps the count keeps the counters exact. -/
theorem run
    (history : Run KeepsCount before after)
    (exact : Exact before) :
    Exact after := by
  apply run_preserves _ history exact
  rintro before after ⟨operation, allowed, keeps, rfl⟩ exact
  exact exact.perform allowed keeps

/-- Exact counters: the entries are those of the live objects. -/
theorem counted (exact : Exact before) : Counted before := by
  intro index isIndex
  constructor
  · intro isSome
    obtain ⟨counter, found⟩ := Option.isSome_iff_exists.mp isSome
    exact Holders.count_pos_iff.mp (exact.exact ⟨index⟩ counter found).1
  · intro held
    obtain ⟨counter, found⟩ :=
      exact.held ⟨index⟩ isIndex (Holders.count_pos_iff.mpr held)
    exact Option.isSome_iff_exists.mpr ⟨counter, found⟩

end Exact

/-- A table that holds the live topics only is empty without them. -/
theorem Counted.count_zero
    (counted : Counted before)
    (unindexed : before.indexer.strings 0 = none)
    (none : before.live = ∅) :
    before.indexer.count = 0 := by
  unfold StringIndexer.count
  rw [List.countP_eq_zero]
  intro index _ isSome
  by_cases isZero : index = 0
  · subst isZero
    rw [unindexed] at isSome
    contradiction
  · obtain ⟨object, live, _⟩ := (counted index isZero).mp isSome
    rw [none] at live
    exact Finset.notMem_empty object live

/--
While `operator=` overwrites no index and no counter wraps at a release, the
table holds exactly the live topics, and nothing is left when they are gone.
-/
theorem counted_of_keepsCount
    {state : IndexedStrings}
    (history : Run KeepsCount empty state) :
    Counted state ∧ (state.live = ∅ → state.indexer.count = 0) := by
  have exact := Exact.run history .start
  exact ⟨exact.counted, exact.counted.count_zero exact.unindexed⟩

/-- Two copies of a topic are counted and forgotten. -/
theorem counted_of_copies :
    (empty.performAll
      [.construct 0 [97], .copy 1 0, .destroy 0,
        .destroy 1]).indexer.count = 0 := by
  have history :
      Run KeepsCount empty
        (empty.performAll
          [.construct 0 [97], .copy 1 0, .destroy 0, .destroy 1]) :=
    run_performAll (by decide)
  exact (counted_of_keepsCount history).2 (by decide)

/-- An entry that is left without strings is not counted. -/
theorem not_counted_of_left
    {state : IndexedStrings}
    (index : Nat)
    (isIndex : index ≠ 0)
    (left : (state.indexer.strings index).isSome)
    (noneLive : state.live = ∅) :
    ¬ Counted state := by
  intro counted
  obtain ⟨object, live, _⟩ := (counted index isIndex).mp left
  rw [noneLive] at live
  exact Finset.notMem_empty object live

/-- An assignment over a topic loses its index: nothing lives, one is left. -/
theorem assignment_loses_index :
    ∃ state,
      Run (fun _ _ => True) empty state ∧
        state.live = ∅ ∧ state.indexer.count = 1 ∧ ¬ Counted state :=
  ⟨empty.performAll
      [.construct 0 [97], .construct 1 [98], .assign 0 1, .destroy 0,
        .destroy 1],
    run_performAll (by decide), by decide, by decide +kernel,
    not_counted_of_left 1 (by decide) (by decide) (by decide)⟩

end IndexedStrings
end SimpleTlsBroker
