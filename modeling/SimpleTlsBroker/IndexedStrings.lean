import SimpleTlsBroker.Topics
import SimpleTlsBroker.Library.Holders
import SimpleTlsBroker.Library.History

namespace SimpleTlsBroker

/-!
# Live strings and their counters

Every `IndexedString` holds one index of the string table.  The table counts
how often an index was taken and given back; whether this counter agrees with
the number of objects that are alive decides when an entry disappears.
-/

open History

/-- The address of an `IndexedString` object. -/
abbrev StringId := Nat

/-- The string table and the `IndexedString` objects that are alive. -/
structure IndexedStrings where
  indexer : StringIndexer
  live : Finset StringId
  topic : StringId → Topic

/-- What can be done with `IndexedString` objects. -/
inductive StringOperation where
  /-- The constructor from characters and their number. -/
  | construct (object : StringId) (name : List Byte)
  /-- The copy constructor. -/
  | copy (object source : StringId)
  /-- `operator=`; the index that is overwritten is not released. -/
  | assign (object source : StringId)
  /-- The destructor. -/
  | destroy (object : StringId)
  deriving DecidableEq

namespace IndexedStrings

/-- No strings, and an empty table. -/
def empty : IndexedStrings where
  indexer := .empty
  live := ∅
  topic := fun _ => ⟨0⟩

/-- What an operation does. -/
def perform
    (state : IndexedStrings) : StringOperation → IndexedStrings
  | .construct object name =>
      let (topic, indexer) := state.indexer.strToIndex name
      { indexer := indexer
        live := insert object state.live
        topic := Function.update state.topic object topic }
  | .copy object source =>
      { indexer := state.indexer.use (state.topic source)
        live := insert object state.live
        topic := Function.update state.topic object (state.topic source) }
  | .assign object source =>
      { state with
        indexer := state.indexer.use (state.topic source)
        topic := Function.update state.topic object (state.topic source) }
  | .destroy object =>
      { state with
        indexer := state.indexer.release (state.topic object)
        live := state.live.erase object }

/-- Objects are created at free addresses, and used while they are alive. -/
def Allows
    (state : IndexedStrings) : StringOperation → Prop
  | .construct object _ => object ∉ state.live
  | .copy object source => object ∉ state.live ∧ source ∈ state.live
  | .assign object source => object ∈ state.live ∧ source ∈ state.live
  | .destroy object => object ∈ state.live

instance (state : IndexedStrings) (operation : StringOperation) :
    Decidable (state.Allows operation) :=
  match operation with
  | .construct object _ => inferInstanceAs (Decidable (object ∉ state.live))
  | .copy object source =>
      inferInstanceAs
        (Decidable (object ∉ state.live ∧ source ∈ state.live))
  | .assign object source =>
      inferInstanceAs
        (Decidable (object ∈ state.live ∧ source ∈ state.live))
  | .destroy object => inferInstanceAs (Decidable (object ∈ state.live))

/-- One operation that meets a condition. -/
def Step
    (condition : IndexedStrings → StringOperation → Prop)
    (before after : IndexedStrings) : Prop :=
  ∃ operation, before.Allows operation ∧ condition before operation ∧
    after = before.perform operation

/-- A history of operations that all meet a condition. -/
abbrev Run
    (condition : IndexedStrings → StringOperation → Prop) :
    IndexedStrings → IndexedStrings → Prop :=
  Relation.ReflTransGen (Step condition)

/-- The state after a list of operations. -/
def performAll
    (state : IndexedStrings)
    (operations : List StringOperation) : IndexedStrings :=
  operations.foldl perform state

/-- A list of operations that all meet a condition. -/
def Performs
    (condition : IndexedStrings → StringOperation → Prop)
    (state : IndexedStrings) : List StringOperation → Prop
  | [] => True
  | operation :: rest =>
      (state.Allows operation ∧ condition state operation) ∧
        Performs condition (state.perform operation) rest

instance performsDecidable
    (condition : IndexedStrings → StringOperation → Prop)
    [∀ state operation, Decidable (condition state operation)]
    (state : IndexedStrings) :
    (operations : List StringOperation) →
      Decidable (Performs condition state operations)
  | [] => inferInstanceAs (Decidable True)
  | operation :: rest =>
      have := performsDecidable condition (state.perform operation) rest
      inferInstanceAs
        (Decidable
          ((state.Allows operation ∧ condition state operation) ∧
            Performs condition (state.perform operation) rest))

/-- A list of operations is a history. -/
theorem run_performAll
    {condition : IndexedStrings → StringOperation → Prop}
    {state : IndexedStrings}
    {operations : List StringOperation}
    (performs : Performs condition state operations) :
    Run condition state (state.performAll operations) := by
  induction operations generalizing state with
  | nil => exact .refl
  | cons operation rest inductionHypothesis =>
      obtain ⟨⟨allowed, meets⟩, performs⟩ := performs
      exact .head ⟨operation, allowed, meets, rfl⟩
        (inductionHypothesis performs)

/-- How many live objects hold an index. -/
def holders (state : IndexedStrings) (topic : Topic) : Nat :=
  Holders.count state.live state.topic topic

/-- `str()` of an object. -/
def str (state : IndexedStrings) (object : StringId) : List Byte :=
  state.indexer.str (state.topic object)

/-- The entries of the table are those that live objects hold. -/
def Counted (state : IndexedStrings) : Prop :=
  ∀ index ≠ 0,
    (state.indexer.strings index).isSome ↔
      ∃ object ∈ state.live, state.topic object = ⟨index⟩

end IndexedStrings

/-! ## What the operations do to an entry -/

namespace StringIndexer

variable {indexer before after : StringIndexer}
variable {topic other : Topic}

/-- The entry of a topic. -/
def entry (indexer : StringIndexer) (topic : Topic) : Option StringCounter :=
  indexer.strings topic.index

/--
An index was taken once more: its counter went up, or it was free and got an
entry, or it is the index of a full table, which has none.
-/
inductive Taken
    (before : StringIndexer)
    (topic : Topic) : StringIndexer → Prop where
  | again
      (counter : StringCounter)
      (found : before.entry topic = some counter) :
      Taken before topic
        (before.set topic.index
          (some { counter with used := (counter.used + 1) % 256 }))
  | first
      (name : List Byte)
      (isIndex : topic.index ≠ 0 ∧ topic.index < 256)
      (free : before.entry topic = none) :
      Taken before topic (before.set topic.index (some ⟨name, 1⟩))
  | full
      (unindexed : topic.index = 0) :
      Taken before topic before

/-- The entry of an index after it was set. -/
theorem entry_set
    (indexer : StringIndexer)
    (topic : Topic)
    (counter : Option StringCounter) :
    (indexer.set topic.index counter).entry topic = counter := by
  simp [entry, set]

/-- The other entries after an index was set. -/
theorem entry_set_other
    (indexer : StringIndexer)
    (counter : Option StringCounter)
    (distinct : other ≠ topic) :
    (indexer.set topic.index counter).entry other = indexer.entry other := by
  have indices : other.index ≠ topic.index := by
    intro same
    apply distinct
    cases other
    cases topic
    exact congrArg Topic.mk same
  simp [entry, set, indices]

/-- `use` takes an index that has an entry, or that never has one. -/
theorem taken_use
    (indexed :
      topic.index ≠ 0 → ∃ counter, indexer.entry topic = some counter)
    (unindexed : indexer.strings 0 = none) :
    Taken indexer topic (indexer.use topic) := by
  by_cases isZero : topic.index = 0
  · rw [use_of_none (by rw [isZero]; exact unindexed)]
    exact .full isZero
  · obtain ⟨counter, found⟩ := indexed isZero
    rw [use_of_entry found]
    exact .again counter found

/-- The search of `strToIndex` finds an entry. -/
theorem entry_of_lookup?
    {name : List Byte}
    {index : Nat}
    (found : indexer.lookup? name = some index) :
    ∃ counter, indexer.entry ⟨index⟩ = some counter := by
  have accepted := List.find?_some found
  unfold entry
  cases stored : indexer.strings index with
  | none => simp [stored] at accepted
  | some counter => exact ⟨counter, rfl⟩

/-- A free index is a valid one without entry. -/
theorem entry_of_free?
    {index : Nat}
    (found : indexer.free? = some index) :
    (index ≠ 0 ∧ index < 256) ∧ indexer.entry ⟨index⟩ = none := by
  have accepted := List.find?_some found
  have inRange := List.mem_of_find?_eq_some found
  simp only [List.mem_range'_1] at inRange
  refine ⟨⟨?_, ?_⟩, ?_⟩
  · omega
  · omega
  · simpa [entry] using accepted

/-- `strToIndex` takes the index that it returns. -/
theorem taken_strToIndex
    (indexer : StringIndexer)
    (name : List Byte)
    (unindexed : indexer.strings 0 = none) :
    Taken indexer (indexer.strToIndex name).1 (indexer.strToIndex name).2 := by
  cases looked : indexer.lookup? (Topic.cut name) with
  | some index =>
      rw [strToIndex_of_lookup? looked]
      exact taken_use (fun _ => entry_of_lookup? looked) unindexed
  | none =>
      cases found : indexer.free? with
      | some index =>
          obtain ⟨isIndex, free⟩ := entry_of_free? found
          rw [strToIndex_of_free? looked found]
          exact .first (Topic.cut name) isIndex free
      | none =>
          rw [strToIndex_of_full looked found]
          exact .full rfl

namespace Taken

/-- The other entries are left alone. -/
theorem entry_other
    (taken : Taken before topic after)
    (distinct : other ≠ topic) :
    after.entry other = before.entry other := by
  cases taken with
  | again counter found => exact entry_set_other before _ distinct
  | first name isIndex free => exact entry_set_other before _ distinct
  | full unindexed => rfl

/-- The entry of the index that was taken. -/
theorem entry_self
    (taken : Taken before topic after)
    (isIndex : topic.index ≠ 0) :
    ∃ counter', after.entry topic = some counter' ∧
      (before.entry topic = none ∧ counter'.used = 1 ∨
        ∃ counter, before.entry topic = some counter ∧
          counter'.used = (counter.used + 1) % 256) := by
  cases taken with
  | again counter found =>
      exact ⟨_, entry_set before topic _, .inr ⟨counter, found, rfl⟩⟩
  | first name _ free =>
      exact ⟨_, entry_set before topic _, .inl ⟨free, rfl⟩⟩
  | full unindexed => exact (isIndex unindexed).elim

/-- Index 0 gets no entry. -/
theorem unindexed
    (taken : Taken before topic after)
    (unindexed : before.strings 0 = none) :
    after.strings 0 = none := by
  by_cases isZero : topic = ⟨0⟩
  · subst isZero
    cases taken with
    | again counter found =>
        unfold entry at found
        rw [unindexed] at found
        contradiction
    | first name isIndex free => exact (isIndex.1 rfl).elim
    | full _ => exact unindexed
  · have kept := taken.entry_other (Ne.symm isZero)
    unfold entry at kept
    rw [kept]
    exact unindexed

/-- An entry keeps its string. -/
theorem str
    (taken : Taken before topic after)
    {counter : StringCounter}
    (found : before.entry other = some counter) :
    ∃ counter', after.entry other = some counter' ∧
      counter'.str = counter.str := by
  by_cases same : other = topic
  · subst same
    cases taken with
    | again stored isStored =>
        rw [found] at isStored
        obtain rfl := Option.some.inj isStored
        exact ⟨_, entry_set before other _, rfl⟩
    | first name isIndex free =>
        rw [found] at free
        contradiction
    | full unindexed => exact ⟨counter, found, rfl⟩
  · exact ⟨counter, (taken.entry_other same).trans found, rfl⟩

end Taken

/-- `release` leaves the other entries alone. -/
theorem entry_release_other
    (indexer : StringIndexer)
    (distinct : other ≠ topic) :
    (indexer.release topic).entry other = indexer.entry other := by
  unfold release
  split
  · dsimp only
    split
    · exact entry_set_other indexer _ distinct
    · exact entry_set_other indexer _ distinct
  · rfl

/-- `release` counts an entry down and drops it at zero. -/
theorem entry_release
    {counter : StringCounter}
    (found : indexer.entry topic = some counter) :
    (indexer.release topic).entry topic =
      if (counter.used + 255) % 256 = 0 then
        none
      else
        some { counter with used := (counter.used + 255) % 256 } := by
  rw [release_of_entry found]
  exact entry_set indexer topic _

/-- `release` of an index without entry does nothing. -/
theorem release_of_none
    (missing : indexer.entry topic = none) :
    indexer.release topic = indexer := by
  unfold entry at missing
  unfold release
  rw [missing]

/-- `release` gives index 0 no entry. -/
theorem release_unindexed
    (unindexed : indexer.strings 0 = none) :
    (indexer.release topic).strings 0 = none := by
  by_cases isZero : topic = ⟨0⟩
  · subst isZero
    rw [release_of_none unindexed]
    exact unindexed
  · have kept := entry_release_other indexer (Ne.symm isZero)
    exact kept.trans unindexed

/-- `release` keeps the string of an entry that stays. -/
theorem str_release
    {counter counter' : StringCounter}
    (found : indexer.entry other = some counter)
    (found' : (indexer.release topic).entry other = some counter') :
    counter'.str = counter.str := by
  by_cases same : other = topic
  · subst same
    rw [entry_release found] at found'
    split at found'
    · cases found'
    · obtain rfl := Option.some.inj found'
      rfl
  · rw [entry_release_other indexer same, found] at found'
    obtain rfl := Option.some.inj found'
    rfl

/-- The string of a topic with an entry. -/
theorem str_of_entry
    {counter : StringCounter}
    (found : indexer.entry topic = some counter) :
    indexer.str topic = counter.str := by
  unfold entry at found
  unfold str
  rw [found]

end StringIndexer

end SimpleTlsBroker
