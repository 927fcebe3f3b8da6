import Mathlib.Logic.Function.Basic
import Mathlib.Data.List.Pairwise
import SimpleTlsBroker.Message

namespace SimpleTlsBroker

/-!
# Topics and their interning

A `Topic` is an index into a table of strings.  The broker only uses the four
operations of `Indexer`; `StringIndexer` is the table of the source, with its
255 entries, its 8-bit reference counters and its prefix search.
-/

/-- An `IndexedString`: only the index is stored. -/
structure Topic where
  index : Nat
  deriving Repr, DecidableEq

/-- The operations of a string table that topics are built on. -/
class Indexer (Index : Type) where
  strToIndex : Index → List Byte → Topic × Index
  str : Index → Topic → List Byte
  use : Index → Topic → Index
  release : Index → Topic → Index

namespace Topic

/-- What a `Topic` takes of a name: the number of characters has 8 bits. -/
def cut (name : List Byte) : List Byte :=
  name.take (name.length % 256)

/-- Names of up to 255 characters are taken whole. -/
theorem cut_eq_self
    {name : List Byte}
    (short : name.length ≤ 255) :
    cut name = name := by
  rw [cut, Nat.mod_eq_of_lt (by omega), List.take_length]

/-- What is taken has up to 255 characters. -/
theorem length_cut_le (name : List Byte) : (cut name).length ≤ 255 := by
  rw [cut, List.length_take_of_le (Nat.mod_le _ _)]
  omega

/-- It is taken whole. -/
@[simp] theorem cut_cut (name : List Byte) : cut (cut name) = cut name :=
  cut_eq_self (length_cut_le name)

/-- `Topic::matches`. -/
def matchesTopic
    [Indexer Index]
    (indexer : Index)
    (subscription topic : Topic) : Bool :=
  subscription.index = topic.index ||
    Indexer.str indexer subscription = Indexer.str indexer topic

end Topic

/-! ## Sets of topics -/

/-- `std::set<Topic>`, ordered by index. -/
structure TopicSet where
  items : List Topic
  sorted : items.Pairwise fun first second => first.index < second.index

namespace TopicSet

instance : Membership Topic TopicSet where
  mem set topic := topic ∈ set.items

instance (topic : Topic) (set : TopicSet) : Decidable (topic ∈ set) :=
  inferInstanceAs (Decidable (topic ∈ set.items))

@[simp] theorem mem_items
    {topic : Topic}
    {set : TopicSet} :
    topic ∈ set.items ↔ topic ∈ set :=
  Iff.rfl

/-- The set a client starts with. -/
def empty : TopicSet where
  items := []
  sorted := .nil

@[simp] theorem not_mem_empty (topic : Topic) : topic ∉ empty :=
  List.not_mem_nil

/-- Insertion into an ordered list; an element already there stays. -/
def insertItem (topic : Topic) : List Topic → List Topic
  | [] => [topic]
  | head :: rest =>
      if topic.index < head.index then
        topic :: head :: rest
      else if head.index < topic.index then
        head :: insertItem topic rest
      else
        head :: rest

/-- Insertion adds exactly the inserted element. -/
theorem mem_insertItem
    {topic other : Topic}
    {items : List Topic} :
    other ∈ insertItem topic items ↔ other = topic ∨ other ∈ items := by
  induction items with
  | nil =>
      simp [insertItem]
  | cons head rest inductionHypothesis =>
      simp only [insertItem]
      split
      · simp
      · split
        · simp only [List.mem_cons, inductionHypothesis]
          tauto
        · have same : topic = head := by
            rcases topic with ⟨index⟩
            rcases head with ⟨headIndex⟩
            simp only [Topic.mk.injEq] at *
            omega
          subst topic
          simp

/-- Insertion keeps the order. -/
theorem sorted_insertItem
    (topic : Topic)
    {items : List Topic}
    (sorted : items.Pairwise fun first second => first.index < second.index) :
    (insertItem topic items).Pairwise
      fun first second => first.index < second.index := by
  induction items with
  | nil =>
      simp [insertItem]
  | cons head rest inductionHypothesis =>
      obtain ⟨headFirst, restSorted⟩ := List.pairwise_cons.mp sorted
      simp only [insertItem]
      split
      · rename_i before
        refine List.pairwise_cons.mpr ⟨?_, sorted⟩
        intro later member
        rcases List.mem_cons.mp member with isHead | inRest
        · exact isHead ▸ before
        · exact Nat.lt_trans before (headFirst later inRest)
      · split
        · rename_i after
          refine List.pairwise_cons.mpr
            ⟨?_, inductionHypothesis restSorted⟩
          intro later member
          rcases mem_insertItem.mp member with isTopic | inRest
          · exact isTopic ▸ after
          · exact headFirst later inRest
        · exact sorted

/-- `std::set::insert`. -/
def insert (set : TopicSet) (topic : Topic) : TopicSet where
  items := insertItem topic set.items
  sorted := sorted_insertItem topic set.sorted

/-- `std::set::erase` of an element found before. -/
def erase (set : TopicSet) (topic : Topic) : TopicSet where
  items := set.items.filter fun item => item ≠ topic
  sorted := set.sorted.filter _

@[simp] theorem mem_insert
    {set : TopicSet}
    {topic other : Topic} :
    other ∈ set.insert topic ↔ other = topic ∨ other ∈ set :=
  mem_insertItem

@[simp] theorem mem_erase
    {set : TopicSet}
    {topic other : Topic} :
    other ∈ set.erase topic ↔ other ∈ set ∧ other ≠ topic := by
  change other ∈ set.items.filter _ ↔ _
  simp

end TopicSet

/-! ## The string table of the source -/

/-- `StringIndexer::StringCounter`; `used` is an 8-bit counter. -/
structure StringCounter where
  str : List Byte
  used : Nat
  deriving Repr, DecidableEq

/-- `StringIndexer::strings`, a map from 8-bit indices. -/
structure StringIndexer where
  strings : Nat → Option StringCounter

namespace StringIndexer

/-- The table before the first topic. -/
def empty : StringIndexer where
  strings := fun _ => none

/--
`strncmp(stored.c_str(), str, len) == 0`, for the `len` bytes at `str`.  Both
strings end at their first NUL.
-/
def strncmpEqual : List Byte → List Byte → Bool
  | _, [] => true
  | stored, byte :: rest =>
      if stored.headD 0 ≠ byte then
        false
      else if byte = 0 then
        true
      else
        strncmpEqual stored.tail rest

/-- The first entry that the comparison of `strToIndex` accepts. -/
def lookup?
    (indexer : StringIndexer)
    (name : List Byte) : Option Nat :=
  (List.range 256).find? fun index =>
    match indexer.strings index with
    | some counter => strncmpEqual counter.str name
    | none => false

/-- The lowest index from 1 on that has no entry. -/
def free? (indexer : StringIndexer) : Option Nat :=
  (List.range' 1 255).find? fun index =>
    (indexer.strings index).isNone

/-- Replace the entry of one index. -/
def set
    (indexer : StringIndexer)
    (index : Nat)
    (entry : Option StringCounter) : StringIndexer where
  strings := Function.update indexer.strings index entry

/-- `StringIndexer::use`. -/
def use
    (indexer : StringIndexer)
    (topic : Topic) : StringIndexer :=
  match indexer.strings topic.index with
  | some counter =>
      indexer.set topic.index
        (some { counter with used := (counter.used + 1) % 256 })
  | none => indexer

/--
`StringIndexer::strToIndex` for the characters of a name, whose number `len`
has 8 bits; index 0 stands for a full table.
-/
def strToIndex
    (indexer : StringIndexer)
    (name : List Byte) : Topic × StringIndexer :=
  let str := Topic.cut name
  match indexer.lookup? str with
  | some index => (⟨index⟩, indexer.use ⟨index⟩)
  | none =>
      match indexer.free? with
      | some index => (⟨index⟩, indexer.set index (some ⟨str, 1⟩))
      | none => (⟨0⟩, indexer)

/-- `StringIndexer::str`; a missing entry reads as the empty string. -/
def str
    (indexer : StringIndexer)
    (topic : Topic) : List Byte :=
  match indexer.strings topic.index with
  | some counter => counter.str
  | none => []

/-- `StringIndexer::release`. -/
def release
    (indexer : StringIndexer)
    (topic : Topic) : StringIndexer :=
  match indexer.strings topic.index with
  | some counter =>
      let used := (counter.used + 255) % 256
      if used = 0 then
        indexer.set topic.index none
      else
        indexer.set topic.index (some { counter with used := used })
  | none => indexer

/-- `StringIndexer::count`. -/
def count (indexer : StringIndexer) : Nat :=
  (List.range 256).countP fun index => (indexer.strings index).isSome

section Operations

variable {indexer : StringIndexer}
variable {name : List Byte}
variable {index : Nat}
variable {topic : Topic}
variable {counter : StringCounter}

/-- A name that a string begins with takes the index of this string. -/
theorem strToIndex_of_lookup?
    (looked : indexer.lookup? (Topic.cut name) = some index) :
    indexer.strToIndex name = (⟨index⟩, indexer.use ⟨index⟩) := by
  simp only [strToIndex, looked]

/-- Any other name takes the lowest free index. -/
theorem strToIndex_of_free?
    (looked : indexer.lookup? (Topic.cut name) = none)
    (free : indexer.free? = some index) :
    indexer.strToIndex name =
      (⟨index⟩, indexer.set index (some ⟨Topic.cut name, 1⟩)) := by
  simp only [strToIndex, looked, free]

/-- Without free index it takes the one that never has an entry. -/
theorem strToIndex_of_full
    (looked : indexer.lookup? (Topic.cut name) = none)
    (full : indexer.free? = none) :
    indexer.strToIndex name = (⟨0⟩, indexer) := by
  simp only [strToIndex, looked, full]

/-- An entry is used once more. -/
theorem use_of_entry
    (found : indexer.strings topic.index = some counter) :
    indexer.use topic =
      indexer.set topic.index
        (some { counter with used := (counter.used + 1) % 256 }) := by
  unfold use
  rw [found]

/-- A topic without entry is not used. -/
theorem use_of_none
    (missing : indexer.strings topic.index = none) :
    indexer.use topic = indexer := by
  unfold use
  rw [missing]

/-- An entry is released, and erased if this was the last use. -/
theorem release_of_entry
    (found : indexer.strings topic.index = some counter) :
    indexer.release topic =
      indexer.set topic.index
        (if (counter.used + 255) % 256 = 0 then
          none
        else
          some { counter with used := (counter.used + 255) % 256 }) := by
  unfold release
  rw [found]
  dsimp only
  split <;> rfl

/-- Using a topic changes no string. -/
theorem str_of_use
    (indexer : StringIndexer)
    (topic other : Topic) :
    (indexer.use topic).str other = indexer.str other := by
  cases found : indexer.strings topic.index with
  | none => rw [use_of_none found]
  | some counter =>
      rw [use_of_entry found]
      by_cases same : other.index = topic.index
      · simp [str, set, same, found]
      · simp [str, set, same]

/-- Releasing a topic undoes its use, while the counter does not wrap. -/
theorem release_use
    (live :
      ∀ counter, indexer.strings topic.index = some counter →
        0 < counter.used ∧ counter.used < 256) :
    (indexer.use topic).release topic = indexer := by
  cases found : indexer.strings topic.index with
  | none =>
      rw [use_of_none found]
      unfold release
      rw [found]
  | some counter =>
      obtain ⟨positive, small⟩ := live counter found
      have restored :
          ((counter.used + 1) % 256 + 255) % 256 = counter.used := by
        omega
      have notZero : counter.used ≠ 0 := by omega
      rw [use_of_entry found]
      simp [release, set, restored, notZero, ← found]

end Operations

instance : Indexer StringIndexer where
  strToIndex := strToIndex
  str := str
  use := use
  release := release

end StringIndexer

end SimpleTlsBroker
