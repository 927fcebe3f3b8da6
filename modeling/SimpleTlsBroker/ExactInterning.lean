import Mathlib.Order.Interval.Finset.Nat
import SimpleTlsBroker.TopicRoundTrip

namespace SimpleTlsBroker

/-!
# Exact interning

What the broker relies on when it takes topics for names, as laws of a string
table.  A table is exact for given numbers of holders while it has room for
some more; interning gives a name a topic of its own, and held topics keep
their names.  The table of the source obeys the laws for names of which none
is the beginning of another, as long as no counter and no index runs out.
-/

/-- One more holder of a topic. -/
def more (held : Topic → Nat) (topic : Topic) : Topic → Nat :=
  Function.update held topic (held topic + 1)

/-- One holder less. -/
def fewer (held : Topic → Nat) (topic : Topic) : Topic → Nat :=
  Function.update held topic (held topic - 1)

/-- What is held stays held. -/
theorem more_pos
    {held : Topic → Nat}
    {other : Topic}
    (isHeld : 0 < held other)
    (topic : Topic) :
    0 < more held topic other := by
  by_cases same : other = topic
  · subst same
    simp [more]
  · simpa [more, same] using isHeld

/-- What was taken is held. -/
theorem more_self_pos
    (held : Topic → Nat)
    (topic : Topic) :
    0 < more held topic topic := by
  simp [more]

/-- Taking and giving back changes nothing. -/
theorem fewer_more
    (held : Topic → Nat)
    (topic : Topic) :
    fewer (more held topic) topic = held := by
  simp [fewer, more]

/-- Held topics keep their names. -/
def KeepsNames
    [Indexer Index]
    (held : Topic → Nat)
    (before after : Index) : Prop :=
  ∀ topic, 0 < held topic → Indexer.str after topic = Indexer.str before topic

/-- The laws of a table that interns some names exactly. -/
structure ExactInterning (Index : Type) [Indexer Index] where
  Allowed : List Byte → Prop
  Exact : Index → (Topic → Nat) → Nat → Prop
  strToIndex :
    ∀ {indexer held room name},
      Exact indexer held (room + 1) → Allowed name →
        Exact (Indexer.strToIndex indexer name).2
            (more held (Indexer.strToIndex indexer name).1) room ∧
          Indexer.str (Indexer.strToIndex indexer name).2
              (Indexer.strToIndex indexer name).1 = name ∧
            KeepsNames held indexer (Indexer.strToIndex indexer name).2
  use :
    ∀ {indexer held room topic},
      Exact indexer held (room + 1) → 0 < held topic →
        Exact (Indexer.use indexer topic) (more held topic) room ∧
          KeepsNames held indexer (Indexer.use indexer topic)
  release :
    ∀ {indexer held room topic},
      Exact indexer held room → 0 < held topic →
        Exact (Indexer.release indexer topic) (fewer held topic) room ∧
          KeepsNames (fewer held topic) indexer
            (Indexer.release indexer topic)
  less :
    ∀ {indexer held room},
      Exact indexer held (room + 1) → Exact indexer held room
  sameRoom :
    ∀ {before after held room fewerRoom},
      Exact before held room → Exact after held fewerRoom →
        Exact after held room
  distinct :
    ∀ {indexer held room first second},
      Exact indexer held room → 0 < held first → 0 < held second →
        Indexer.str indexer first = Indexer.str indexer second →
          first = second

/-! ## The table of the source -/

namespace StringIndexer

variable {Allowed : List Byte → Prop}
variable {indexer after : StringIndexer}
variable {held : Topic → Nat}
variable {room : Nat}
variable {topic : Topic}
variable {name : List Byte}

/--
The counters are the numbers of holders, with room for more; the entries have
different allowed names, and enough indices are free.
-/
structure Tally
    (Allowed : List Byte → Prop)
    (indexer : StringIndexer)
    (held : Topic → Nat)
    (room : Nat) : Prop where
  counted :
    ∀ topic counter, indexer.entry topic = some counter →
      held topic = counter.used ∧ 0 < counter.used ∧
        counter.used + room ≤ 255 ∧ Allowed counter.str ∧ topic.index < 256
  unheld : ∀ topic, indexer.entry topic = none → held topic = 0
  distinct :
    ∀ first second counter counter',
      indexer.entry first = some counter →
        indexer.entry second = some counter' →
          counter.str = counter'.str → first = second
  vacant :
    ∃ free : Finset Nat, room ≤ free.card ∧
      ∀ index ∈ free, (1 ≤ index ∧ index < 256) ∧
        indexer.strings index = none

namespace Tally

/-- A held topic has an entry. -/
theorem entry_of_held
    (tally : Tally Allowed indexer held room)
    (isHeld : 0 < held topic) :
    ∃ counter, indexer.entry topic = some counter := by
  cases found : indexer.entry topic with
  | none =>
      have unheld := tally.unheld topic found
      omega
  | some counter => exact ⟨counter, rfl⟩

/-- Setting an entry anew keeps the names of the others. -/
theorem keepsNames_set
    {entry : Option StringCounter}
    (sameName :
      0 < held topic →
        (indexer.set topic.index entry).str topic = indexer.str topic) :
    KeepsNames held indexer (indexer.set topic.index entry) := by
  intro other isHeld
  by_cases same : other = topic
  · subst same
    exact sameName isHeld
  · have kept := entry_set_other indexer entry same
    unfold StringIndexer.entry at kept
    change (indexer.set topic.index entry).str other = indexer.str other
    unfold StringIndexer.str
    rw [kept]

/-- An index stays free unless it is the one that gets an entry. -/
theorem strings_set
    {entry : Option StringCounter}
    {index : Nat}
    (missing : indexer.strings index = none)
    (other : (⟨index⟩ : Topic) = topic → entry = none) :
    (indexer.set topic.index entry).strings index = none := by
  by_cases same : (⟨index⟩ : Topic) = topic
  · rw [other same, ← same]
    exact entry_set indexer ⟨index⟩ none
  · exact (entry_set_other indexer entry same).trans missing

/-- One entry is set, and the others are as they were. -/
theorem set
    {entry : Option StringCounter}
    {count room' : Nat}
    (tally : Tally Allowed indexer held room)
    (less : room' ≤ room)
    (counted :
      ∀ counter, entry = some counter →
        count = counter.used ∧ 0 < counter.used ∧
          counter.used + room' ≤ 255 ∧ Allowed counter.str ∧
            topic.index < 256)
    (unheld : entry = none → count = 0)
    (distinct :
      ∀ counter, entry = some counter →
        ∀ other counter', other ≠ topic →
          indexer.entry other = some counter' → counter'.str ≠ counter.str)
    (vacant :
      ∃ free : Finset Nat, room' ≤ free.card ∧
        ∀ index ∈ free, (1 ≤ index ∧ index < 256) ∧
          (indexer.set topic.index entry).strings index = none) :
    Tally Allowed (indexer.set topic.index entry)
      (Function.update held topic count) room' where
  counted := by
    intro other counter found
    by_cases same : other = topic
    · subst same
      rw [entry_set] at found
      rw [Function.update_self]
      exact counted counter found
    · rw [entry_set_other indexer _ same] at found
      obtain ⟨isHeld, used, fits, rest⟩ := tally.counted other counter found
      rw [Function.update_of_ne same]
      exact ⟨isHeld, used, by omega, rest⟩
  unheld := by
    intro other missing
    by_cases same : other = topic
    · subst same
      rw [entry_set] at missing
      rw [Function.update_self]
      exact unheld missing
    · rw [entry_set_other indexer _ same] at missing
      rw [Function.update_of_ne same]
      exact tally.unheld other missing
  distinct := by
    intro first second counter counter' isFirst isSecond sameName
    by_cases firstSet : first = topic
    · by_cases secondSet : second = topic
      · rw [firstSet, secondSet]
      · subst firstSet
        rw [entry_set] at isFirst
        rw [entry_set_other indexer _ secondSet] at isSecond
        exact absurd sameName.symm
          (distinct counter isFirst second counter' secondSet isSecond)
    · rw [entry_set_other indexer _ firstSet] at isFirst
      by_cases secondSet : second = topic
      · subst secondSet
        rw [entry_set] at isSecond
        exact absurd sameName
          (distinct counter' isSecond first counter firstSet isFirst)
      · rw [entry_set_other indexer _ secondSet] at isSecond
        exact tally.distinct first second counter counter' isFirst isSecond
          sameName
  vacant := vacant

/-- An entry with another counter. -/
theorem recount
    {counter : StringCounter}
    {used room' : Nat}
    (tally : Tally Allowed indexer held room)
    (found : indexer.entry topic = some counter)
    (positive : 0 < used)
    (fits : used + room' ≤ 255)
    (less : room' ≤ room) :
    Tally Allowed
      (indexer.set topic.index (some { counter with used := used }))
      (Function.update held topic used) room' := by
  obtain ⟨_, _, _, allowed, inTable⟩ := tally.counted topic counter found
  apply tally.set less
  · intro _ isSet
    obtain rfl := Option.some.inj isSet
    exact ⟨rfl, positive, fits, allowed, inTable⟩
  · intro missing
    contradiction
  · intro _ isSet other counter' isOther isEntry sameName
    obtain rfl := Option.some.inj isSet
    exact isOther
      (tally.distinct other topic counter' counter isEntry found sameName)
  · obtain ⟨free, enough, isFree⟩ := tally.vacant
    refine ⟨free, Nat.le_trans less enough, ?_⟩
    intro index member
    obtain ⟨inTable, missing⟩ := isFree index member
    refine ⟨inTable, strings_set missing ?_⟩
    rintro rfl
    unfold StringIndexer.entry at found
    rw [missing] at found
    contradiction

/-- Taking an index that has an entry. -/
theorem use
    (tally : Tally Allowed indexer held (room + 1))
    (isHeld : 0 < held topic) :
    Tally Allowed (indexer.use topic) (more held topic) room ∧
      KeepsNames held indexer (indexer.use topic) := by
  obtain ⟨counter, found⟩ := tally.entry_of_held isHeld
  obtain ⟨isUsed, _, fits, _⟩ := tally.counted topic counter found
  have small : (counter.used + 1) % 256 = counter.used + 1 := by omega
  rw [use_of_entry found, small]
  constructor
  · rw [more, isUsed]
    exact tally.recount found (Nat.succ_pos _) (by omega) (Nat.le_succ room)
  · apply keepsNames_set
    intro _
    rw [str_of_entry found, str_of_entry (entry_set indexer topic _)]

/-- Giving an index back. -/
theorem release
    (tally : Tally Allowed indexer held room)
    (isHeld : 0 < held topic) :
    Tally Allowed (indexer.release topic) (fewer held topic) room ∧
      KeepsNames (fewer held topic) indexer (indexer.release topic) := by
  obtain ⟨counter, found⟩ := tally.entry_of_held isHeld
  obtain ⟨isUsed, positive, fits, _⟩ := tally.counted topic counter found
  have remains : (counter.used + 255) % 256 = counter.used - 1 := by omega
  rw [release_of_entry found, remains, fewer, isUsed]
  by_cases last : counter.used - 1 = 0
  · rw [if_pos last, last]
    constructor
    · apply tally.set (Nat.le_refl room)
      · intro _ isSet
        contradiction
      · exact fun _ => rfl
      · intro _ isSet
        contradiction
      · obtain ⟨free, enough, isFree⟩ := tally.vacant
        refine ⟨free, enough, ?_⟩
        intro index member
        obtain ⟨inTable, missing⟩ := isFree index member
        exact ⟨inTable, strings_set missing fun _ => rfl⟩
    · apply keepsNames_set
      intro isHeld
      rw [Function.update_self] at isHeld
      omega
  · rw [if_neg last]
    constructor
    · exact tally.recount found (Nat.pos_of_ne_zero last) (by omega)
        (Nat.le_refl room)
    · apply keepsNames_set
      intro _
      rw [str_of_entry found, str_of_entry (entry_set indexer topic _)]

/-- Room need not be used. -/
theorem less
    (tally : Tally Allowed indexer held (room + 1)) :
    Tally Allowed indexer held room where
  counted := by
    intro topic counter found
    obtain ⟨isHeld, used, fits, rest⟩ := tally.counted topic counter found
    exact ⟨isHeld, used, by omega, rest⟩
  unheld := tally.unheld
  distinct := tally.distinct
  vacant := by
    obtain ⟨free, enough, isFree⟩ := tally.vacant
    exact ⟨free, by omega, isFree⟩

/-- There are 255 indices. -/
theorem room_le
    (tally : Tally Allowed indexer held room) :
    room ≤ 255 := by
  obtain ⟨free, enough, isFree⟩ := tally.vacant
  have inTable : free ⊆ Finset.Icc 1 255 := by
    intro index member
    have bounds := (isFree index member).1
    rw [Finset.mem_Icc]
    omega
  have atMost := Finset.card_le_card inTable
  rw [Nat.card_Icc] at atMost
  omega

/-- A name that no entry has gets the lowest free index. -/
theorem take
    (tally : Tally Allowed indexer held (room + 1))
    (allowed : Allowed name)
    (isNew :
      ∀ other counter, indexer.entry other = some counter →
        counter.str ≠ name)
    (found : indexer.free? = some topic.index) :
    Tally Allowed (indexer.set topic.index (some ⟨name, 1⟩))
        (more held topic) room ∧
      KeepsNames held indexer
        (indexer.set topic.index (some ⟨name, 1⟩)) := by
  obtain ⟨isIndex, free⟩ := entry_of_free? found
  have unheld := tally.unheld topic free
  obtain ⟨free', enough, isFree⟩ := tally.vacant
  have roomLeft := tally.room_le
  rw [more, unheld]
  constructor
  · apply tally.set (Nat.le_succ room)
    · intro _ isSet
      obtain rfl := Option.some.inj isSet
      exact ⟨rfl, Nat.one_pos, by dsimp only; omega, allowed, isIndex.2⟩
    · intro missing
      contradiction
    · intro _ isSet other counter' _ isEntry
      obtain rfl := Option.some.inj isSet
      exact isNew other counter' isEntry
    · refine ⟨free'.erase topic.index, ?_, ?_⟩
      · have erased : free'.card - 1 ≤ (free'.erase topic.index).card :=
          Finset.pred_card_le_card_erase
        omega
      · intro index member
        obtain ⟨other, member⟩ := Finset.mem_erase.mp member
        obtain ⟨inTable, missing⟩ := isFree index member
        refine ⟨inTable, strings_set missing ?_⟩
        rintro rfl
        exact absurd rfl other
  · apply keepsNames_set
    intro isHeld
    omega

/-- How much room there is depends on the holders only. -/
theorem sameRoom
    {fewerRoom : Nat}
    (tally : Tally Allowed indexer held room)
    (tally' : Tally Allowed after held fewerRoom) :
    Tally Allowed after held room where
  counted topic counter found := by
    obtain ⟨used, positive, _, isAllowed, inTable⟩ :=
      tally'.counted topic counter found
    obtain ⟨counter', found'⟩ := tally.entry_of_held (used ▸ positive)
    obtain ⟨used', _, fits, _⟩ := tally.counted topic counter' found'
    exact ⟨used, positive, by omega, isAllowed, inTable⟩
  unheld := tally'.unheld
  distinct := tally'.distinct
  vacant := by
    obtain ⟨free, enough, isFree⟩ := tally.vacant
    refine ⟨free, enough, fun index member => ?_⟩
    obtain ⟨inTable, missing⟩ := isFree index member
    refine ⟨inTable, ?_⟩
    by_contra taken
    obtain ⟨counter, found⟩ := Option.ne_none_iff_exists'.mp taken
    have isHeld := (tally'.counted ⟨index⟩ counter found).1
    have positive := (tally'.counted ⟨index⟩ counter found).2.1
    have unheld := tally.unheld ⟨index⟩ missing
    omega

/-- With a free index there is one to be found. -/
theorem free?_isSome
    (tally : Tally Allowed indexer held (room + 1)) :
    ∃ index, indexer.free? = some index := by
  obtain ⟨free, enough, isFree⟩ := tally.vacant
  obtain ⟨index, member⟩ := Finset.card_pos.mp (by omega : 0 < free.card)
  obtain ⟨inTable, missing⟩ := isFree index member
  apply Option.isSome_iff_exists.mp
  unfold free?
  rw [List.find?_isSome]
  refine ⟨index, ?_, by simp [missing]⟩
  rw [List.mem_range'_1]
  omega

/-- Interning an allowed name. -/
theorem strToIndex
    (beginsIs : ∀ name other, Allowed name → Allowed other →
      name <+: other → other = name)
    (noNul : ∀ name, Allowed name → 0 ∉ name)
    (short : ∀ name, Allowed name → name.length ≤ 255)
    (tally : Tally Allowed indexer held (room + 1))
    (allowed : Allowed name) :
    Tally Allowed (indexer.strToIndex name).2
        (more held (indexer.strToIndex name).1) room ∧
      (indexer.strToIndex name).2.str (indexer.strToIndex name).1 = name ∧
        KeepsNames held indexer (indexer.strToIndex name).2 := by
  have whole := Topic.cut_eq_self (short name allowed)
  cases looked : indexer.lookup? name with
  | some index =>
      have result := strToIndex_of_lookup? (whole.symm ▸ looked)
      obtain ⟨_, ⟨counter, found, begins⟩, _⟩ :=
        (lookup?_eq_some_iff (noNul name allowed)).mp looked
      obtain ⟨isHeld, used, _, isAllowed, _⟩ :=
        tally.counted ⟨index⟩ counter found
      have isName := beginsIs name counter.str allowed isAllowed begins
      have positive : 0 < held ⟨index⟩ := by omega
      obtain ⟨tally', names⟩ := tally.use positive
      rw [result]
      exact ⟨tally', (str_use found).trans isName, names⟩
  | none =>
      obtain ⟨index, found⟩ := tally.free?_isSome
      have result := strToIndex_of_free? (whole.symm ▸ looked) found
      rw [whole] at result
      have isNew :
          ∀ other counter, indexer.entry other = some counter →
            counter.str ≠ name := by
        intro other counter isEntry isName
        obtain ⟨_, _, _, _, inTable⟩ := tally.counted other counter isEntry
        have none : indexer.lookup? name = none := looked
        unfold lookup? at none
        rw [List.find?_eq_none] at none
        refine none other.index (List.mem_range.mpr inTable) ?_
        apply (accepts_iff (noNul name allowed) other.index).mpr
        exact ⟨counter, isEntry, isName ▸ List.prefix_refl counter.str⟩
      have isFree : indexer.free? = some (⟨index⟩ : Topic).index := found
      have taken := tally.take allowed isNew isFree
      rw [result]
      exact ⟨taken.1, str_of_entry (entry_set indexer ⟨index⟩ _), taken.2⟩

end Tally

/--
The table of the source interns exactly, among names of up to 255 characters
without NUL of which none is the beginning of another.
-/
def exactInterning
    (Allowed : List Byte → Prop)
    (beginsIs : ∀ name other, Allowed name → Allowed other →
      name <+: other → other = name)
    (noNul : ∀ name, Allowed name → 0 ∉ name)
    (short : ∀ name, Allowed name → name.length ≤ 255) :
    ExactInterning StringIndexer where
  Allowed := Allowed
  Exact := Tally Allowed
  strToIndex := Tally.strToIndex beginsIs noNul short
  use := Tally.use
  release := Tally.release
  less := Tally.less
  sameRoom := Tally.sameRoom
  distinct := by
    intro indexer held room first second tally firstHeld secondHeld same
    obtain ⟨counter, isFirst⟩ := tally.entry_of_held firstHeld
    obtain ⟨counter', isSecond⟩ := tally.entry_of_held secondHeld
    change indexer.str first = indexer.str second at same
    rw [str_of_entry isFirst, str_of_entry isSecond] at same
    exact tally.distinct first second counter counter' isFirst isSecond same

/-- The empty table has room for 255 names. -/
theorem tally_empty
    (Allowed : List Byte → Prop)
    (fits : room ≤ 255) :
    Tally Allowed empty (fun _ => 0) room where
  counted := by
    intro topic counter found
    cases found
  unheld := fun _ _ => rfl
  distinct := by
    intro first second counter counter' found
    cases found
  vacant := by
    refine ⟨Finset.Icc 1 255, ?_, ?_⟩
    · rw [Nat.card_Icc]
      exact fits
    · intro index member
      rw [Finset.mem_Icc] at member
      exact ⟨by omega, rfl⟩

end StringIndexer

end SimpleTlsBroker
