import Mathlib.Data.Finset.Card
import SimpleTlsBroker.Bookkeeping
import SimpleTlsBroker.FanOut

namespace SimpleTlsBroker

/-!
# Names that are told apart

A vocabulary is a set of names that the table of the source can tell apart: none
is the beginning of another, and there are not more of them than indices.  While
only such names are interned, every entry has a name of its own, every name
finds its entry, and the table is never full.
-/

/-- Names that one table can hold together. -/
structure Vocabulary where
  names : Finset (List Byte)
  noNul : ∀ name ∈ names, 0 ∉ name
  beginsIs :
    ∀ name ∈ names, ∀ other ∈ names, name <+: other → other = name
  short : ∀ name ∈ names, name.length ≤ 255
  enough : names.card ≤ 255

/-- The entries have different names of a vocabulary. -/
structure Catalog
    (vocabulary : Vocabulary)
    (indexer : StringIndexer) : Prop where
  named :
    ∀ topic counter, indexer.entry topic = some counter →
      counter.str ∈ vocabulary.names ∧ topic.index < 256
  distinct :
    ∀ first second counter counter',
      indexer.entry first = some counter →
        indexer.entry second = some counter' →
          counter.str = counter'.str → first = second

namespace Catalog

variable {vocabulary : Vocabulary}
variable {indexer after : StringIndexer}
variable {topic : Topic}
variable {name : List Byte}
variable {counter : StringCounter}
variable {held : Topic → Nat}

/-- The empty table. -/
theorem start : Catalog vocabulary .empty where
  named := by
    intro topic counter found
    cases found
  distinct := by
    intro first second counter counter' found
    cases found

/-- Entries that stay under their names. -/
theorem of_kept
    (catalog : Catalog vocabulary indexer)
    (kept :
      ∀ topic counter, after.entry topic = some counter →
        ∃ counter', indexer.entry topic = some counter' ∧
          counter'.str = counter.str) :
    Catalog vocabulary after where
  named topic counter found := by
    obtain ⟨counter', found', sameStr⟩ := kept topic counter found
    rw [← sameStr]
    exact catalog.named topic counter' found'
  distinct first second counter counter' found found' same := by
    obtain ⟨earlier, isEarlier, sameStr⟩ := kept first counter found
    obtain ⟨earlier', isEarlier', sameStr'⟩ := kept second counter' found'
    exact catalog.distinct first second earlier earlier' isEarlier isEarlier'
      (by rw [sameStr, sameStr', same])

/-- Copying a topic. -/
theorem use
    (catalog : Catalog vocabulary indexer)
    (topic : Topic) :
    Catalog vocabulary (indexer.use topic) := by
  apply catalog.of_kept
  intro other counter found
  cases stored : indexer.entry topic with
  | none =>
      rw [StringIndexer.use_of_none stored] at found
      exact ⟨counter, found, rfl⟩
  | some earlier =>
      rw [StringIndexer.use_of_entry stored] at found
      by_cases same : other = topic
      · subst same
        rw [StringIndexer.entry_set] at found
        obtain rfl := Option.some.inj found
        exact ⟨earlier, stored, rfl⟩
      · rw [StringIndexer.entry_set_other indexer _ same] at found
        exact ⟨counter, found, rfl⟩

/-- Destroying a topic. -/
theorem release
    (catalog : Catalog vocabulary indexer)
    (topic : Topic) :
    Catalog vocabulary (indexer.release topic) := by
  apply catalog.of_kept
  intro other counter found
  by_cases same : other = topic
  · subst same
    cases stored : indexer.entry other with
    | none =>
        rw [StringIndexer.release_of_none stored, stored] at found
        contradiction
    | some earlier =>
        exact ⟨earlier, rfl, (StringIndexer.str_release stored found).symm⟩
  · rw [StringIndexer.entry_release_other indexer same] at found
    exact ⟨counter, found, rfl⟩

/-- The search finds the entry with a name. -/
theorem lookup?_of_entry
    (catalog : Catalog vocabulary indexer)
    (found : indexer.entry topic = some counter) :
    indexer.lookup? counter.str = some topic.index := by
  obtain ⟨known, inTable⟩ := catalog.named topic counter found
  have noNul := vocabulary.noNul counter.str known
  refine (StringIndexer.lookup?_eq_some_iff noNul).mpr
    ⟨inTable, ⟨counter, found, List.prefix_refl _⟩, ?_⟩
  rintro earlier before ⟨counter', found', begins⟩
  obtain ⟨known', _⟩ := catalog.named ⟨earlier⟩ counter' found'
  have sameName :=
    vocabulary.beginsIs counter.str known counter'.str known' begins
  have same :=
    catalog.distinct ⟨earlier⟩ topic counter' counter found' found sameName
  rw [← same] at before
  exact Nat.lt_irrefl earlier before

/-- What the search finds is the entry with this name. -/
theorem entry_of_lookup?
    {index : Nat}
    (catalog : Catalog vocabulary indexer)
    (known : name ∈ vocabulary.names)
    (looked : indexer.lookup? name = some index) :
    ∃ counter, indexer.entry ⟨index⟩ = some counter ∧ counter.str = name := by
  obtain ⟨_, ⟨counter, found, begins⟩, _⟩ :=
    (StringIndexer.lookup?_eq_some_iff (vocabulary.noNul name known)).mp looked
  obtain ⟨known', _⟩ := catalog.named ⟨index⟩ counter found
  exact ⟨counter, found, vocabulary.beginsIs name known _ known' begins⟩

/-- An entry has a name that is interned whole. -/
theorem short
    (catalog : Catalog vocabulary indexer)
    (found : indexer.entry topic = some counter) :
    counter.str.length ≤ 255 :=
  vocabulary.short counter.str (catalog.named topic counter found).1

/-- A name that the search does not find has no entry. -/
theorem ne_of_lookup?
    (catalog : Catalog vocabulary indexer)
    (looked : indexer.lookup? name = none)
    (found : indexer.entry topic = some counter) :
    counter.str ≠ name := by
  rintro rfl
  rw [catalog.lookup?_of_entry found] at looked
  contradiction

/-- With a name left over there is an index left over. -/
theorem exists_free
    (catalog : Catalog vocabulary indexer)
    (known : name ∈ vocabulary.names)
    (looked : indexer.lookup? name = none) :
    ∃ index, indexer.free? = some index := by
  by_contra none
  have taken : ∀ index ∈ Finset.Icc 1 255, ∃ counter,
      indexer.entry ⟨index⟩ = some counter := by
    intro index inTable
    rw [Finset.mem_Icc] at inTable
    by_contra missing
    apply none
    apply Option.isSome_iff_exists.mp
    unfold StringIndexer.free?
    rw [List.find?_isSome]
    refine ⟨index, by rw [List.mem_range'_1]; omega, ?_⟩
    rw [Option.isNone_iff_eq_none]
    exact Option.eq_none_iff_forall_not_mem.mpr
      fun counter found => missing ⟨counter, found⟩
  have different :
      Set.InjOn (fun index => indexer.str ⟨index⟩) (Finset.Icc 1 255) := by
    intro first isFirst second isSecond sameStr
    obtain ⟨counter, found⟩ := taken first isFirst
    obtain ⟨counter', found'⟩ := taken second isSecond
    dsimp only at sameStr
    rw [StringIndexer.str_of_entry found,
      StringIndexer.str_of_entry found'] at sameStr
    exact congrArg Topic.index
      (catalog.distinct ⟨first⟩ ⟨second⟩ counter counter' found found' sameStr)
  have others :
      ∀ index ∈ Finset.Icc 1 255,
        indexer.str ⟨index⟩ ∈ vocabulary.names.erase name := by
    intro index inTable
    obtain ⟨counter, found⟩ := taken index inTable
    rw [StringIndexer.str_of_entry found, Finset.mem_erase]
    exact ⟨catalog.ne_of_lookup? looked found,
      (catalog.named ⟨index⟩ counter found).1⟩
  have counted :=
    Finset.card_le_card_of_injOn (fun index => indexer.str ⟨index⟩) others
      different
  have enough := vocabulary.enough
  rw [Nat.card_Icc, Finset.card_erase_of_mem known] at counted
  omega

/-- A name that is interned gets the entry with this name. -/
theorem strToIndex
    (catalog : Catalog vocabulary indexer)
    (known : name ∈ vocabulary.names) :
    Catalog vocabulary (indexer.strToIndex name).2 ∧
      ∃ counter,
        (indexer.strToIndex name).2.entry (indexer.strToIndex name).1 =
            some counter ∧
          counter.str = name := by
  have whole := Topic.cut_eq_self (vocabulary.short name known)
  cases looked : indexer.lookup? name with
  | some index =>
      obtain ⟨counter, found, isName⟩ :=
        catalog.entry_of_lookup? known looked
      rw [StringIndexer.strToIndex_of_lookup? (by rwa [whole])]
      refine ⟨catalog.use ⟨index⟩, ?_⟩
      rw [StringIndexer.use_of_entry found]
      exact ⟨_, StringIndexer.entry_set indexer ⟨index⟩ _, isName⟩
  | none =>
      obtain ⟨index, found⟩ := catalog.exists_free known looked
      have isIndex := (StringIndexer.entry_of_free? found).1.2
      have isNew := StringIndexer.entry_set indexer ⟨index⟩ (some ⟨name, 1⟩)
      rw [StringIndexer.strToIndex_of_free? (by rwa [whole]) found, whole]
      refine ⟨⟨?_, ?_⟩, _, isNew, rfl⟩
      · intro other counter stored
        by_cases same : other = ⟨index⟩
        · subst same
          rw [isNew] at stored
          obtain rfl := Option.some.inj stored
          exact ⟨known, isIndex⟩
        · rw [StringIndexer.entry_set_other indexer _ same] at stored
          exact catalog.named other counter stored
      · intro first second counter counter' stored stored' sameStr
        by_cases isFirst : first = ⟨index⟩
        · by_cases isSecond : second = ⟨index⟩
          · rw [isFirst, isSecond]
          · rw [StringIndexer.entry_set_other indexer _ isSecond] at stored'
            subst isFirst
            rw [isNew] at stored
            obtain rfl := Option.some.inj stored
            exact absurd sameStr.symm (catalog.ne_of_lookup? looked stored')
        · rw [StringIndexer.entry_set_other indexer _ isFirst] at stored
          by_cases isSecond : second = ⟨index⟩
          · subst isSecond
            rw [isNew] at stored'
            obtain rfl := Option.some.inj stored'
            exact absurd sameStr (catalog.ne_of_lookup? looked stored)
          · rw [StringIndexer.entry_set_other indexer _ isSecond] at stored'
            exact catalog.distinct first second counter counter' stored
              stored' sameStr

/-- A held topic has an entry, with its name. -/
theorem entry_of_held
    (catalog : Catalog vocabulary indexer)
    (balanced : indexer.Balanced held)
    (isIndex : topic.index ≠ 0)
    (isHeld : 0 < held topic) :
    ∃ counter, indexer.entry topic = some counter ∧
      counter.str = indexer.str topic ∧ indexer.str topic ∈ vocabulary.names := by
  obtain ⟨counter, found⟩ := balanced.entered topic isIndex isHeld
  have isName := StringIndexer.str_of_entry found
  rw [isName]
  exact ⟨counter, found, rfl, (catalog.named topic counter found).1⟩

/-- The topic of an entry is interned exactly. -/
theorem exactAt
    (catalog : Catalog vocabulary indexer)
    (balanced : indexer.Balanced held)
    (room : held topic ≤ 255)
    (found : indexer.entry topic = some counter) :
    Indexer.ExactAt indexer counter.str topic := by
  obtain ⟨used, isHeld⟩ := balanced.counted topic counter found
  apply StringIndexer.exactAt ?_ found (by omega)
  rw [Topic.cut_eq_self (catalog.short found)]
  exact catalog.lookup?_of_entry found

/-- Interning a name and giving it back at once changes nothing. -/
theorem release_strToIndex
    (catalog : Catalog vocabulary indexer)
    (balanced : indexer.Balanced held)
    (room : ∀ topic, held topic ≤ 255)
    (known : name ∈ vocabulary.names) :
    (indexer.strToIndex name).2.release (indexer.strToIndex name).1 =
      indexer := by
  cases looked : indexer.lookup? name with
  | some index =>
      obtain ⟨counter, found, rfl⟩ := catalog.entry_of_lookup? known looked
      have exact := catalog.exactAt balanced (room ⟨index⟩) found
      rw [show (indexer.strToIndex counter.str).1 = ⟨index⟩ from
        exact.interned]
      exact exact.released
  | none =>
      obtain ⟨index, found⟩ := catalog.exists_free known looked
      have free := (StringIndexer.entry_of_free? found).2
      have whole := Topic.cut_eq_self (vocabulary.short name known)
      rw [StringIndexer.strToIndex_of_free? (by rwa [whole]) found,
        StringIndexer.release_of_entry
          (StringIndexer.entry_set indexer ⟨index⟩ _),
        if_pos (by decide : (1 + 255) % 256 = 0)]
      unfold StringIndexer.entry at free
      unfold StringIndexer.set
      dsimp only at free ⊢
      rw [Function.update_idem, ← free, Function.update_eq_self]

end Catalog

end SimpleTlsBroker
