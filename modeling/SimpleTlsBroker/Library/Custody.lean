import Mathlib.Data.List.Nodup
import Mathlib.Logic.Function.Basic
import Mathlib.Tactic.Common

namespace Custody

/-!
# Items in custody

Keys are entrusted to places, each with a tag that says how to release it.  A
place that is to hold another key releases the one it has.  As long as no place
takes a key that was entrusted before, no key is released twice, none is lost,
what a place holds was not released, and the tags are the last ones given.
-/

variable {Place Key Tag : Type}

/-- What the places hold, and what happened to the other keys. -/
@[ext] structure Books (Place Key Tag : Type) where
  held : Place → Option (Key × Tag)
  /-- The keys released with their tags, newest first. -/
  released : List (Key × Tag)
  /-- The keys entrusted with their tags, newest first. -/
  entrusted : List (Key × Tag)

namespace Books

/-- Books that hold nothing yet. -/
def empty : Books Place Key Tag where
  held _ := none
  released := []
  entrusted := []

variable [DecidableEq Place]

/-- What a place holds gets another tag. -/
def retag
    (books : Books Place Key Tag)
    (place : Place)
    (tag : Tag) : Books Place Key Tag :=
  let item := (books.held place).map fun item => (item.1, tag)
  { books with
    held := Function.update books.held place item
    entrusted := item.toList ++ books.entrusted }

/-- A place releases what it holds. -/
def release
    (books : Books Place Key Tag)
    (place : Place) : Books Place Key Tag :=
  { books with
    held := Function.update books.held place none
    released := (books.held place).toList ++ books.released }

/-- An empty place takes an item. -/
def take
    (books : Books Place Key Tag)
    (place : Place)
    (item : Option (Key × Tag)) : Books Place Key Tag :=
  { books with
    held := Function.update books.held place item
    entrusted := item.toList ++ books.entrusted }

variable {books : Books Place Key Tag}
variable {place : Place}

/-- An empty place has nothing to tag. -/
theorem retag_of_empty
    (empty : books.held place = none)
    (tag : Tag) :
    books.retag place tag = books := by
  apply Books.ext
  · change Function.update books.held place
      ((books.held place).map fun item => (item.1, tag)) = books.held
    rw [empty, Option.map_none, ← empty, Function.update_eq_self]
  · rfl
  · simp [retag, empty]

/-- An empty place has nothing to release. -/
theorem release_of_empty
    (empty : books.held place = none) :
    books.release place = books := by
  apply Books.ext
  · change Function.update books.held place none = books.held
    rw [← empty, Function.update_eq_self]
  · simp [release, empty]
  · rfl

/-- An empty place that takes nothing stays empty. -/
theorem take_none
    (empty : books.held place = none) :
    books.take place none = books := by
  apply Books.ext
  · change Function.update books.held place none = books.held
    rw [← empty, Function.update_eq_self]
  · rfl
  · rfl

end Books

variable [DecidableEq Key]

/-- No key is in two places, released twice, both, or lost. -/
structure Sound (books : Books Place Key Tag) : Prop where
  apart :
    ∀ place other key tag tag',
      books.held place = some (key, tag) →
        books.held other = some (key, tag') → place = other
  kept :
    ∀ place key tag,
      books.held place = some (key, tag) →
        books.entrusted.lookup key = some tag ∧
          key ∉ books.released.map Prod.fst
  once : (books.released.map Prod.fst).Nodup
  known :
    ∀ key tag,
      (key, tag) ∈ books.released → books.entrusted.lookup key = some tag
  accounted :
    ∀ key ∈ books.entrusted.map Prod.fst,
      key ∉ books.released.map Prod.fst →
        ∃ place tag, books.held place = some (key, tag)

/-- Empty books are sound. -/
theorem sound_empty : Sound (Books.empty : Books Place Key Tag) where
  apart _ _ _ _ _ holds _ := nomatch holds
  kept _ _ _ holds := nomatch holds
  once := List.nodup_nil
  known _ _ member := nomatch member
  accounted _ member _ := nomatch member

/-- A key that can be looked up is in the list. -/
theorem mem_of_lookup
    {items : List (Key × Tag)}
    {key : Key}
    {tag : Tag}
    (found : items.lookup key = some tag) :
    key ∈ items.map Prod.fst := by
  induction items with
  | nil => contradiction
  | cons item rest inductionHypothesis =>
      rw [List.map_cons, List.mem_cons]
      by_cases same : key = item.1
      · exact .inl same
      · have later : rest.lookup key = some tag := by
          rw [List.lookup_cons, beq_false_of_ne same] at found
          exact found
        exact .inr (inductionHypothesis later)

/-- The newest tag of a key is found. -/
theorem lookup_newest
    (key : Key)
    (tag : Tag)
    (items : List (Key × Tag)) :
    ((key, tag) :: items).lookup key = some tag :=
  List.lookup_cons_self

/-- Other keys keep their tags. -/
theorem lookup_other
    {key other : Key}
    {tag : Tag}
    {items : List (Key × Tag)}
    (distinct : other ≠ key) :
    ((key, tag) :: items).lookup other = items.lookup other := by
  rw [List.lookup_cons, beq_false_of_ne distinct]

/-- A key was released exactly if it was entrusted and nobody holds it. -/
theorem Sound.released_iff
    {books : Books Place Key Tag}
    (sound : Sound books)
    (key : Key) :
    key ∈ books.released.map Prod.fst ↔
      key ∈ books.entrusted.map Prod.fst ∧
        ∀ place tag, books.held place ≠ some (key, tag) := by
  constructor
  · intro isReleased
    obtain ⟨⟨found, tag⟩, member, isKey⟩ := List.mem_map.mp isReleased
    dsimp only at isKey
    subst isKey
    refine ⟨mem_of_lookup (sound.known _ _ member), ?_⟩
    intro place tag holds
    exact (sound.kept place _ tag holds).2 isReleased
  · rintro ⟨isEntrusted, nowhere⟩
    by_contra unreleased
    obtain ⟨place, tag, holds⟩ :=
      sound.accounted key isEntrusted unreleased
    exact nowhere place tag holds

variable [DecidableEq Place]
variable {books : Books Place Key Tag}

/-- What a place holds is known by its new tag. -/
theorem Sound.retag
    (sound : Sound books)
    (place : Place)
    (tag : Tag) :
    Sound (books.retag place tag) := by
  cases here : books.held place with
  | none =>
      rw [Books.retag_of_empty here]
      exact sound
  | some item =>
      have entrusted :
          (books.retag place tag).entrusted =
            (item.1, tag) :: books.entrusted := by
        simp [Books.retag, here]
      have wasKept := sound.kept place item.1 item.2 here
      have holds
          {other : Place}
          {key : Key}
          {tag' : Tag}
          (held : (books.retag place tag).held other = some (key, tag')) :
          other = place ∧ key = item.1 ∧ tag' = tag ∨
            other ≠ place ∧ books.held other = some (key, tag') := by
        by_cases same : other = place
        · subst same
          simp only [Books.retag, here, Option.map_some,
            Function.update_self, Option.some.injEq, Prod.mk.injEq] at held
          exact .inl ⟨rfl, held.1.symm, held.2.symm⟩
        · simp only [Books.retag, Function.update_of_ne same] at held
          exact .inr ⟨same, held⟩
      have otherKey
          {other : Place}
          {key : Key}
          {tag' : Tag}
          (distinct : other ≠ place)
          (held : books.held other = some (key, tag')) : key ≠ item.1 := by
        rintro rfl
        exact distinct (sound.apart _ _ _ _ item.2 held here)
      refine ⟨?_, ?_, sound.once, ?_, ?_⟩
      · intro first second key tag' tag'' heldFirst heldSecond
        rcases holds heldFirst with ⟨isFirst, isItem, _⟩ | ⟨distinct, before⟩
        · rcases holds heldSecond with ⟨isSecond, _⟩ | ⟨distinct, before'⟩
          · rw [isFirst, isSecond]
          · exact absurd isItem (otherKey distinct before')
        · rcases holds heldSecond with ⟨_, isItem, _⟩ | ⟨_, before'⟩
          · exact absurd isItem (otherKey distinct before)
          · exact sound.apart _ _ _ _ _ before before'
      · intro other key tag' held
        rw [entrusted]
        rcases holds held with ⟨_, isItem, isTag⟩ | ⟨distinct, before⟩
        · subst isItem isTag
          exact ⟨lookup_newest _ _ _, wasKept.2⟩
        · obtain ⟨isEntrusted, unreleased⟩ := sound.kept _ _ _ before
          rw [lookup_other (otherKey distinct before)]
          exact ⟨isEntrusted, unreleased⟩
      · intro key tag' member
        have distinct : key ≠ item.1 := by
          rintro rfl
          exact wasKept.2 (List.mem_map.mpr ⟨(item.1, tag'), member, rfl⟩)
        rw [entrusted, lookup_other distinct]
        exact sound.known key tag' member
      · intro key isEntrusted unreleased
        rw [entrusted, List.map_cons, List.mem_cons] at isEntrusted
        rcases isEntrusted with isItem | wasEntrusted
        · rw [isItem]
          exact ⟨place, tag, by simp [Books.retag, here]⟩
        · obtain ⟨other, before, held⟩ :=
            sound.accounted key wasEntrusted unreleased
          by_cases same : other = place
          · subst same
            exact ⟨other, tag, by simp [Books.retag, held]⟩
          · exact ⟨other, before, by simp [Books.retag, same, held]⟩

/-- What was held is released, once. -/
theorem Sound.release
    (sound : Sound books)
    (place : Place) :
    Sound (books.release place) := by
  cases here : books.held place with
  | none =>
      rw [Books.release_of_empty here]
      exact sound
  | some item =>
      have released :
          (books.release place).released = item :: books.released := by
        simp [Books.release, here]
      have holds
          {other : Place}
          {found : Key × Tag}
          (held : (books.release place).held other = some found) :
          other ≠ place ∧ books.held other = some found := by
        by_cases same : other = place
        · subst same
          simp [Books.release] at held
        · simp only [Books.release, Function.update_of_ne same] at held
          exact ⟨same, held⟩
      have wasKept := sound.kept place item.1 item.2 here
      refine ⟨?_, ?_, ?_, ?_, ?_⟩
      · intro first second key tag tag' heldFirst heldSecond
        exact sound.apart _ _ _ _ _ (holds heldFirst).2 (holds heldSecond).2
      · intro other key tag held
        obtain ⟨distinct, before⟩ := holds held
        obtain ⟨isEntrusted, unreleased⟩ := sound.kept _ _ _ before
        refine ⟨isEntrusted, ?_⟩
        rw [released, List.map_cons, List.mem_cons]
        rintro (isItem | wasReleased)
        · subst isItem
          exact distinct (sound.apart _ _ _ _ item.2 before here)
        · exact unreleased wasReleased
      · rw [released, List.map_cons]
        exact List.nodup_cons.mpr ⟨wasKept.2, sound.once⟩
      · intro key tag member
        rw [released, List.mem_cons] at member
        rcases member with isItem | wasReleased
        · rw [← isItem] at wasKept
          exact wasKept.1
        · exact sound.known key tag wasReleased
      · intro key isEntrusted unreleased
        rw [released, List.map_cons, List.mem_cons, not_or] at unreleased
        obtain ⟨other, tag, held⟩ :=
          sound.accounted key isEntrusted unreleased.2
        refine ⟨other, tag, ?_⟩
        by_cases same : other = place
        · rw [same, here] at held
          cases held
          exact absurd rfl unreleased.1
        · simp [Books.release, same, held]

/-- An empty place takes a key that is entrusted for the first time. -/
theorem Sound.take
    {place : Place}
    {item : Option (Key × Tag)}
    (sound : Sound books)
    (empty : books.held place = none)
    (new : ∀ key ∈ item.map Prod.fst, key ∉ books.entrusted.map Prod.fst) :
    Sound (books.take place item) := by
  cases item with
  | none =>
      rw [Books.take_none empty]
      exact sound
  | some item =>
      have isNew : item.1 ∉ books.entrusted.map Prod.fst := new item.1 rfl
      have entrusted :
          (books.take place (some item)).entrusted =
            item :: books.entrusted := rfl
      have holds
          {other : Place}
          {found : Key × Tag}
          (held : (books.take place (some item)).held other = some found) :
          other = place ∧ found = item ∨
            books.held other = some found := by
        by_cases same : other = place
        · subst same
          simp only [Books.take, Function.update_self, Option.some.injEq]
            at held
          exact .inl ⟨rfl, held.symm⟩
        · simp only [Books.take, Function.update_of_ne same] at held
          exact .inr held
      have notOld
          {key : Key}
          {tag : Tag}
          (known : books.entrusted.lookup key = some tag) :
          key ≠ item.1 := by
        rintro rfl
        exact isNew (mem_of_lookup known)
      refine ⟨?_, ?_, sound.once, ?_, ?_⟩
      · intro first second key tag tag' heldFirst heldSecond
        rcases holds heldFirst with ⟨isFirst, isItem⟩ | before
        · rcases holds heldSecond with ⟨isSecond, _⟩ | before'
          · rw [isFirst, isSecond]
          · exact absurd (congrArg Prod.fst isItem)
              (notOld (sound.kept _ _ _ before').1)
        · rcases holds heldSecond with ⟨_, isItem⟩ | before'
          · exact absurd (congrArg Prod.fst isItem)
              (notOld (sound.kept _ _ _ before).1)
          · exact sound.apart _ _ _ _ _ before before'
      · intro other key tag held
        rw [entrusted]
        rcases holds held with ⟨_, isItem⟩ | before
        · subst isItem
          refine ⟨lookup_newest _ _ _, ?_⟩
          intro wasReleased
          exact isNew ((sound.released_iff key).mp wasReleased).1
        · obtain ⟨isEntrusted, unreleased⟩ := sound.kept _ _ _ before
          rw [lookup_other (notOld isEntrusted)]
          exact ⟨isEntrusted, unreleased⟩
      · intro key tag member
        have isEntrusted := sound.known key tag member
        rw [entrusted, lookup_other (notOld isEntrusted)]
        exact isEntrusted
      · intro key isEntrusted unreleased
        rw [entrusted, List.map_cons, List.mem_cons] at isEntrusted
        rcases isEntrusted with isItem | wasEntrusted
        · subst isItem
          exact ⟨place, item.2, by simp [Books.take]⟩
        · obtain ⟨other, tag, held⟩ :=
            sound.accounted key wasEntrusted unreleased
          refine ⟨other, tag, ?_⟩
          by_cases same : other = place
          · rw [same, empty] at held
            contradiction
          · simp [Books.take, same, held]

end Custody
