import Mathlib.Data.List.Nodup
import Mathlib.Tactic.Common

namespace Recency

/-!
# The order of last use

Keys that are used get stamps from a clock that counts the uses; a stamp of
zero means that a key was not used.  A search for the first lowest stamp finds
the first key that was not used, or else the key whose last use is the oldest.
-/

variable {Key : Type}

/-- Search for the first key whose stamp is lower than all before. -/
def search
    (stamp : Key → Nat) : List Key → Nat → Option Key → Option Key
  | [], _, found => found
  | key :: rest, lowest, found =>
      if stamp key < lowest then
        search stamp rest (stamp key) (some key)
      else
        search stamp rest lowest found

variable [DecidableEq Key]

/-- A use moves a key to the end. -/
def touch (key : Key) (used : List Key) : List Key :=
  used.erase key ++ [key]

/-- The first key that was not used, or else the one used longest ago. -/
def oldest (keys used : List Key) : Option Key :=
  match keys.find? fun key => key ∉ used with
  | some key => some key
  | none => used.head?

/-- The stamps follow the order of use, and are not later than the clock. -/
structure Stamped
    (used : List Key)
    (stamp : Key → Nat)
    (clock : Nat) : Prop where
  ordered : used.Pairwise fun earlier later => stamp earlier < stamp later
  stamped : ∀ key ∈ used, 0 < stamp key ∧ stamp key ≤ clock

variable {used keys : List Key}
variable {stamp stamp' : Key → Nat}
variable {clock lowest : Nat}
variable {key : Key}
variable {found : Option Key}

/-- What was used before, and the key that is used now. -/
theorem mem_touch
    {other : Key} :
    other ∈ touch key used ↔ other = key ∨ other ∈ used := by
  rw [touch, List.mem_append, List.mem_singleton]
  constructor
  · rintro (inRest | isKey)
    · exact .inr (List.mem_of_mem_erase inRest)
    · exact .inl isKey
  · rintro (isKey | inUse)
    · exact .inr isKey
    · by_cases same : other = key
      · exact .inr same
      · exact .inl ((List.mem_erase_of_ne same).mpr inUse)

omit [DecidableEq Key] in
/-- Without uses every clock will do. -/
theorem stamped_nil (stamp : Key → Nat) (clock : Nat) :
    Stamped [] stamp clock :=
  ⟨.nil, fun _ member => nomatch member⟩

omit [DecidableEq Key] in
/-- Some keys are forgotten, the others keep their stamps. -/
theorem Stamped.forget
    (stamped : Stamped used stamp clock)
    (remains : Key → Bool)
    (same : ∀ key ∈ used, remains key → stamp' key = stamp key) :
    Stamped (used.filter remains) stamp' clock := by
  have sameHere
      {key : Key}
      (member : key ∈ used.filter remains) :
      stamp' key = stamp key := by
    obtain ⟨inUse, stays⟩ := List.mem_filter.mp member
    exact same key inUse stays
  refine ⟨?_, ?_⟩
  · apply (stamped.ordered.sublist List.filter_sublist).imp_of_mem
    intro earlier later isEarlier isLater lower
    rw [sameHere isEarlier, sameHere isLater]
    exact lower
  · intro key member
    rw [sameHere member]
    exact stamped.stamped key (List.mem_filter.mp member).1

omit [DecidableEq Key] in
/-- No key is there twice. -/
theorem Stamped.nodup (stamped : Stamped used stamp clock) : used.Nodup := by
  apply stamped.ordered.imp
  rintro earlier later lower rfl
  exact Nat.lt_irrefl _ lower

/-- A key gets the next stamp. -/
theorem Stamped.touch
    (stamped : Stamped used stamp clock)
    (key : Key)
    (isStamp : stamp' key = clock + 1)
    (others : ∀ other, other ≠ key → stamp' other = stamp other) :
    Stamped (touch key used) stamp' (clock + 1) := by
  have rest
      {other : Key}
      (member : other ∈ used.erase key) :
      other ∈ used ∧ stamp' other = stamp other := by
    refine ⟨List.mem_of_mem_erase member, others other ?_⟩
    rintro rfl
    exact stamped.nodup.not_mem_erase member
  refine ⟨?_, ?_⟩
  · refine List.pairwise_append.mpr ⟨?_, List.pairwise_singleton _ _, ?_⟩
    · apply (stamped.ordered.sublist List.erase_sublist).imp_of_mem
      intro earlier later isEarlier isLater lower
      rw [(rest isEarlier).2, (rest isLater).2]
      exact lower
    · intro earlier isEarlier later isLater
      rw [List.mem_singleton.mp isLater, isStamp, (rest isEarlier).2]
      exact Nat.lt_succ_of_le (stamped.stamped _ (rest isEarlier).1).2
  · intro other member
    rcases List.mem_append.mp member with inRest | isKey
    · obtain ⟨inUse, same⟩ := rest inRest
      obtain ⟨positive, bounded⟩ := stamped.stamped other inUse
      rw [same]
      exact ⟨positive, Nat.le_succ_of_le bounded⟩
    · rw [List.mem_singleton.mp isKey, isStamp]
      exact ⟨Nat.succ_pos clock, Nat.le_refl _⟩

omit [DecidableEq Key] in
/-- Nothing is lower than zero. -/
theorem search_zero
    (stamp : Key → Nat)
    (keys : List Key)
    (found : Option Key) :
    search stamp keys 0 found = found := by
  induction keys with
  | nil => rfl
  | cons key rest inductionHypothesis =>
      rw [search, if_neg (Nat.not_lt_zero _)]
      exact inductionHypothesis

omit [DecidableEq Key] in
/-- The first key without a stamp is found. -/
theorem search_unstamped
    {isFirst : Key → Bool}
    (unstamped : ∀ key ∈ keys, isFirst key = true ↔ stamp key = 0)
    (first : keys.find? isFirst = some key)
    (positive : 0 < lowest) :
    search stamp keys lowest found = some key := by
  induction keys generalizing lowest found with
  | nil => contradiction
  | cons other rest inductionHypothesis =>
      have here := unstamped other List.mem_cons_self
      have later (key : Key) (member : key ∈ rest) :=
        unstamped key (List.mem_cons_of_mem other member)
      rw [search]
      cases isHere : isFirst other with
      | true =>
          rw [List.find?_cons_of_pos isHere] at first
          rw [here.mp isHere, if_pos positive, search_zero]
          exact first
      | false =>
          have notHere : ¬ isFirst other = true := by
            rw [isHere]
            exact Bool.false_ne_true
          have isStamped : stamp other ≠ 0 := fun isZero =>
            notHere (here.mpr isZero)
          rw [List.find?_cons_of_neg notHere] at first
          split
          · exact inductionHypothesis later first
              (Nat.pos_of_ne_zero isStamped)
          · exact inductionHypothesis later first positive

omit [DecidableEq Key] in
/-- What was found stays, as long as nothing lower comes. -/
theorem search_stays
    (higher : ∀ other ∈ keys, lowest ≤ stamp other) :
    search stamp keys lowest found = found := by
  induction keys with
  | nil => rfl
  | cons other rest inductionHypothesis =>
      have here := higher other List.mem_cons_self
      rw [search, if_neg (Nat.not_lt.mpr here)]
      exact inductionHypothesis fun later member =>
        higher later (List.mem_cons_of_mem other member)

/-- The key with the lowest stamp is found. -/
theorem search_lowest
    (member : key ∈ keys)
    (below : stamp key < lowest)
    (least : ∀ other ∈ keys, other ≠ key → stamp key < stamp other) :
    search stamp keys lowest found = some key := by
  induction keys generalizing lowest found with
  | nil => contradiction
  | cons other rest inductionHypothesis =>
      have leastLater (later : Key) (isLater : later ∈ rest) :=
        least later (List.mem_cons_of_mem other isLater)
      rw [search]
      by_cases same : other = key
      · subst same
        rw [if_pos below]
        apply search_stays
        intro later isLater
        by_cases again : later = other
        · exact Nat.le_of_eq (congrArg stamp again.symm)
        · exact Nat.le_of_lt (leastLater later isLater again)
      · have inRest : key ∈ rest := by
          rcases List.mem_cons.mp member with isHere | isLater
          · exact absurd isHere.symm same
          · exact isLater
        have lower := least other List.mem_cons_self same
        split
        · exact inductionHypothesis inRest lower leastLater
        · exact inductionHypothesis inRest below leastLater

/-- The search finds the oldest key. -/
theorem Stamped.search_eq
    (stamped : Stamped used stamp clock)
    (unused : ∀ key ∈ keys, key ∉ used → stamp key = 0)
    (all : ∀ key ∈ used, key ∈ keys)
    (later : clock < lowest) :
    search stamp keys lowest none = oldest keys used := by
  have unstamped
      (key : Key)
      (member : key ∈ keys) :
      decide (key ∉ used) = true ↔ stamp key = 0 := by
    rw [decide_eq_true_iff]
    constructor
    · exact unused key member
    · intro isZero inUse
      exact Nat.ne_of_gt (stamped.stamped key inUse).1 isZero
  rw [oldest]
  cases first : keys.find? fun key => key ∉ used with
  | some key =>
      exact search_unstamped unstamped first
        (Nat.lt_of_le_of_lt (Nat.zero_le clock) later)
  | none =>
      have allUsed (key : Key) (member : key ∈ keys) : key ∈ used := by
        have notUnused := List.find?_eq_none.mp first key member
        simpa using notUnused
      cases used with
      | nil =>
          cases keys with
          | nil => rfl
          | cons key rest => exact nomatch allUsed key List.mem_cons_self
      | cons head tail =>
          have isFirst := List.pairwise_cons.mp stamped.ordered
          have member := all head List.mem_cons_self
          have bounded := (stamped.stamped head List.mem_cons_self).2
          refine search_lowest member (Nat.lt_of_le_of_lt bounded later) ?_
          intro other isOther distinct
          rcases List.mem_cons.mp (allUsed other isOther) with isHead | inTail
          · exact absurd isHead distinct
          · exact isFirst.1 other inTail

end Recency
