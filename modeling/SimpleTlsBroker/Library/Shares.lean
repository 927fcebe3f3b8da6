import Mathlib.Data.Finset.Card
import Mathlib.Data.Finset.Insert

namespace Shares

/-!
# Counting shares

Owners that have a share in any number of resources, each in a resource once.
The number of shares in a resource follows the one owner that takes or gives up
a share, and does not notice owners that come without any.
-/

variable {Owner Resource : Type}

/-- How many owners have a share in a resource. -/
def count
    (owners : Finset Owner)
    (shares : Owner → Resource → Prop)
    [∀ owner resource, Decidable (shares owner resource)]
    (resource : Resource) : Nat :=
  (owners.filter fun owner => shares owner resource).card

variable {owners : Finset Owner}
variable {before after : Owner → Resource → Prop}
variable [∀ owner resource, Decidable (before owner resource)]
variable [∀ owner resource, Decidable (after owner resource)]
variable {owner : Owner}
variable {resource : Resource}

/-- A resource with an owner is counted. -/
theorem count_pos_iff :
    0 < count owners before resource ↔
      ∃ owner ∈ owners, before owner resource := by
  rw [count, Finset.card_pos]
  constructor
  · rintro ⟨owner, member⟩
    exact ⟨owner, Finset.mem_filter.mp member⟩
  · rintro ⟨owner, member⟩
    exact ⟨owner, Finset.mem_filter.mpr member⟩

/-- The count depends on the shares in this resource only. -/
theorem count_congr
    (same :
      ∀ owner ∈ owners, after owner resource ↔ before owner resource) :
    count owners after resource = count owners before resource :=
  congrArg Finset.card (Finset.filter_congr same)

/-- More shares are counted as more. -/
theorem count_le_count
    (grows : ∀ owner, before owner resource → after owner resource) :
    count owners before resource ≤ count owners after resource := by
  apply Finset.card_le_card
  intro owner member
  obtain ⟨inside, isShare⟩ := Finset.mem_filter.mp member
  exact Finset.mem_filter.mpr ⟨inside, grows owner isShare⟩

/-- A resource of one owner is counted once at most. -/
theorem count_le_one
    (only : ∀ other, before other resource → other = owner) :
    count owners before resource ≤ 1 := by
  have single :
      (owners.filter fun owner => before owner resource) ⊆ {owner} := by
    intro other member
    exact Finset.mem_singleton.mpr
      (only other (Finset.mem_filter.mp member).2)
  exact Finset.card_le_card single

/-- Owners without shares are not counted. -/
theorem count_mono
    {larger : Finset Owner}
    (grows : owners ⊆ larger)
    (idle :
      ∀ owner ∈ larger, owner ∉ owners → ¬ before owner resource) :
    count larger before resource = count owners before resource := by
  unfold count
  apply congrArg
  ext owner
  rw [Finset.mem_filter, Finset.mem_filter]
  constructor
  · rintro ⟨inLarger, isShare⟩
    refine ⟨?_, isShare⟩
    by_contra outside
    exact idle owner inLarger outside isShare
  · rintro ⟨member, isShare⟩
    exact ⟨grows member, isShare⟩

variable [DecidableEq Owner]

/-- One owner takes a share that it did not have. -/
theorem count_gain
    (member : owner ∈ owners)
    (wasOutside : ¬ before owner resource)
    (isInside : after owner resource)
    (others :
      ∀ other ∈ owners, other ≠ owner →
        (after other resource ↔ before other resource)) :
    count owners after resource = count owners before resource + 1 := by
  have grown :
      (owners.filter fun other => after other resource) =
        insert owner (owners.filter fun other => before other resource) := by
    ext other
    simp only [Finset.mem_insert, Finset.mem_filter]
    by_cases same : other = owner
    · subst same
      simp [member, isInside]
    · simp only [same, false_or]
      exact and_congr_right fun inside => others other inside same
  unfold count
  rw [grown, Finset.card_insert_of_notMem]
  exact fun inside => wasOutside (Finset.mem_filter.mp inside).2

/-- One owner gives up its share. -/
theorem count_loss
    (member : owner ∈ owners)
    (wasInside : before owner resource)
    (isOutside : ¬ after owner resource)
    (others :
      ∀ other ∈ owners, other ≠ owner →
        (after other resource ↔ before other resource)) :
    count owners after resource + 1 = count owners before resource := by
  refine (count_gain member isOutside wasInside ?_).symm
  intro other inside distinct
  exact (others other inside distinct).symm

end Shares
