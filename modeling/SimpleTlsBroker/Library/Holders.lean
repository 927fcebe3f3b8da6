import Mathlib.Data.Finset.Card
import Mathlib.Data.Finset.Erase
import Mathlib.Data.Finset.Insert

namespace Holders

/-!
# Counting holders

Objects come and go, and each of them holds one resource at a time.  The number
of holders of a resource follows every object that is added, removed or given
another resource.
-/

variable {Object Resource : Type}
variable [DecidableEq Object] [DecidableEq Resource]

/-- How many objects hold a resource. -/
def count
    (objects : Finset Object)
    (holds : Object → Resource)
    (resource : Resource) : Nat :=
  (objects.filter fun object => holds object = resource).card

variable {objects : Finset Object}
variable {holds : Object → Resource}
variable {object : Object}
variable {resource : Resource}

omit [DecidableEq Object] in
/-- A resource is held if and only if it is counted. -/
theorem count_pos_iff :
    0 < count objects holds resource ↔
      ∃ object ∈ objects, holds object = resource := by
  rw [count, Finset.card_pos]
  constructor
  · rintro ⟨object, member⟩
    exact ⟨object, Finset.mem_filter.mp member⟩
  · rintro ⟨object, member⟩
    exact ⟨object, Finset.mem_filter.mpr member⟩

omit [DecidableEq Object] in
/-- Without objects nothing is held. -/
@[simp] theorem count_empty : count ∅ holds resource = 0 := by
  rw [count, Finset.filter_empty, Finset.card_empty]

/-- What other objects hold does not depend on an object that is not there. -/
theorem count_update_of_notMem
    (fresh : object ∉ objects)
    (taken : Resource) :
    count objects (Function.update holds object taken) resource =
      count objects holds resource := by
  unfold count
  apply congrArg
  apply Finset.filter_congr
  intro other member
  have distinct : other ≠ object := fun same => fresh (same ▸ member)
  rw [Function.update_of_ne distinct]

/-- Adding an object. -/
theorem count_insert
    (holds : Object → Resource)
    (resource : Resource)
    (fresh : object ∉ objects) :
    count (insert object objects) holds resource =
      count objects holds resource +
        if holds object = resource then 1 else 0 := by
  unfold count
  rw [Finset.filter_insert]
  split
  · rw [Finset.card_insert_of_notMem]
    exact fun member => fresh (Finset.mem_filter.mp member).1
  · rfl

/-- Removing an object. -/
theorem count_erase
    (holds : Object → Resource)
    (resource : Resource)
    (member : object ∈ objects) :
    count (objects.erase object) holds resource +
        (if holds object = resource then 1 else 0) =
      count objects holds resource := by
  have added :
      count (insert object (objects.erase object)) holds resource =
        count (objects.erase object) holds resource +
          if holds object = resource then 1 else 0 :=
    count_insert holds resource (Finset.notMem_erase object objects)
  rw [Finset.insert_erase member] at added
  exact added.symm

/-- Giving an object another resource. -/
theorem count_update
    (holds : Object → Resource)
    (resource : Resource)
    (member : object ∈ objects)
    (taken : Resource) :
    count objects (Function.update holds object taken) resource +
        (if holds object = resource then 1 else 0) =
      count objects holds resource +
        if taken = resource then 1 else 0 := by
  have without := Finset.notMem_erase object objects
  have removed :
      count (objects.erase object) holds resource +
          (if holds object = resource then 1 else 0) =
        count objects holds resource :=
    count_erase holds resource member
  have added :
      count (insert object (objects.erase object))
          (Function.update holds object taken) resource =
        count (objects.erase object)
            (Function.update holds object taken) resource +
          if Function.update holds object taken object = resource then
            1
          else
            0 :=
    count_insert _ resource without
  rw [Finset.insert_erase member, Function.update_self,
    count_update_of_notMem without] at added
  omega

end Holders
