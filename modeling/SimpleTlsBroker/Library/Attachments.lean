import Mathlib.Data.List.Nodup
import Mathlib.Data.Set.Insert
import Mathlib.Logic.Function.Basic
import Mathlib.Logic.Relation

/-!
# Owners and their members

Owners list their members, and every member points to its owner: two views of
one relation, changed by operations that may update one of them only.  The
lists stay true to the pointers as long as a pointer is set by itself only
where no list is concerned.
-/

/-- The objects that exist, the lists of the owners and the pointers back. -/
@[ext]
structure Attachments (Owner Child : Type) where
  known : Set Child
  members : Owner → List Child
  parent : Child → Option Owner

namespace Attachments

variable {Owner Child : Type} [DecidableEq Owner] [DecidableEq Child]

/-- A new object that points to nobody. -/
def create
    (attachments : Attachments Owner Child)
    (child : Child) : Attachments Owner Child where
  known := insert child attachments.known
  members := attachments.members
  parent := Function.update attachments.parent child none

/-- A new object at the end of the list of its owner. -/
def attach
    (attachments : Attachments Owner Child)
    (owner : Owner)
    (child : Child) : Attachments Owner Child where
  known := insert child attachments.known
  members :=
    Function.update attachments.members owner
      (attachments.members owner ++ [child])
  parent := Function.update attachments.parent child (some owner)

/-- Follow the pointer, remove the object from that list, clear the pointer. -/
def detach
    (attachments : Attachments Owner Child)
    (child : Child) : Attachments Owner Child :=
  match attachments.parent child with
  | some owner =>
      { known := attachments.known
        members :=
          Function.update attachments.members owner
            ((attachments.members owner).erase child)
        parent := Function.update attachments.parent child none }
  | none => attachments

/-- Set the pointer only. -/
def point
    (attachments : Attachments Owner Child)
    (child : Child)
    (owner : Option Owner) : Attachments Owner Child :=
  { attachments with
    parent := Function.update attachments.parent child owner }

/-- An object on no list. -/
def Unlisted
    (attachments : Attachments Owner Child)
    (child : Child) : Prop :=
  ∀ owner, child ∉ attachments.members owner

/-- The lists are true to the pointers. -/
structure Consistent (attachments : Attachments Owner Child) : Prop where
  nodup : ∀ owner, (attachments.members owner).Nodup
  parent :
    ∀ owner, ∀ child ∈ attachments.members owner,
      attachments.parent child = some owner
  known :
    ∀ owner, ∀ child ∈ attachments.members owner, child ∈ attachments.known

/-- One operation. -/
inductive Step
    (before : Attachments Owner Child) :
    Attachments Owner Child → Prop where
  | create (child : Child) (fresh : child ∉ before.known) :
      Step before (before.create child)
  | attach (owner : Owner) (child : Child) (fresh : child ∉ before.known) :
      Step before (before.attach owner child)
  | detach (child : Child) :
      Step before (before.detach child)
  | point
      (child : Child)
      (owner : Option Owner)
      (unlisted : before.Unlisted child) :
      Step before (before.point child owner)

/-- Any sequence of operations. -/
abbrev Run :
    Attachments Owner Child → Attachments Owner Child → Prop :=
  Relation.ReflTransGen Step

variable {before after attachments : Attachments Owner Child}
variable {child other : Child}
variable {owner holder : Owner}

omit [DecidableEq Owner] [DecidableEq Child] in
/-- Objects that do not exist are on no list. -/
theorem Consistent.unlisted_of_unknown
    (consistent : attachments.Consistent)
    (fresh : child ∉ attachments.known) :
    attachments.Unlisted child :=
  fun owner member => fresh (consistent.known owner child member)

/-! ## Attaching -/

/-- An object on a list after an attachment is the new one, or was there. -/
theorem mem_attach
    (member : other ∈ (attachments.attach owner child).members holder) :
    other = child ∧ holder = owner ∨ other ∈ attachments.members holder := by
  unfold attach at member
  dsimp only at member
  by_cases same : holder = owner
  · subst same
    rw [Function.update_self] at member
    rcases List.mem_append.mp member with isOld | isNew
    · exact .inr isOld
    · exact .inl ⟨List.mem_singleton.mp isNew, rfl⟩
  · rw [Function.update_of_ne same] at member
    exact .inr member

/-! ## Detaching -/

/-- Who points to nobody is not detached. -/
theorem detach_unattached
    (unattached : attachments.parent child = none) :
    attachments.detach child = attachments := by
  unfold detach
  rw [unattached]

/-- The lists after the detachment from an owner. -/
theorem members_detach_of_parent
    (attached : attachments.parent child = some owner) :
    (attachments.detach child).members =
      Function.update attachments.members owner
        ((attachments.members owner).erase child) := by
  unfold detach
  rw [attached]

/-- Detaching adds to no list. -/
theorem mem_of_mem_detach
    (member : other ∈ (attachments.detach child).members owner) :
    other ∈ attachments.members owner := by
  unfold detach at member
  split at member
  · rename_i parent _
    dsimp only at member
    by_cases same : owner = parent
    · subst same
      rw [Function.update_self] at member
      exact List.mem_of_mem_erase member
    · rw [Function.update_of_ne same] at member
      exact member
  · exact member

/-- Afterwards the object points to nobody. -/
theorem parent_detach_self :
    (attachments.detach child).parent child = none := by
  unfold detach
  split
  · exact Function.update_self ..
  · assumption

/-- The other pointers are left alone. -/
theorem parent_detach_other
    (distinct : other ≠ child) :
    (attachments.detach child).parent other = attachments.parent other := by
  unfold detach
  split
  · exact Function.update_of_ne distinct ..
  · rfl

/-- Detaching from true lists is erasing from all of them. -/
theorem Consistent.members_detach
    (consistent : attachments.Consistent)
    (child : Child)
    (owner : Owner) :
    (attachments.detach child).members owner =
      (attachments.members owner).erase child := by
  by_cases isParent : attachments.parent child = some owner
  · rw [members_detach_of_parent isParent, Function.update_self]
  · have notMember : child ∉ attachments.members owner :=
      fun member => isParent (consistent.parent owner child member)
    rw [List.erase_of_not_mem notMember]
    unfold detach
    split
    · rename_i parent attached
      have distinct : owner ≠ parent := by
        rintro rfl
        exact isParent attached
      exact Function.update_of_ne distinct ..
    · rfl

/-- After a detachment from true lists the object is on none. -/
theorem Consistent.unlisted_detach
    (consistent : attachments.Consistent)
    (child : Child) :
    (attachments.detach child).Unlisted child := by
  intro owner
  rw [consistent.members_detach]
  exact (consistent.nodup owner).not_mem_erase

/-- Detaching exists nobody away. -/
theorem known_detach : (attachments.detach child).known = attachments.known := by
  unfold detach
  split
  · rfl
  · rfl

namespace Consistent

theorem detach
    (consistent : attachments.Consistent)
    (child : Child) :
    (attachments.detach child).Consistent where
  nodup owner := by
    rw [consistent.members_detach]
    exact (consistent.nodup owner).erase child
  parent owner other member := by
    have distinct : other ≠ child := by
      rintro rfl
      exact consistent.unlisted_detach other owner member
    rw [parent_detach_other distinct]
    exact consistent.parent owner other (mem_of_mem_detach member)
  known owner other member := by
    rw [known_detach]
    exact consistent.known owner other (mem_of_mem_detach member)

omit [DecidableEq Owner] in
theorem create
    (consistent : attachments.Consistent)
    (fresh : child ∉ attachments.known) :
    (attachments.create child).Consistent where
  nodup := consistent.nodup
  parent owner other member := by
    have distinct : other ≠ child := by
      rintro rfl
      exact consistent.unlisted_of_unknown fresh owner member
    exact (Function.update_of_ne distinct ..).trans
      (consistent.parent owner other member)
  known owner other member :=
    Set.mem_insert_of_mem child (consistent.known owner other member)

theorem attach
    (consistent : attachments.Consistent)
    (fresh : child ∉ attachments.known)
    (owner : Owner) :
    (attachments.attach owner child).Consistent := by
  have unlisted := consistent.unlisted_of_unknown fresh
  constructor
  · intro holder
    unfold Attachments.attach
    dsimp only
    by_cases same : holder = owner
    · subst same
      rw [Function.update_self]
      refine List.nodup_append.mpr
        ⟨consistent.nodup holder, List.nodup_singleton child, ?_⟩
      rintro other isOld new isNew rfl
      obtain rfl := List.mem_singleton.mp isNew
      exact unlisted holder isOld
    · rw [Function.update_of_ne same]
      exact consistent.nodup holder
  · intro holder other member
    rcases mem_attach member with ⟨rfl, rfl⟩ | isOld
    · exact Function.update_self ..
    · have distinct : other ≠ child := by
        rintro rfl
        exact unlisted holder isOld
      exact (Function.update_of_ne distinct ..).trans
        (consistent.parent holder other isOld)
  · intro holder other member
    rcases mem_attach member with ⟨rfl, rfl⟩ | isOld
    · exact Set.mem_insert ..
    · exact Set.mem_insert_of_mem child
        (consistent.known holder other isOld)

omit [DecidableEq Owner] in
theorem point
    (consistent : attachments.Consistent)
    (unlisted : attachments.Unlisted child)
    (owner : Option Owner) :
    (attachments.point child owner).Consistent where
  nodup := consistent.nodup
  parent holder other member := by
    have distinct : other ≠ child := by
      rintro rfl
      exact unlisted holder member
    exact (Function.update_of_ne distinct ..).trans
      (consistent.parent holder other member)
  known := consistent.known

/-- Every operation keeps the lists true to the pointers. -/
theorem step
    (consistent : before.Consistent)
    (step : Step before after) :
    after.Consistent := by
  cases step with
  | create child fresh => exact consistent.create fresh
  | attach owner child fresh => exact consistent.attach fresh owner
  | detach child => exact consistent.detach child
  | point child owner unlisted => exact consistent.point unlisted owner

/-- So does every sequence of operations. -/
theorem run
    (consistent : before.Consistent)
    (run : Run before after) :
    after.Consistent := by
  induction run with
  | refl => exact consistent
  | tail _ last inductionHypothesis => exact inductionHypothesis.step last

end Consistent

/-! ## Objects that stay unlisted -/

/-- An object that exists and is on no list. -/
structure Loose
    (attachments : Attachments Owner Child)
    (child : Child) : Prop where
  known : child ∈ attachments.known
  unlisted : attachments.Unlisted child

/-- Detaching from true lists leaves an object loose. -/
theorem Consistent.loose_detach
    (consistent : attachments.Consistent)
    (known : child ∈ attachments.known) :
    (attachments.detach child).Loose child where
  known := by
    rw [known_detach]
    exact known
  unlisted := consistent.unlisted_detach child

/-- Only new objects get on a list. -/
theorem Loose.step
    (loose : before.Loose child)
    (step : Step before after) :
    after.Loose child := by
  cases step with
  | create new fresh =>
      exact ⟨Set.mem_insert_of_mem new loose.known, loose.unlisted⟩
  | attach owner new fresh =>
      refine ⟨Set.mem_insert_of_mem new loose.known, ?_⟩
      intro holder member
      rcases mem_attach member with ⟨rfl, _⟩ | isOld
      · exact fresh loose.known
      · exact loose.unlisted holder isOld
  | detach new =>
      refine ⟨?_, fun holder member =>
        loose.unlisted holder (mem_of_mem_detach member)⟩
      rw [known_detach]
      exact loose.known
  | point new owner _ => exact ⟨loose.known, loose.unlisted⟩

/-- An object that was once left out of the lists is never on one again. -/
theorem Loose.run
    (loose : before.Loose child)
    (run : Run before after) :
    after.Loose child := by
  induction run with
  | refl => exact loose
  | tail _ last inductionHypothesis => exact inductionHypothesis.step last

/-! ## Emptying a list -/

/-- Detach the first object of a list until there is none, counting rounds. -/
def drain
    (owner : Owner) :
    Nat → Attachments Owner Child → Option (Attachments Owner Child)
  | 0, _ => none
  | rounds + 1, attachments =>
      match attachments.members owner with
      | [] => some attachments
      | child :: _ => drain owner rounds (attachments.detach child)

/-- A true list is empty after as many rounds as it has objects. -/
theorem Consistent.drain
    (consistent : attachments.Consistent)
    (owner : Owner) :
    ∃ after,
      attachments.drain owner ((attachments.members owner).length + 1) =
          some after ∧
        Run attachments after ∧
        after.members owner = [] ∧
        ∀ other ≠ owner,
          after.members other = attachments.members other := by
  generalize items : attachments.members owner = list
  induction list generalizing attachments with
  | nil =>
      refine ⟨attachments, ?_, .refl, items, fun _ _ => rfl⟩
      rw [List.length_nil, Attachments.drain, items]
  | cons child rest inductionHypothesis =>
      have isParent : attachments.parent child = some owner :=
        consistent.parent owner child (by rw [items]; exact List.mem_cons_self)
      have shorter : (attachments.detach child).members owner = rest := by
        rw [consistent.members_detach, items, List.erase_cons_head]
      obtain ⟨after, drained, run, empty, others⟩ :=
        inductionHypothesis (consistent.detach child) shorter
      refine ⟨after, ?_, .head (.detach child) run, empty, ?_⟩
      · rw [List.length_cons, Attachments.drain, items]
        exact drained
      · intro other distinct
        rw [others other distinct, consistent.members_detach]
        apply List.erase_of_not_mem
        intro member
        rw [consistent.parent other child member] at isParent
        exact distinct (Option.some.inj isParent)

end Attachments
