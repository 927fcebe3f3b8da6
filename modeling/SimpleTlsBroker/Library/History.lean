import Mathlib.Logic.Relation
import Mathlib.Tactic.Common

namespace History

/-!
# Histories and invariants of runs

A history is a list of events, newest first.  It grows at its front, and a
property of a history that looks at every event together with what came before
it is kept by growing with events that the property does not restrict.
-/

variable {Event : Type}

/-- One history extends another by allowed events. -/
def Grown
    (allowed : Event → Prop)
    (earlier later : List Event) : Prop :=
  ∃ since, later = since ++ earlier ∧ ∀ event ∈ since, allowed event

/-- Every event passes a check against the events before it. -/
def Checked
    (check : Event → List Event → Prop) : List Event → Prop
  | [] => True
  | event :: earlier => check event earlier ∧ Checked check earlier

namespace Grown

variable {allowed : Event → Prop}
variable {earlier middle later : List Event}

theorem refl (earlier : List Event) : Grown allowed earlier earlier :=
  ⟨[], rfl, by simp⟩

/-- One more event. -/
theorem cons
    {event : Event}
    (isAllowed : allowed event)
    (grown : Grown allowed earlier later) :
    Grown allowed earlier (event :: later) := by
  obtain ⟨since, rfl, allAllowed⟩ := grown
  refine ⟨event :: since, rfl, ?_⟩
  intro other member
  rcases List.mem_cons.mp member with isEvent | inSince
  · exact isEvent ▸ isAllowed
  · exact allAllowed other inSince

/-- Growth by one event. -/
theorem single
    {event : Event}
    (isAllowed : allowed event) :
    Grown allowed earlier (event :: earlier) :=
  (refl earlier).cons isAllowed

theorem trans
    (first : Grown allowed earlier middle)
    (second : Grown allowed middle later) :
    Grown allowed earlier later := by
  obtain ⟨since, rfl, allAllowed⟩ := second
  induction since with
  | nil => exact first
  | cons event rest inductionHypothesis =>
      refine Grown.cons (allAllowed event (by simp)) ?_
      exact inductionHypothesis fun other member =>
        allAllowed other (List.mem_cons_of_mem event member)

/-- More events may be allowed. -/
theorem weaken
    {allowed' : Event → Prop}
    (grown : Grown allowed earlier later)
    (weaker : ∀ event, allowed event → allowed' event) :
    Grown allowed' earlier later := by
  obtain ⟨since, shape, allAllowed⟩ := grown
  exact ⟨since, shape, fun event member =>
    weaker event (allAllowed event member)⟩

/-- Old events are still there. -/
theorem mem
    {event : Event}
    (grown : Grown allowed earlier later)
    (member : event ∈ earlier) :
    event ∈ later := by
  obtain ⟨since, rfl, _⟩ := grown
  exact List.mem_append_right since member

/-- An event of the longer history is old or allowed. -/
theorem mem_or
    {event : Event}
    (grown : Grown allowed earlier later)
    (member : event ∈ later) :
    event ∈ earlier ∨ allowed event := by
  obtain ⟨since, rfl, allAllowed⟩ := grown
  rcases List.mem_append.mp member with isNew | isOld
  · exact .inr (allAllowed event isNew)
  · exact .inl isOld

end Grown

namespace Checked

variable {check : Event → List Event → Prop}
variable {allowed : Event → Prop}
variable {earlier later : List Event}

/-- A check that allowed events always pass survives growth by them. -/
theorem grow
    (checked : Checked check earlier)
    (grown : Grown allowed earlier later)
    (harmless :
      ∀ event, allowed event → ∀ before, check event before) :
    Checked check later := by
  obtain ⟨since, rfl, allAllowed⟩ := grown
  induction since with
  | nil => exact checked
  | cons event rest inductionHypothesis =>
      refine ⟨harmless event (allAllowed event (by simp)) _, ?_⟩
      exact inductionHypothesis fun other member =>
        allAllowed other (List.mem_cons_of_mem event member)

/-- What was checked later was checked before. -/
theorem shrink
    (checked : Checked check later)
    (grown : Grown allowed earlier later) :
    Checked check earlier := by
  obtain ⟨since, rfl, _⟩ := grown
  clear * - checked
  induction since with
  | nil => exact checked
  | cons event rest inductionHypothesis =>
      exact inductionHypothesis checked.2

/-- The check of one event, where it stands. -/
theorem at_mem
    {event : Event}
    (checked : Checked check later)
    (member : event ∈ later) :
    ∃ after before, later = after ++ event :: before ∧ check event before := by
  induction later with
  | nil => simp at member
  | cons head rest inductionHypothesis =>
      by_cases isHead : event = head
      · subst isHead
        exact ⟨[], rest, rfl, checked.1⟩
      · obtain ⟨after, before, shape, passes⟩ :=
          inductionHypothesis checked.2 (by simpa [isHead] using member)
        exact ⟨head :: after, before, by simp [shape], passes⟩

/-- `Checked`, spelled out. -/
theorem iff_forall :
    Checked check later ↔
      ∀ after event before,
        later = after ++ event :: before → check event before := by
  constructor
  · rintro checked after event before rfl
    induction after with
    | nil => exact checked.1
    | cons head rest inductionHypothesis =>
        exact inductionHypothesis checked.2
  · intro all
    induction later with
    | nil => exact trivial
    | cons head rest inductionHypothesis =>
        refine ⟨all [] head rest rfl, inductionHypothesis ?_⟩
        intro after event before shape
        exact all (head :: after) event before (by simp [shape])

end Checked

/-! ## Runs -/

variable {State : Type}

/-- What every step preserves holds at the end of a run. -/
theorem run_preserves
    {step : State → State → Prop}
    {invariant : State → Prop}
    (preserves :
      ∀ before after, step before after →
        invariant before → invariant after)
    {first last : State}
    (run : Relation.ReflTransGen step first last)
    (holds : invariant first) :
    invariant last := by
  induction run with
  | refl => exact holds
  | tail _ lastStep inductionHypothesis =>
      exact preserves _ _ lastStep inductionHypothesis

end History
