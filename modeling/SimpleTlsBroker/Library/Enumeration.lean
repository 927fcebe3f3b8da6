import Mathlib.Data.List.Basic
import Mathlib.Tactic.Common

namespace Enumeration

/-!
# Enumerations that can be stopped

A visitor is called for one element after the other.  It changes a state, and
says whether the enumeration goes on.
-/

variable {Element State : Type}

/-- Call the visitor until it stops the enumeration. -/
def enumerate
    (visit : Element → State → Bool × State) :
    List Element → State → State
  | [], state => state
  | element :: rest, state =>
      match visit element state with
      | (true, state) => enumerate visit rest state
      | (false, state) => state

variable {visit : Element → State → Bool × State}
variable {elements : List Element}
variable {state : State}

/-- The visitor goes on. -/
theorem enumerate_of_goesOn
    {element : Element}
    {rest : List Element}
    {next : State}
    (goesOn : visit element state = (true, next)) :
    enumerate visit (element :: rest) state = enumerate visit rest next := by
  rw [enumerate, goesOn]

/-- The visitor stops. -/
theorem enumerate_of_stops
    {element : Element}
    {rest : List Element}
    {next : State}
    (stops : visit element state = (false, next)) :
    enumerate visit (element :: rest) state = next := by
  rw [enumerate, stops]

/-- A visitor that stops at what it looks for, and changes nothing before. -/
theorem enumerate_find
    {isFound : Element → Bool}
    {found : Element → State}
    (visits :
      ∀ element ∈ elements,
        visit element state =
          if isFound element then (false, found element) else (true, state)) :
    enumerate visit elements state =
      match elements.find? isFound with
      | some element => found element
      | none => state := by
  induction elements with
  | nil => rfl
  | cons element rest inductionHypothesis =>
      have here := visits element List.mem_cons_self
      have later := inductionHypothesis fun other member =>
        visits other (List.mem_cons_of_mem element member)
      cases matched : isFound element with
      | true =>
          rw [matched, if_pos rfl] at here
          rw [enumerate_of_stops here, List.find?_cons_of_pos matched]
      | false =>
          rw [matched, if_neg Bool.false_ne_true] at here
          rw [enumerate_of_goesOn here, later,
            List.find?_cons_of_neg (by simp [matched])]

/-- A visitor that never stops, and does not change the context. -/
theorem enumerate_each
    {Context : Type}
    {visit : Element → State × Context → Bool × (State × Context)}
    {change : State → Element → State}
    {context : Context}
    (visits :
      ∀ element state,
        visit element (state, context) =
          (true, (change state element, context))) :
    enumerate visit elements (state, context) =
      (elements.foldl change state, context) := by
  induction elements generalizing state with
  | nil => rfl
  | cons element rest inductionHypothesis =>
      rw [enumerate_of_goesOn (visits element state), List.foldl_cons]
      exact inductionHypothesis

end Enumeration
