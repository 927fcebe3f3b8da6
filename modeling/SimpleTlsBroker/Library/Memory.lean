import Mathlib.Tactic.Common

namespace Memory

/-!
# Texts in memory

A memory is a function from addresses to values.  `Holds` says that a list of
values stands in memory from an address on; it splits along concatenation, so
that a record of several fields is read field by field.
-/

variable {Value : Type}

/-- The values of a list stand in memory from an address on. -/
def Holds (memory : Nat → Value) : Nat → List Value → Prop
  | _, [] => True
  | address, value :: rest =>
      memory address = value ∧ Holds memory (address + 1) rest

/-- Nothing stands everywhere. -/
@[simp] theorem holds_nil (memory : Nat → Value) (address : Nat) :
    Holds memory address [] :=
  trivial

/-- One value in front. -/
@[simp] theorem holds_cons
    {memory : Nat → Value}
    {address : Nat}
    {value : Value}
    {rest : List Value} :
    Holds memory address (value :: rest) ↔
      memory address = value ∧ Holds memory (address + 1) rest :=
  Iff.rfl

/-- A concatenation stands in memory part by part. -/
@[simp] theorem holds_append
    {memory : Nat → Value}
    {address : Nat}
    {first second : List Value} :
    Holds memory address (first ++ second) ↔
      Holds memory address first ∧
        Holds memory (address + first.length) second := by
  induction first generalizing address with
  | nil => simp
  | cons value rest inductionHypothesis =>
      have shifted :
          address + 1 + rest.length = address + (rest.length + 1) := by
        omega
      simp only [List.cons_append, holds_cons, inductionHypothesis,
        List.length_cons, shifted, and_assoc]

/-- The value at an index. -/
theorem Holds.at
    {memory : Nat → Value}
    {address : Nat}
    {text : List Value}
    (holds : Holds memory address text)
    {index : Nat}
    (inText : index < text.length) :
    memory (address + index) = text[index] := by
  induction text generalizing address index with
  | nil => exact absurd inText (Nat.not_lt_zero index)
  | cons value rest inductionHypothesis =>
      cases index with
      | zero => exact holds.1
      | succ index =>
          have later :=
            inductionHypothesis holds.2 (Nat.lt_of_succ_lt_succ inText)
          rw [Nat.add_right_comm] at later
          exact later

/-- Values that memory has at every index of a text stand there. -/
theorem holds_of_getElem
    {memory : Nat → Value}
    {address : Nat}
    {text : List Value}
    (values :
      ∀ index (inText : index < text.length),
        memory (address + index) = text[index]) :
    Holds memory address text := by
  induction text generalizing address with
  | nil => trivial
  | cons value rest inductionHypothesis =>
      refine ⟨values 0 (Nat.zero_lt_succ _), inductionHypothesis ?_⟩
      intro index inRest
      rw [Nat.add_right_comm]
      exact values (index + 1) (Nat.succ_lt_succ inRest)

/-- What is read from memory stands there. -/
theorem holds_map_range
    (memory : Nat → Value)
    (address length : Nat) :
    Holds memory address
      ((List.range length).map fun index => memory (address + index)) := by
  induction length with
  | zero => trivial
  | succ length inductionHypothesis =>
      rw [List.range_succ, List.map_append, holds_append]
      exact ⟨inductionHypothesis, by simp⟩

/-- A text that stands in memory is read from there. -/
theorem Holds.map_range
    {memory : Nat → Value}
    {address : Nat}
    {text : List Value}
    (holds : Holds memory address text) :
    ((List.range text.length).map fun index => memory (address + index)) =
      text := by
  apply List.ext_getElem
  · simp
  · intro index _ inText
    simpa using holds.at inText

/-- A part of a text stands behind the part in front of it. -/
theorem Holds.drop
    {memory : Nat → Value}
    {address : Nat}
    {text : List Value}
    (holds : Holds memory address text)
    (count : Nat) :
    Holds memory (address + count) (text.drop count) := by
  apply holds_of_getElem
  intro index inRest
  rw [List.length_drop] at inRest
  rw [List.getElem_drop, Nat.add_assoc]
  exact holds.at (by omega)

/-- The first values of a text stand where the text stands. -/
theorem Holds.take
    {memory : Nat → Value}
    {address : Nat}
    {text : List Value}
    (holds : Holds memory address text)
    (count : Nat) :
    Holds memory address (text.take count) := by
  rw [← List.take_append_drop count text, holds_append] at holds
  exact holds.1

/-- A value that is written behind a text. -/
theorem Holds.write
    {memory : Nat → Value}
    {address : Nat}
    {text : List Value}
    (holds : Holds memory address text)
    (value : Value) :
    Holds (Function.update memory (address + text.length) value) address
      (text ++ [value]) := by
  rw [holds_append]
  constructor
  · apply holds_of_getElem
    intro index inText
    rw [Function.update_of_ne (by omega)]
    exact holds.at inText
  · simp

/-! ## What is left before an end -/

/-- The values from an address up to an end; there are none beyond it. -/
structure Rest
    (memory : Nat → Value)
    (address ending : Nat)
    (text : List Value) : Prop where
  holds : Holds memory address text
  length : text.length = ending - address

/-- What is left behind some of the values. -/
theorem Rest.drop
    {memory : Nat → Value}
    {address ending : Nat}
    {text : List Value}
    (rest : Rest memory address ending text)
    (count : Nat) :
    Rest memory (address + count) ending (text.drop count) where
  holds := rest.holds.drop count
  length := by
    rw [List.length_drop, rest.length]
    omega

end Memory
