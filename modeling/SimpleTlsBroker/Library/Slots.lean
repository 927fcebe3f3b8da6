import SimpleTlsBroker.Library.Terminated

namespace Slots

/-!
# Texts with slots

A text is put together from fixed parts and the values of slots, each of which
is followed by a terminator.  Reading it back takes the fixed parts as they are
and a value up to the next terminator, so that it is in step as long as no
value has a terminator in it.
-/

open Terminated

variable {Value Slot : Type}
variable {stop : Value}
variable {before written : Slot → List Value}
variable {slots : List Slot}
variable {closing : List Value}

/-- The parts in front of the slots, their values, and a last part. -/
def render
    (stop : Value)
    (before written : Slot → List Value)
    (closing : List Value) : List Slot → List Value
  | [] => closing
  | slot :: rest =>
      before slot ++
        (written slot ++ stop :: render stop before written closing rest)

/-- What is in the text behind a slot is in the whole text. -/
theorem infix_render_cons
    {part : List Value}
    (inRest : part <:+: render stop before written closing slots)
    (slot : Slot) :
    part <:+: render stop before written closing (slot :: slots) := by
  rw [render]
  apply List.infix_append_of_infix_right
  apply List.infix_append_of_infix_right
  exact List.infix_cons inRest

variable [DecidableEq Value]

/-- The values that are read from a text, if its fixed parts are there. -/
def read
    (stop : Value)
    (before : Slot → List Value)
    (closing : List Value) : List Slot → List Value → Option (List (List Value))
  | [], page => if page = closing then some [] else none
  | slot :: rest, page =>
      if (before slot).isPrefixOf page then
        let page := page.drop (before slot).length
        let value := text stop page
        match page.drop value.length with
        | [] => none
        | _ :: page =>
            (read stop before closing rest page).map fun values =>
              value :: values
      else
        none

/-- What reading does with a slot. -/
theorem read_cons
    (slot : Slot)
    (rest : List Slot) :
    read stop before closing (slot :: rest)
        (render stop before written closing (slot :: rest)) =
      (read stop before closing rest
          (((written slot ++
              stop :: render stop before written closing rest).drop
            ((text stop (written slot)).length + 1)))).map fun values =>
        text stop (written slot) :: values := by
  have isPrefix :
      (before slot).isPrefixOf
          (before slot ++
            (written slot ++
              stop :: render stop before written closing rest)) =
        true := by
    simp
  have value :=
    text_append_stop stop (written slot)
      (render stop before written closing rest)
  obtain ⟨behind, shape⟩ :=
    drop_text_append_stop stop (written slot)
      (render stop before written closing rest)
  have behindValue :
      (written slot ++ stop :: render stop before written closing rest).drop
          ((text stop (written slot)).length + 1) =
        behind := by
    rw [← List.drop_drop, shape]
    rfl
  rw [behindValue, render]
  simp only [read, if_pos isPrefix, List.drop_left, value, shape]

/-- Values without terminator are read back. -/
theorem read_render
    (free : ∀ slot ∈ slots, stop ∉ written slot) :
    read stop before closing slots
        (render stop before written closing slots) =
      some (slots.map written) := by
  induction slots with
  | nil => simp [read, render]
  | cons slot rest inductionHypothesis =>
      have whole := text_of_not_mem (free slot List.mem_cons_self)
      have later :=
        inductionHypothesis fun other member =>
          free other (List.mem_cons_of_mem slot member)
      rw [read_cons, whole, ← List.drop_drop, List.drop_left,
        List.drop_one, List.tail_cons, later]
      rfl

/--
Reading back and decoding gives the values that are meant, if and only if all
written values are without terminator and are decoded to them.  It is assumed
that no value with a terminator gives the right value by accident.
-/
theorem read_back_iff
    {decode : List Value → List Value}
    {meant : Slot → List Value}
    (honest :
      ∀ slot ∈ slots, decode (text stop (written slot)) = meant slot →
        stop ∉ written slot) :
    (read stop before closing slots
          (render stop before written closing slots)).map
        (List.map decode) =
        some (slots.map meant) ↔
      ∀ slot ∈ slots,
        stop ∉ written slot ∧ decode (written slot) = meant slot := by
  constructor
  · intro readBack
    induction slots with
    | nil => simp
    | cons slot rest inductionHypothesis =>
        rw [read_cons, Option.map_map] at readBack
        obtain ⟨values, isRead, isMeant⟩ :=
          Option.map_eq_some_iff.mp readBack
        rw [Function.comp_apply, List.map_cons, List.map_cons,
          List.cons.injEq] at isMeant
        have free := honest slot List.mem_cons_self isMeant.1
        have whole := text_of_not_mem free
        rw [whole, ← List.drop_drop, List.drop_left, List.drop_one,
          List.tail_cons] at isRead
        rw [whole] at isMeant
        have later :=
          inductionHypothesis
            (fun other member =>
              honest other (List.mem_cons_of_mem slot member))
            (by rw [isRead, Option.map_some, isMeant.2])
        intro other member
        rcases List.mem_cons.mp member with rfl | inRest
        · exact ⟨free, isMeant.1⟩
        · exact later other inRest
  · intro intact
    rw [read_render fun slot member => (intact slot member).1,
      Option.map_some, List.map_map]
    congr 1
    exact List.map_congr_left fun slot member => (intact slot member).2

end Slots
