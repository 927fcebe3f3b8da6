import Mathlib.Logic.Function.Iterate
import Mathlib.Tactic.Common

namespace Polling

/-!
# Polling loops

A polling loop repeats a step until the step reports that there is nothing to
do.  It takes fuel; it terminates when some amount of fuel is enough.
-/

variable {State : Type}

/-- Repeat a step while it reports work. -/
def loop
    (step : State → Bool × State) : (fuel : Nat) → State → Option State
  | 0, _ => none
  | fuel + 1, state =>
      match step state with
      | (true, state) => loop step fuel state
      | (false, state) => some state

/-- The loop ends. -/
def Terminates
    (step : State → Bool × State)
    (state : State) : Prop :=
  ∃ fuel, (loop step fuel state).isSome

/-- The state after a number of steps, whatever they report. -/
def after
    (step : State → Bool × State)
    (count : Nat)
    (state : State) : State :=
  (fun state => (step state).2)^[count] state

variable {step : State → Bool × State}
variable {state : State}

@[simp] theorem after_zero (state : State) : after step 0 state = state := rfl

theorem after_succ
    (step : State → Bool × State)
    (count : Nat)
    (state : State) :
    after step (count + 1) state = after step count (step state).2 := rfl

theorem after_add
    (step : State → Bool × State)
    (count more : Nat)
    (state : State) :
    after step (count + more) state =
      after step more (after step count state) := by
  rw [Nat.add_comm]
  exact Function.iterate_add_apply _ more count state

/-- A state that a step does not change stays for ever. -/
theorem after_of_fixed
    (fixed : (step state).2 = state)
    (count : Nat) :
    after step count state = state :=
  Function.iterate_fixed fixed count

/-- Without work the loop returns at once. -/
theorem loop_of_idle
    (idle : (step state).1 = false)
    (fuel : Nat) :
    loop step (fuel + 1) state = some (step state).2 := by
  rw [loop]
  generalize step state = polled at idle
  obtain ⟨ready, next⟩ := polled
  dsimp only at idle
  subst idle
  rfl

/-- With work the loop goes on with less fuel. -/
theorem loop_of_busy
    (busy : (step state).1 = true)
    (fuel : Nat) :
    loop step (fuel + 1) state = loop step fuel (step state).2 := by
  rw [loop]
  generalize step state = polled at busy
  obtain ⟨ready, next⟩ := polled
  dsimp only at busy
  subst busy
  rfl

theorem terminates_of_idle
    (idle : (step state).1 = false) :
    Terminates step state :=
  ⟨1, by rw [loop_of_idle idle]; rfl⟩

/-- A round of work does not change whether the loop ends. -/
theorem terminates_of_busy
    (busy : (step state).1 = true) :
    Terminates step state ↔ Terminates step (step state).2 := by
  constructor
  · rintro ⟨fuel, returned⟩
    cases fuel with
    | zero => simp [loop] at returned
    | succ fuel =>
        rw [loop_of_busy busy] at returned
        exact ⟨fuel, returned⟩
  · rintro ⟨fuel, returned⟩
    refine ⟨fuel + 1, ?_⟩
    rw [loop_of_busy busy]
    exact returned

/-- A loop that never runs out of work does not end. -/
theorem loop_of_stays_busy
    {Busy : State → Prop}
    (stays :
      ∀ state, Busy state →
        (step state).1 = true ∧ Busy (step state).2)
    (busy : Busy state)
    (fuel : Nat) :
    loop step fuel state = none := by
  induction fuel generalizing state with
  | zero => rfl
  | succ fuel inductionHypothesis =>
      obtain ⟨ready, stillBusy⟩ := stays state busy
      rw [loop_of_busy ready]
      exact inductionHypothesis stillBusy

theorem not_terminates
    {Busy : State → Prop}
    (stays :
      ∀ state, Busy state →
        (step state).1 = true ∧ Busy (step state).2)
    (busy : Busy state) :
    ¬ Terminates step state := by
  rintro ⟨fuel, returned⟩
  simp [loop_of_stays_busy stays busy] at returned

/-- What the steps preserve holds after any number of them. -/
theorem after_preserves
    {Invariant : State → Prop}
    (preserves : ∀ state, Invariant state → Invariant (step state).2)
    (count : Nat)
    (holds : Invariant state) :
    Invariant (after step count state) := by
  induction count generalizing state with
  | zero => exact holds
  | succ count inductionHypothesis =>
      rw [after_succ]
      exact inductionHypothesis (preserves state holds)

/-- What the steps preserve holds where the loop ends. -/
theorem loop_preserves
    {Invariant : State → Prop}
    (preserves : ∀ state, Invariant state → Invariant (step state).2)
    {fuel : Nat}
    {final : State}
    (returned : loop step fuel state = some final)
    (holds : Invariant state) :
    Invariant final := by
  induction fuel generalizing state with
  | zero => simp [loop] at returned
  | succ fuel inductionHypothesis =>
      have later := preserves state holds
      cases ready : (step state).1 with
      | false =>
          rw [loop_of_idle ready] at returned
          exact Option.some.inj returned ▸ later
      | true =>
          rw [loop_of_busy ready] at returned
          exact inductionHypothesis returned later

end Polling
