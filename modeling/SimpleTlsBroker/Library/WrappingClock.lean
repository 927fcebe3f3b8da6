import Mathlib.Tactic.Common

namespace WrappingClock

/-!
# Clocks that wrap

A counter shows the time modulo some number.  The difference of two readings,
computed modulo the same number, is the time between them if that is shorter
than one turn of the counter.
-/

/-- The difference of two readings, as unsigned arithmetic computes it. -/
def difference (modulus later earlier : Nat) : Nat :=
  (later + modulus - earlier) % modulus

/-- The difference of two readings is the time between them. -/
theorem difference_eq
    {modulus now start : Nat}
    (ordered : start ≤ now)
    (short : now - start < modulus) :
    difference modulus (now % modulus) (start % modulus) = now - start := by
  have turns := Nat.div_add_mod start modulus
  have inTurn : start % modulus < modulus := Nat.mod_lt _ (by omega)
  have shifted :
      now + (modulus - start % modulus) =
        (now - start) + modulus * (start / modulus + 1) := by
    rw [Nat.mul_add, Nat.mul_one]
    omega
  calc
    difference modulus (now % modulus) (start % modulus)
        = (now % modulus + (modulus - start % modulus)) % modulus := by
          rw [difference, Nat.add_sub_assoc (Nat.le_of_lt inTurn)]
    _ = (now + (modulus - start % modulus)) % modulus := Nat.mod_add_mod ..
    _ = (now - start) % modulus := by
          rw [shifted, Nat.add_mul_mod_self_left]
    _ = now - start := Nat.mod_eq_of_lt short

/--
A timer that had not run out at the last look at the clock is not a turn old at
the next one.
-/
theorem difference_of_looked
    {modulus duration gap armed lastLook now : Nat}
    (ordered : armed ≤ now)
    (running : lastLook ≤ armed + duration)
    (soon : now < lastLook + gap)
    (enough : duration + gap ≤ modulus) :
    difference modulus (now % modulus) (armed % modulus) = now - armed :=
  difference_eq ordered (by omega)

/-! ## Deadlines as sums

A deadline may also be kept as the reading at which it passes, with zero for
no deadline.  Comparing readings is right only while the clock has not wrapped
since the deadline was set, or has wrapped just as often as the deadline.
-/

/-- The deadline is set and the clock shows more. -/
def Passed (deadline reading : Nat) : Prop :=
  deadline ≠ 0 ∧ reading > deadline

/--
The clock and the deadline are in the same turn.  A deadline that is a whole
number of turns counts as none, so it is only right while it has not passed.
-/
def InTurn (modulus start duration elapsed : Nat) : Prop :=
  if start % modulus + duration = modulus then
    elapsed ≤ duration
  else
    start % modulus + duration < modulus ↔
      start % modulus + elapsed < modulus

instance (modulus start duration elapsed : Nat) :
    Decidable (InTurn modulus start duration elapsed) :=
  inferInstanceAs (Decidable (ite _ _ _))

/-- A sum of less than two turns, as a reading. -/
theorem add_mod_eq
    {modulus duration : Nat}
    (start : Nat)
    (short : duration < modulus) :
    (start + duration) % modulus =
      if start % modulus + duration < modulus then
        start % modulus + duration
      else
        start % modulus + duration - modulus := by
  have inTurn : start % modulus < modulus := Nat.mod_lt _ (by omega)
  rw [← Nat.mod_add_mod]
  split
  · rename_i below
    exact Nat.mod_eq_of_lt below
  · rename_i above
    rw [Nat.mod_eq_sub_mod (Nat.le_of_not_lt above)]
    exact Nat.mod_eq_of_lt (by omega)

/-- The comparison of readings is right exactly in the same turn. -/
theorem passed_iff_inTurn
    {modulus start duration elapsed : Nat}
    (positive : 0 < duration)
    (shortDuration : duration < modulus)
    (shortElapsed : elapsed < modulus) :
    (Passed ((start + duration) % modulus) ((start + elapsed) % modulus) ↔
        duration < elapsed) ↔
      InTurn modulus start duration elapsed := by
  have inTurn : start % modulus < modulus := Nat.mod_lt _ (by omega)
  rw [Passed, InTurn, add_mod_eq start shortDuration,
    add_mod_eq start shortElapsed]
  -- Each of the two sums either wraps or does not.
  by_cases whole : start % modulus + duration = modulus
  · rw [if_pos whole, if_neg (by omega)]
    omega
  · rw [if_neg whole]
    split <;> split <;> omega

end WrappingClock
