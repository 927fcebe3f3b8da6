import Mathlib.Tactic.Common

namespace VarInt

/-!
# Variable-length integers

A number in groups of seven bits, least significant group first.  Every byte
but the last has its top bit set.
-/

/-- The number that a list of groups stands for. -/
def value : List UInt8 → Nat
  | [] => 0
  | byte :: rest => byte.toNat % 128 + 128 * value rest

/-- All bytes but the last one announce a further byte. -/
def WellFormed : List UInt8 → Prop
  | [] => False
  | [byte] => byte.toNat < 128
  | byte :: rest => 128 ≤ byte.toNat ∧ WellFormed rest

/-- The groups in front of a list, up to the first one without top bit. -/
def leading : List UInt8 → List UInt8
  | [] => []
  | byte :: rest =>
      if byte.toNat < 128 then
        [byte]
      else
        byte :: leading rest

/-- The encoding of a number in the fewest bytes. -/
def encode (number : Nat) : List UInt8 :=
  if number < 128 then
    [UInt8.ofNat number]
  else
    UInt8.ofNat (128 + number % 128) :: encode (number / 128)
termination_by number

theorem encode_of_lt
    {number : Nat}
    (small : number < 128) :
    encode number = [UInt8.ofNat number] := by
  rw [encode, if_pos small]

theorem encode_of_ge
    {number : Nat}
    (large : 128 ≤ number) :
    encode number =
      UInt8.ofNat (128 + number % 128) :: encode (number / 128) := by
  rw [encode, if_neg (by omega)]

/-- A byte in front of a well-formed list announces it. -/
theorem WellFormed.cons
    {byte : UInt8}
    {rest : List UInt8}
    (announces : 128 ≤ byte.toNat)
    (wellFormed : WellFormed rest) :
    WellFormed (byte :: rest) := by
  cases rest with
  | nil => exact wellFormed.elim
  | cons next later => exact ⟨announces, wellFormed⟩

/-- A last group behind groups that announce it. -/
theorem wellFormed_concat
    {groups : List UInt8}
    {last : UInt8}
    (announces : ∀ byte ∈ groups, 128 ≤ byte.toNat)
    (isLast : last.toNat < 128) :
    WellFormed (groups ++ [last]) := by
  induction groups with
  | nil => exact isLast
  | cons byte rest inductionHypothesis =>
      apply WellFormed.cons (announces byte List.mem_cons_self)
      apply inductionHypothesis
      exact fun other member =>
        announces other (List.mem_cons_of_mem byte member)

/-- Well-formed groups are found in front of whatever follows. -/
theorem leading_append
    {groups : List UInt8}
    (wellFormed : WellFormed groups)
    (rest : List UInt8) :
    leading (groups ++ rest) = groups := by
  induction groups with
  | nil => exact wellFormed.elim
  | cons byte groups inductionHypothesis =>
      cases groups with
      | nil =>
          have isLast : byte.toNat < 128 := wellFormed
          simp [leading, isLast]
      | cons next later =>
          obtain ⟨announces, wellFormed⟩ := wellFormed
          have notLast : ¬ byte.toNat < 128 := Nat.not_lt.mpr announces
          rw [List.cons_append, leading, if_neg notLast,
            inductionHypothesis wellFormed]

/-- Encodings are well formed. -/
theorem wellFormed_encode (number : Nat) : WellFormed (encode number) := by
  induction number using encode.induct with
  | case1 number small =>
      rw [encode_of_lt small]
      simp only [WellFormed, UInt8.toNat_ofNat']
      omega
  | case2 number large inductionHypothesis =>
      rw [encode_of_ge (by omega)]
      refine WellFormed.cons ?_ inductionHypothesis
      rw [UInt8.toNat_ofNat']
      omega

/-- Every number takes at least one byte. -/
theorem encode_ne_nil (number : Nat) : encode number ≠ [] := by
  intro empty
  have wellFormed := wellFormed_encode number
  rw [empty] at wellFormed
  exact wellFormed

/-- An encoding stands for the number encoded. -/
@[simp] theorem value_encode (number : Nat) : value (encode number) = number := by
  induction number using encode.induct with
  | case1 number small =>
      rw [encode_of_lt small]
      simp only [value, UInt8.toNat_ofNat']
      omega
  | case2 number large inductionHypothesis =>
      rw [encode_of_ge (by omega)]
      simp only [value, inductionHypothesis, UInt8.toNat_ofNat']
      omega

/-- Numbers below `128 ^ 2` take at most two bytes. -/
theorem length_encode_le_two
    {number : Nat}
    (bounded : number < 16384) :
    (encode number).length ≤ 2 := by
  rcases Nat.lt_or_ge number 128 with small | large
  · simp [encode_of_lt small]
  · rw [encode_of_ge large, encode_of_lt (by omega)]
    simp

end VarInt
