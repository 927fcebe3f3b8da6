import Mathlib.Tactic.Common

namespace Chains

/-!
# Chains of pointers

Every node points to another one or to none.  A function that follows the
pointers returns if the chain ends; with fuel it returns when the fuel is
enough to get there.
-/

variable {Node : Type}

/-- Following the pointers comes to a node without one. -/
inductive Ends (next : Node → Option Node) : Node → Prop where
  | stop
      {node : Node}
      (last : next node = none) :
      Ends next node
  | hop
      {node following : Node}
      (linked : next node = some following)
      (ends : Ends next following) :
      Ends next node

/-- Is the fuel enough to visit every node of the chain? -/
def walks (next : Node → Option Node) : (fuel : Nat) → Node → Bool
  | 0, _ => false
  | fuel + 1, node =>
      match next node with
      | some following => walks next fuel following
      | none => true

variable {next : Node → Option Node}
variable {node following : Node}

theorem walks_of_last
    (last : next node = none)
    (fuel : Nat) :
    walks next (fuel + 1) node = true := by
  rw [walks, last]

theorem walks_of_linked
    (linked : next node = some following)
    (fuel : Nat) :
    walks next (fuel + 1) node = walks next fuel following := by
  rw [walks, linked]

/-- A chain ends if and only if some fuel is enough. -/
theorem ends_iff_walks : Ends next node ↔ ∃ fuel, walks next fuel node := by
  constructor
  · intro ends
    induction ends with
    | stop last => exact ⟨1, walks_of_last last 0⟩
    | hop linked _ inductionHypothesis =>
        obtain ⟨fuel, enough⟩ := inductionHypothesis
        exact ⟨fuel + 1, (walks_of_linked linked fuel).trans enough⟩
  · rintro ⟨fuel, enough⟩
    induction fuel generalizing node with
    | zero => simp [walks] at enough
    | succ fuel inductionHypothesis =>
        cases linked : next node with
        | none => exact .stop linked
        | some following =>
            rw [walks_of_linked linked] at enough
            exact .hop linked (inductionHypothesis enough)

/-- A chain that stays among nodes with pointers does not end. -/
theorem not_ends
    {Inside : Node → Prop}
    (stays :
      ∀ node, Inside node →
        ∃ following, next node = some following ∧ Inside following)
    (inside : Inside node) :
    ¬ Ends next node := by
  intro ends
  induction ends with
  | @stop node last =>
      obtain ⟨following, linked, _⟩ := stays node inside
      rw [last] at linked
      contradiction
  | @hop node following linked _ inductionHypothesis =>
      obtain ⟨other, same, insideOther⟩ := stays node inside
      obtain rfl : following = other :=
        Option.some.inj (linked.symm.trans same)
      exact inductionHypothesis insideOther

end Chains
