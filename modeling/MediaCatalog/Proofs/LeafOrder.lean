import MediaCatalog.Proofs.Placeholders
import Mathlib.Data.List.Forall2
/-!
# The order of leaves

Negations are pushed down to the leaves of a predicate, and no leaf is lost, repeated or moved on the way. A
leaf may turn into its opposite, and a filter is put into its own normal form, but what is bound is bound in
the same order.
-/

namespace MediaCatalog

/-- What stands where a predicate has no parts: a constant, a comparison or a membership with its filter. -/
inductive Leaf where
  | constant (value : Bool)
  | compare (c : Comparison)
  | linked (scope : LinkScope) (filter : Predicate)

/-- A leaf and what stands in its place in a normal form. A constant, a comparison and a membership may be
turned into their opposites; a filter is in normal form. -/
inductive Leaf.Settles : Leaf → Leaf → Prop
  | constant {value value' : Bool} : Settles (.constant value) (.constant value')
  | compare {c : Comparison} {inverted : Bool} : Settles (.compare c) (.compare { c with inverted })
  | linked {scope : LinkScope} {negated : Bool} {filter : Predicate} :
      Settles (.linked scope filter) (.linked { scope with negated } filter.normalize)

theorem Leaf.Settles.self {c : Comparison} : Settles (.compare c) (.compare c) :=
  @Settles.compare c c.inverted

namespace Predicate

mutual

/-- The leaves of a predicate from left to right. -/
def leaves : Predicate → List Leaf
  | .always => [.constant true]
  | .never => [.constant false]
  | .all ps => leavesOf ps
  | .any ps => leavesOf ps
  | .not p => p.leaves
  | .compare c => [.compare c]
  | .linked scope filter => [.linked scope filter]

def leavesOf : List Predicate → List Leaf
  | [] => []
  | p :: ps => p.leaves ++ leavesOf ps

end

variable {p : Predicate} {ps : List Predicate} {c : Comparison} {negate : Bool}

theorem leavesOf_eq : leavesOf ps = (ps.map leaves).flatten := by
  induction ps with
  | nil => rfl
  | cons p ps ih => rw [leavesOf, ih, List.map_cons, List.flatten_cons]

theorem allLiterals_eq : allLiterals ps = (ps.map literals).flatten := by
  induction ps with
  | nil => rfl
  | cons p ps ih => rw [allLiterals, ih, List.map_cons, List.flatten_cons]

/-! ## Leaves -/

/-- The opposite of a comparison has it as its only leaf, inverted or under a negation. -/
theorem settles_negated : List.Forall₂ Leaf.Settles [.compare c] c.negated.leaves := by
  unfold Comparison.negated
  split
  · exact .cons .self .nil
  · exact .cons .compare .nil

/-- Whether it is negated or not, a predicate keeps its leaves in their places. -/
theorem settles_pushNot : List.Forall₂ Leaf.Settles p.leaves (p.pushNot negate).leaves := by
  induction p generalizing negate with
  | always | never => cases negate <;> exact .cons .constant .nil
  | not p ih => exact ih
  | compare c =>
    cases negate
    · exact .cons .self .nil
    · exact settles_negated
  | linked scope filter => exact .cons .linked .nil
  | all ps ih | any ps ih =>
    -- A group may become its dual, but its parts stay in their places.
    have hparts : List.Forall₂ (List.Forall₂ Leaf.Settles) (ps.map leaves)
        ((ps.map (pushNot negate)).map leaves) := by
      simp only [List.map_map, List.forall₂_map_left_iff, List.forall₂_map_right_iff]
      exact List.forall₂_same.2 fun p hp => ih p hp
    have hjoined := List.rel_flatten hparts
    cases negate <;> simpa [pushNot, leaves, leavesOf_eq, pushNotAll_eq] using hjoined

/-! ## Values -/

/-- The opposite of a comparison is made with the same value. -/
theorem literals_negated : c.negated.literals = c.literals := by
  unfold Comparison.negated
  split <;> rfl

theorem literals_pushNot : (p.pushNot negate).literals = p.literals := by
  induction p generalizing negate with
  | always | never => cases negate <;> rfl
  | not p ih => exact ih
  | compare c =>
    cases negate
    · rfl
    · exact literals_negated
  | linked scope filter ih => rw [pushNot, literals, literals, ih]
  | all ps ih | any ps ih =>
    have hparts : (ps.map (pushNot negate)).map literals = ps.map literals := by
      simpa using fun p hp => ih p hp
    cases negate <;> simp only [pushNot, literals, allLiterals_eq, pushNotAll_eq, hparts, if_true,
      Bool.false_eq_true, if_false]

/-- A predicate and its normal form bind the same values in the same order, and have the same leaves from
left to right. -/
theorem normalize_binds_in_order (p : Predicate) :
    p.normalize.lower.params = p.lower.params ∧
      List.Forall₂ Leaf.Settles p.leaves p.normalize.leaves := by
  refine ⟨?_, settles_pushNot⟩
  rw [params_lower, params_lower]
  exact literals_pushNot

end Predicate

end MediaCatalog
