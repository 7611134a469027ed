import MediaCatalog.Proofs.Tree
/-!
# What the normal form keeps

A predicate in normal form has the same truth on every subject, speaks of the same things and makes
the same comparisons in the same order, apart from their inversions.
-/

namespace MediaCatalog

namespace Comparison

variable {c : Comparison} {b : Subject}

/-- The comparison without its inversion. -/
def upright (c : Comparison) : Comparison := { c with inverted := false }

@[simp] theorem upright_flipped : c.flipped.upright = c.upright := rfl

theorem ordered_not {holds : Ordering → Bool} {x y : Cell} :
    (ordered holds x y).not = ordered (fun o => !holds o) x y := by
  unfold ordered
  split <;> simp

/-- An operator that looks for no pattern takes a negation into its inversion. -/
theorem eval_flipped (h : c.operator.isPattern = false) : c.flipped.eval b = (c.eval b).not := by
  obtain ⟨column, modifier, operator, operand, inverted⟩ := c
  cases operator <;> simp only [Operator.isPattern, reduceCtorEq] at h
  all_goals
    simp only [eval, flipped, test, subjectCell, operandCell, boundCell, ordered_not,
      Truth.not_ofBool]
    cases inverted <;> simp

theorem eval_negated (s : Store) : c.negated.eval s b = (c.eval b).not := by
  unfold negated
  split
  · rfl
  · exact eval_flipped (by simp_all)

end Comparison

namespace Predicate

variable {s : Store} {b : Subject} {negate : Bool} {p : Predicate}

/-! ## Truth -/

/-- Pushing a negation down gives the opposite truth, and else the same one. -/
theorem eval_pushNot : (p.pushNot negate).eval s b = (p.eval s b).invertIf negate := by
  induction p generalizing negate b with
  | always => cases negate <;> rfl
  | never => cases negate <;> rfl
  | compare c => cases negate <;> simp [pushNot, Truth.invertIf, Comparison.eval_negated, eval]
  | not p ih => cases negate <;> simp [pushNot, ih, Truth.invertIf, eval]
  -- A group that is negated becomes its dual, with its parts negated.
  | all ps ih =>
    have hparts : (ps.map (pushNot negate)).map (eval s b)
        = (ps.map (eval s b)).map (Truth.invertIf negate) := by
      simpa using fun p hp => ih p hp
    cases negate
    · simp [pushNot, eval, evalAll_eq, pushNotAll_eq, hparts, Truth.invertIf, Function.comp_def]
    · simp [pushNot, eval, evalAll_eq, evalAny_eq, pushNotAll_eq, hparts, Truth.invertIf,
        Truth.not_all, Function.comp_def]
  | any ps ih =>
    have hparts : (ps.map (pushNot negate)).map (eval s b)
        = (ps.map (eval s b)).map (Truth.invertIf negate) := by
      simpa using fun p hp => ih p hp
    cases negate
    · simp [pushNot, eval, evalAny_eq, pushNotAll_eq, hparts, Truth.invertIf, Function.comp_def]
    · simp [pushNot, eval, evalAll_eq, evalAny_eq, pushNotAll_eq, hparts, Truth.invertIf,
        Truth.not_any, Function.comp_def]
  -- A filter is put into its own normal form; the negation stays on the link.
  | linked scope filter ih =>
    have hfilter : ∀ b, (filter.pushNot false).eval s b = filter.eval s b := fun b => ih
    cases negate <;>
      simp [pushNot, eval, hfilter, LinkScope.test, LinkScope.candidates, LinkScope.targets,
        Truth.invertIf]

/-- The normal form is true, false and unknown where the predicate is. -/
theorem eval_normalize : p.normalize.eval s b = p.eval s b := eval_pushNot

/-! ## Comparisons -/

mutual

/-- The comparisons of a predicate from left to right, those in filters included. -/
def comparisons : Predicate → List Comparison
  | .always | .never => []
  | .all ps => comparisonsOf ps
  | .any ps => comparisonsOf ps
  | .not p => p.comparisons
  | .compare c => [c]
  | .linked _ filter => filter.comparisons

def comparisonsOf : List Predicate → List Comparison
  | [] => []
  | p :: ps => p.comparisons ++ comparisonsOf ps

end

theorem comparisonsOf_eq {ps : List Predicate} : comparisonsOf ps = (ps.map comparisons).flatten := by
  induction ps with
  | nil => rfl
  | cons p ps ih => rw [comparisonsOf, ih]; rfl

/-- The same comparisons in the same order, apart from their inversions. -/
theorem comparisons_pushNot :
    (p.pushNot negate).comparisons.map Comparison.upright
      = p.comparisons.map Comparison.upright := by
  induction p generalizing negate with
  | always => cases negate <;> rfl
  | never => cases negate <;> rfl
  | compare c =>
    cases negate
    · rfl
    · simp only [pushNot, Comparison.negated, if_true]; split <;> rfl
  | not p ih => exact ih
  | linked scope filter ih => exact ih
  | all ps ih | any ps ih =>
    have hparts : ps.map (List.map Comparison.upright ∘ comparisons ∘ pushNot negate)
        = ps.map (List.map Comparison.upright ∘ comparisons) :=
      List.map_congr_left fun p hp => ih p hp
    cases negate <;> simp only [pushNot, if_true, Bool.false_eq_true, if_false, comparisons,
      comparisonsOf_eq, pushNotAll_eq, List.map_flatten, List.map_map, hparts]

end Predicate

end MediaCatalog
