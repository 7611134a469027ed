import MediaCatalog.Proofs.Tree
/-!
# Predicates that normalization leaves as they are

What is checked of a normal form and what is done to get one are defined apart. They meet: every result
passes the check, and what passes it is its own normal form. Two passes are one, whose negation is that
of either alone.
-/

namespace MediaCatalog

@[simp] theorem Comparison.flipped_flipped {c : Comparison} : c.flipped.flipped = c := by
  simp [flipped]

namespace Predicate

variable {p : Predicate} {ps : List Predicate} {c : Comparison}
  {negate inner outer : Bool}

theorem allNormalized_eq : allNormalized ps = ps.all isNormalized := by
  induction ps with
  | nil => rfl
  | cons p ps ih => rw [allNormalized, ih, List.all_cons]

/-- A negation is in normal form where it stands at a comparison with a pattern. -/
theorem isNormalized_not : (not p).isNormalized = true ↔
    ∃ c, p = compare c ∧ c.operator.isPattern = true := by
  cases p <;> simp [isNormalized]

/-! ## What a pass does at the leaves -/

theorem isNormalized_negated : c.negated.isNormalized = true := by
  unfold Comparison.negated
  split
  · assumption
  · rfl

/-- A pass over an opposite. One that looks for a pattern loses its negation again, any other its
inversion. -/
theorem pushNot_negated : c.negated.pushNot negate = (compare c).pushNot (!negate) := by
  unfold Comparison.negated
  split
  next hpattern => rfl
  next hplain =>
    have hflipped : c.flipped.operator.isPattern = c.operator.isPattern := rfl
    cases negate <;> simp [pushNot, Comparison.negated, hflipped, hplain]

/-! ## What a pass does -/

/-- Whatever is pushed down, nothing is negated in the end but comparisons with a pattern. -/
theorem isNormalized_pushNot : (p.pushNot negate).isNormalized = true := by
  induction p generalizing negate with
  | always | never => cases negate <;> rfl
  | not p ih => exact ih
  | compare c =>
    cases negate
    · rfl
    · exact isNormalized_negated
  | linked scope filter ih => exact ih
  | all ps ih | any ps ih =>
    have hparts : (pushNotAll negate ps).all isNormalized = true := by
      simpa [pushNotAll_eq] using fun p hp => ih p hp
    cases negate <;> simpa [pushNot, isNormalized, allNormalized_eq] using hparts

/-- A predicate in normal form has nothing to push down. -/
theorem pushNot_of_isNormalized (h : p.isNormalized = true) : p.pushNot false = p := by
  induction p with
  | always => rfl
  | never => rfl
  | compare c => rfl
  | not p =>
    obtain ⟨c, rfl, hpattern⟩ := isNormalized_not.1 h
    simp [pushNot, Comparison.negated, hpattern]
  | linked scope filter ih => simp [pushNot, ih h]
  | all ps ih | any ps ih =>
    simp only [isNormalized, allNormalized_eq, List.all_eq_true] at h
    have hparts : ps.map (pushNot false) = ps.map id :=
      List.map_congr_left fun p hp => ih p hp (h p hp)
    simp [pushNot, pushNotAll_eq, hparts]

/-- One pass after another is a single one. Two negations that are pushed down cancel each other. -/
theorem pushNot_pushNot : (p.pushNot inner).pushNot outer = p.pushNot (inner != outer) := by
  induction p generalizing inner outer with
  | always | never => cases inner <;> cases outer <;> rfl
  | not p ih => cases inner <;> cases outer <;> exact ih
  | compare c =>
    cases inner
    · simp [pushNot]
    · have hnegated : (compare c).pushNot true = c.negated := rfl
      rw [hnegated, pushNot_negated]
      simp
  | linked scope filter ih => simp [pushNot, ih]
  | all ps ih | any ps ih =>
    have hparts : (ps.map (pushNot inner)).map (pushNot outer) = ps.map (pushNot (inner != outer)) := by
      simpa using fun p hp => ih p hp
    cases inner <;> cases outer <;> simp_all [pushNot, pushNotAll_eq]

/-- Every predicate has a normal form, and those in normal form are the ones that normalization leaves as
they are. So a second pass changes nothing, and a negation may be put around a predicate before it is
normalized or after. -/
theorem isNormalized_iff_normalize_eq (p : Predicate) :
    p.normalize.isNormalized = true ∧ (p.isNormalized = true ↔ p.normalize = p) ∧
      p.normalize.normalize = p.normalize ∧ (not p).normalize = (not p.normalize).normalize := by
  have hnormal : p.normalize.isNormalized = true := isNormalized_pushNot
  refine ⟨hnormal, ⟨pushNot_of_isNormalized, fun h => ?_⟩, pushNot_of_isNormalized hnormal, ?_⟩
  · rwa [h] at hnormal
  · have honce : (p.pushNot false).pushNot true = p.pushNot true := pushNot_pushNot
    exact honce.symm

end Predicate

end MediaCatalog
