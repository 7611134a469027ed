import MediaCatalog.Proofs.Hierarchies
import MediaCatalog.Proofs.QueryMeaning
/-!
# The truth that normal forms keep

The truth of predicates is the only one that goes by the rules of its connectives, comparisons and
links, and a predicate and its normal form have the same one of the three truths everywhere. So a
normal form is right of whatever goes by these rules, by any way of coming to it.
-/

namespace MediaCatalog

/-! ## Comparisons -/

namespace Cell

variable {a v : Cell}

theorem order?_eq_none : a.order? v = none ↔ a = .null ∨ v = .null := by
  cases a <;> cases v <;> simp [order?]

/-- The same value, or both missing. -/
def Same (a v : Cell) : Prop := a.order? v = some .eq ∨ a = .null ∧ v = .null

theorem same_iff : a.same v = true ↔ a.Same v := by
  unfold same Same
  cases h : a.order? v with
  | none => simp [isNull]
  | some o =>
    have hnull : ¬(a = .null ∧ v = .null) := fun ⟨ha, _⟩ => by
      rw [order?_eq_none.2 (.inl ha)] at h
      cases h
    simp [hnull]

end Cell

namespace Comparison

/-- A comparison with a cell has a truth by the rule of its operator. Only an order and a pattern
may leave it unknown. -/
structure Says (c : Comparison) (a : Cell) (t : Truth) : Prop where
  empty : c.operator = .empty →
    t ≠ .unknown ∧ (t = .yes ↔ (a = .null ↔ c.inverted = false))
  equal : c.operator = .equal →
    t ≠ .unknown ∧ (t = .yes ↔ (a.Same c.operandCell ↔ c.inverted = false))
  less : c.operator = .less →
    (t = .unknown ↔ a = .null ∨ c.operandCell = .null) ∧
      (t = .yes ↔ ∃ o, a.order? c.operandCell = some o ∧ (o = .lt ↔ c.inverted = false))
  lessOrEqual : c.operator = .lessOrEqual →
    (t = .unknown ↔ a = .null ∨ c.operandCell = .null) ∧
      (t = .yes ↔ ∃ o, a.order? c.operandCell = some o ∧ (o ≠ .gt ↔ c.inverted = false))
  pattern : c.operator.isPattern = true → c.inverted = false → t = c.found a
  /-- An inverted pattern is not found, or there is nothing to find it in. -/
  notPattern : c.operator.isPattern = true → c.inverted = true →
    (t = .yes ↔ c.found a = .no ∨ a = .null) ∧ (t = .no ↔ c.found a = .yes)

variable {c : Comparison} {a v : Cell} {t u : Truth} {holds : Ordering → Bool}

theorem ordered_eq_unknown : ordered holds a v = .unknown ↔ a = .null ∨ v = .null := by
  rw [← Cell.order?_eq_none, ordered]
  cases a.order? v <;> simp [Truth.ofBool_ne_unknown]

theorem ordered_eq_yes : ordered holds a v = .yes ↔ ∃ o, a.order? v = some o ∧ holds o = true := by
  rw [ordered]
  cases a.order? v <;> simp [Truth.ofBool_eq_yes]

theorem says_test : c.Says a (c.test a) where
  empty hop := by
    have htest : c.test a = .ofBool (a.isNull != c.inverted) := by simp [test, hop]
    rw [htest, Truth.ofBool_eq_yes]
    refine ⟨Truth.ofBool_ne_unknown, ?_⟩
    cases c.inverted <;> simp [Cell.isNull]
  equal hop := by
    have htest : c.test a = .ofBool (a.same c.operandCell != c.inverted) := by simp [test, hop]
    rw [htest, Truth.ofBool_eq_yes, ← Cell.same_iff]
    refine ⟨Truth.ofBool_ne_unknown, ?_⟩
    cases c.inverted <;> simp
  less hop := by
    have htest : c.test a = ordered (fun o => (o = .lt) != c.inverted) a c.operandCell := by
      simp [test, hop]
    rw [htest, ordered_eq_yes]
    refine ⟨ordered_eq_unknown, exists_congr fun o => and_congr_right fun _ => ?_⟩
    cases c.inverted <;> simp
  lessOrEqual hop := by
    have htest : c.test a = ordered (fun o => (o ≠ .gt) != c.inverted) a c.operandCell := by
      simp [test, hop]
    rw [htest, ordered_eq_yes]
    refine ⟨ordered_eq_unknown, exists_congr fun o => and_congr_right fun _ => ?_⟩
    cases c.inverted <;> simp
  pattern hop hinv := by rw [test_pattern hop, hinv]; rfl
  notPattern hop hinv := by
    rw [test_pattern hop, hinv, if_pos rfl]
    by_cases ha : a = .null
    · rw [ha, found_null]
      decide
    · have hnull : a.isNull = false := by simpa [Cell.isNull] using ha
      rw [hnull]
      cases c.found a <;> simp [ha, Truth.ofBool, Truth.not, Truth.or]

theorem Says.unique (ht : c.Says a t) (hu : c.Says a u) : t = u := by
  cases hop : c.operator
  case empty =>
    exact Truth.eq_of_yes_of_unknown ((ht.empty hop).2.trans (hu.empty hop).2.symm)
      (iff_of_false (ht.empty hop).1 (hu.empty hop).1)
  case equal =>
    exact Truth.eq_of_yes_of_unknown ((ht.equal hop).2.trans (hu.equal hop).2.symm)
      (iff_of_false (ht.equal hop).1 (hu.equal hop).1)
  case less =>
    exact Truth.eq_of_yes_of_unknown ((ht.less hop).2.trans (hu.less hop).2.symm)
      ((ht.less hop).1.trans (hu.less hop).1.symm)
  case lessOrEqual =>
    exact Truth.eq_of_yes_of_unknown ((ht.lessOrEqual hop).2.trans (hu.lessOrEqual hop).2.symm)
      ((ht.lessOrEqual hop).1.trans (hu.lessOrEqual hop).1.symm)
  all_goals
    have hpattern : c.operator.isPattern = true := by rw [hop]; rfl
    cases hinv : c.inverted
    · rw [ht.pattern hpattern hinv, hu.pattern hpattern hinv]
    · have htrue := ht.notPattern hpattern hinv
      have hfalse := hu.notPattern hpattern hinv
      exact Truth.eq_of_yes_of_no (htrue.1.trans hfalse.1.symm) (htrue.2.trans hfalse.2.symm)

end Comparison

/-! ## Links -/

namespace LinkScope

/-- A media item is linked to something of the scope that is picked, or to what lies below it. -/
def Links (scope : LinkScope) (s : Store) (media : String) (picks : Entity → Prop) : Prop :=
  ∃ l ∈ s.links, l.relation = scope.relation ∧ l.media = media ∧
    ∃ e ∈ s.entities, e.relation = scope.relation ∧ e.catalog = scope.catalog ∧ picks e ∧
      (l.entity = e.id ∨ scope.recursive = true ∧ scope.relation ≠ .person ∧
        s.LeadsUp scope.relation l.entity e.id)

variable {scope : LinkScope} {s : Store} {media : String} {picks : Entity → Bool}

theorem test_iff : scope.test s media
      (((scope.candidates s).filter picks).map (·.id)) = true ↔
    (scope.Links s media (picks · = true) ↔ scope.negated = false) := by
  have hlinks : (s.links.any fun l => l.relation = scope.relation && l.media = media &&
      (scope.targets s (((scope.candidates s).filter picks).map (·.id))).contains l.entity) = true ↔
      scope.Links s media (picks · = true) := by
    simp only [List.any_eq_true, Bool.and_eq_true, decide_eq_true_eq, List.contains_iff_mem,
      Store.mem_targets, List.mem_map, List.mem_filter, candidates, Links]
    refine exists_congr fun l => and_congr_right fun _ => ?_
    rw [and_assoc]
    refine and_congr_right fun _ => and_congr_right fun _ => ⟨?_, ?_⟩
    · rintro ⟨_, ⟨e, ⟨⟨he, hr, hc⟩, hpicks⟩, rfl⟩, hbelow⟩
      exact ⟨e, he, hr, hc, hpicks, hbelow⟩
    · rintro ⟨e, he, hr, hc, hpicks, hbelow⟩
      exact ⟨_, ⟨e, ⟨⟨he, hr, hc⟩, hpicks⟩, rfl⟩, hbelow⟩
  rw [← hlinks, test]
  cases scope.negated <;> simp

end LinkScope

/-! ## Predicates -/

namespace Store

/-- A truth for every predicate on every subject that goes by the rules. -/
structure GoesByRules (s : Store) (truth : Subject → Predicate → Truth) : Prop where
  always : ∀ b, truth b .always = .yes
  never : ∀ b, truth b .never = .no
  not : ∀ b p, (truth b (.not p) = .yes ↔ truth b p = .no) ∧
    (truth b (.not p) = .no ↔ truth b p = .yes)
  all : ∀ b ps, (truth b (.all ps) = .yes ↔ ∀ p ∈ ps, truth b p = .yes) ∧
    (truth b (.all ps) = .no ↔ ∃ p ∈ ps, truth b p = .no)
  any : ∀ b ps, (truth b (.any ps) = .yes ↔ ∃ p ∈ ps, truth b p = .yes) ∧
    (truth b (.any ps) = .no ↔ ∀ p ∈ ps, truth b p = .no)
  compare : ∀ b (c : Comparison), c.Says (c.subjectCell b) (truth b (.compare c))
  /-- A link is there or not, to things of the scope on which the filter is true. -/
  linked : ∀ b (scope : LinkScope) filter, truth b (.linked scope filter) ≠ .unknown ∧
    (truth b (.linked scope filter) = .yes ↔
      (scope.Links s b.row.id (fun e => truth (b.on e) filter = .yes) ↔ scope.negated = false))

variable {s : Store} {truth : Subject → Predicate → Truth}

theorem goesByRules_eval : s.GoesByRules fun b p => p.eval s b where
  always b := rfl
  never b := rfl
  not b p := by
    rw [Predicate.eval]
    cases p.eval s b <;> decide
  all b ps := by simp [Predicate.eval, Predicate.evalAll_eq, Truth.all_eq_yes, Truth.all_eq_no]
  any b ps := by simp [Predicate.eval, Predicate.evalAny_eq, Truth.any_eq_yes, Truth.any_eq_no]
  compare b c := Comparison.says_test
  linked b scope filter := by
    rw [Predicate.eval, Truth.ofBool_eq_yes, LinkScope.test_iff]
    simp [Truth.isYes_iff, Truth.ofBool_ne_unknown]

theorem GoesByRules.unique (h : s.GoesByRules truth) (b : Subject) (p : Predicate) :
    truth b p = p.eval s b := by
  have heval := goesByRules_eval (s := s)
  induction p generalizing b with
  | always => rw [h.always, heval.always]
  | never => rw [h.never, heval.never]
  | not p ih =>
    have hrule := h.not b p
    rw [ih b] at hrule
    exact Truth.eq_of_yes_of_no (hrule.1.trans (heval.not b p).1.symm)
      (hrule.2.trans (heval.not b p).2.symm)
  | all ps ih =>
    have hyes : (∀ p ∈ ps, truth b p = .yes) ↔ ∀ p ∈ ps, p.eval s b = .yes :=
      forall₂_congr fun p hp => by rw [ih p hp]
    have hno : (∃ p ∈ ps, truth b p = .no) ↔ ∃ p ∈ ps, p.eval s b = .no :=
      exists_congr fun p => and_congr_right fun hp => by rw [ih p hp]
    exact Truth.eq_of_yes_of_no ((h.all b ps).1.trans (hyes.trans (heval.all b ps).1.symm))
      ((h.all b ps).2.trans (hno.trans (heval.all b ps).2.symm))
  | any ps ih =>
    have hyes : (∃ p ∈ ps, truth b p = .yes) ↔ ∃ p ∈ ps, p.eval s b = .yes :=
      exists_congr fun p => and_congr_right fun hp => by rw [ih p hp]
    have hno : (∀ p ∈ ps, truth b p = .no) ↔ ∀ p ∈ ps, p.eval s b = .no :=
      forall₂_congr fun p hp => by rw [ih p hp]
    exact Truth.eq_of_yes_of_no ((h.any b ps).1.trans (hyes.trans (heval.any b ps).1.symm))
      ((h.any b ps).2.trans (hno.trans (heval.any b ps).2.symm))
  | compare c => exact (h.compare b c).unique (heval.compare b c)
  | linked scope filter ih =>
    have hfilter : (fun e => truth (b.on e) filter = .yes) =
        fun e => filter.eval s (b.on e) = .yes := funext fun e => by rw [ih]
    have hrule := h.linked b scope filter
    rw [hfilter] at hrule
    exact Truth.eq_of_yes_of_unknown (hrule.2.trans (heval.linked b scope filter).2.symm)
      (iff_of_false hrule.1 (heval.linked b scope filter).1)

/-- The truth of predicates is the one that goes by the rules, and their normal forms keep it. -/
theorem truth_of_normalize (s : Store) :
    (∀ truth, s.GoesByRules truth ↔ truth = fun b p => p.eval s b) ∧
      ∀ (b : Subject) (p : Predicate), p.normalize.eval s b = p.eval s b := by
  refine ⟨fun truth => ⟨fun h => ?_, ?_⟩, fun b p => Predicate.eval_normalize⟩
  · exact funext fun b => funext fun p => h.unique b p
  · rintro rfl
    exact goesByRules_eval

end Store

end MediaCatalog
