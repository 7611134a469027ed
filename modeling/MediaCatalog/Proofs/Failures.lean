import MediaCatalog.Proofs.NormalForm
import Mathlib.Tactic.Common
/-!
# Where failures come from

However the rows are found and in whatever order the conditions are tried, a predicate fails only
with the failure of one of its comparisons on a cell of that comparison's column.
-/

namespace MediaCatalog

namespace Test

/-- Induction with a hypothesis for each part of a group. -/
@[induction_eliminator]
theorem induction {motive : Test → Prop} (single : ∀ p f, motive (.single p f))
    (all : ∀ ts, (∀ t ∈ ts, motive t) → motive (.all ts))
    (any : ∀ ts, (∀ t ∈ ts, motive t) → motive (.any ts)) : ∀ t, motive t :=
  Test.rec (motive_2 := fun ts => ∀ t ∈ ts, motive t) single all any (by simp) (by simp_all)

variable {F : StoreError → Prop} {s : Store} {b : Subject} {t u : Test} {ts : List Test}
  {e : StoreError} {other : Bool}

mutual

/-- Every failure of a test is one of some kinds. -/
def FailsOnly (F : StoreError → Prop) : Test → Prop
  | single _ f => ∀ other b e, f other b = some e → F e
  | all ts => FailOnly F ts
  | any ts => FailOnly F ts

def FailOnly (F : StoreError → Prop) : List Test → Prop
  | [] => True
  | t :: ts => FailsOnly F t ∧ FailOnly F ts

end

theorem failOnly_iff : FailOnly F ts ↔ ∀ t ∈ ts, FailsOnly F t := by
  induction ts with
  | nil => simp [FailOnly]
  | cons t ts ih => simp [FailOnly, ih]

/-! ## Trying tests -/

theorem failureOfAll_only (h : ∀ t ∈ ts, ∀ e, t.failure? s other b = some e → F e)
    (he : failureOfAll s other b ts = some e) : F e := by
  induction ts with
  | nil => simp [failureOfAll] at he
  | cons t ts ih =>
    simp only [failureOfAll, Option.or_eq_some_iff] at he
    rcases he with he | ⟨-, he⟩
    · exact h t (by simp) e he
    · split at he
      · exact ih (fun u hu => h u (by simp [hu])) he
      · cases he

theorem failureOfAny_only (h : ∀ t ∈ ts, ∀ e, t.failure? s other b = some e → F e)
    (he : failureOfAny s other b ts = some e) : F e := by
  induction ts with
  | nil => simp [failureOfAny] at he
  | cons t ts ih =>
    simp only [failureOfAny, Option.or_eq_some_iff] at he
    rcases he with he | ⟨-, he⟩
    · exact h t (by simp) e he
    · split at he
      · cases he
      · exact ih (fun u hu => h u (by simp [hu])) he

theorem failure_only (h : t.FailsOnly F) : ∀ e, t.failure? s other b = some e → F e := by
  induction t with
  | single p f => exact fun e he => h other b e he
  | all ts ih =>
    intro e he
    rw [failure?] at he
    split at he
    · cases he
    · exact failureOfAll_only (fun t ht => ih t ht (failOnly_iff.1 h t ht)) he
  | any ts ih =>
    intro e he
    rw [failure?] at he
    split at he
    · cases he
    · exact failureOfAny_only (fun t ht => ih t ht (failOnly_iff.1 h t ht)) he

/-- Every failure of a trial is one of some kinds. -/
def Trial.FailsOnly (F : StoreError → Prop) (r : Trial) : Prop := ∀ e, r.failure? = some e → F e

theorem Trial.FailsOnly.bind {r : Trial} {f : Unit → Trial} (hr : r.FailsOnly F)
    (hf : (f ()).FailsOnly F) : Trial.FailsOnly F (Except.bind r f) := by
  cases r with
  | error e => exact hr
  | ok x => exact hf

theorem attempt_only (h : t.FailsOnly F) : (t.attempt s b).FailsOnly F := by
  unfold attempt
  cases hf : t.failure? s false b with
  | some e =>
    rintro _ ⟨⟩
    exact failure_only h e hf
  | none =>
    dsimp only
    split
    · rintro _ ⟨⟩
    · rintro _ ⟨⟩

theorem attemptAll_only (h : ∀ t ∈ ts, t.FailsOnly F) : (attemptAll s b ts).FailsOnly F := by
  induction ts with
  | nil => rintro _ ⟨⟩
  | cons t ts ih =>
    exact (attempt_only (h t (by simp))).bind (ih fun u hu => h u (by simp [hu]))

/-! ## Taking groups apart -/

theorem conjunctsOf_eq : conjunctsOf ts = (ts.map conjuncts).flatten := by
  induction ts with
  | nil => rfl
  | cons t ts ih => rw [conjunctsOf, ih]; rfl

theorem disjunctsOf_eq : disjunctsOf ts = (ts.map disjuncts).flatten := by
  induction ts with
  | nil => rfl
  | cons t ts ih => rw [disjunctsOf, ih]; rfl

theorem conjuncts_only (h : t.FailsOnly F) : ∀ u ∈ t.conjuncts, u.FailsOnly F := by
  induction t with
  | single p f => simpa [conjuncts] using h
  | any ts ih => simpa [conjuncts] using h
  | all ts ih =>
    simp only [conjuncts, conjunctsOf_eq, List.mem_flatten, List.mem_map]
    rintro u ⟨_, ⟨t, ht, rfl⟩, hu⟩
    exact ih t ht (failOnly_iff.1 h t ht) u hu

theorem disjuncts_only (h : t.FailsOnly F) : ∀ u ∈ t.disjuncts, u.FailsOnly F := by
  induction t with
  | single p f => simpa [disjuncts] using h
  | all ts ih => simpa [disjuncts] using h
  | any ts ih =>
    simp only [disjuncts, disjunctsOf_eq, List.mem_flatten, List.mem_map]
    rintro u ⟨_, ⟨t, ht, rfl⟩, hu⟩
    exact ih t ht (failOnly_iff.1 h t ht) u hu

theorem group_only {j : Join} (h : ∀ t ∈ ts, t.FailsOnly F) : (group j ts).FailsOnly F := by
  unfold group
  split
  · exact h _ (by simp)
  · exact failOnly_iff.2 h
  · exact failOnly_iff.2 h

end Test

namespace Source

variable {F : StoreError → Prop} {src : Source} {s : Store} {ts : List Test} {e : StoreError}

open Test (FailsOnly Trial)

theorem attemptRow_only {byKey : Bool} {x : Candidate} (h : ∀ t ∈ ts, t.FailsOnly F) :
    (src.attemptRow s byKey ts x).FailsOnly F := by
  -- In whatever order the tests are tried, they are those of the list.
  have hmem : ∀ t, t ∈ (src.inOrder byKey ts).1 ∨ t ∈ (src.inOrder byKey ts).2 → t ∈ ts := by
    intro t ht
    simp only [inOrder, List.partition_eq_filter_filter, List.mem_append, List.mem_filter] at ht
    rcases ht with ht | (ht | ht) | ht
    · exact ht.1.1.1
    · exact ht.1.1.1
    · exact ht.1.1
    · exact ht.1
  refine (Test.attemptAll_only fun t ht => h t (hmem t (.inl ht))).bind ?_
  split
  · exact Test.attemptAll_only fun t ht => h t (hmem t (.inr ht))
  · rintro _ ⟨⟩

theorem attemptEarly_only (h : ∀ t ∈ ts, t.FailsOnly F) : (src.attemptEarly s ts).FailsOnly F := by
  unfold attemptEarly
  split
  · exact Test.attemptAll_only fun t ht => h t (List.mem_filter.1 ht).1
  · rintro _ ⟨⟩

theorem remaining_subset {a : KeyAccess} : remaining a ts ⊆ ts := by
  unfold remaining
  split
  · exact List.Subset.refl _
  · exact fun _ ht => (List.mem_filter.1 ht).1

theorem findSome_only {α : Type} {xs : List α} {f : α → Option StoreError}
    (h : ∀ x ∈ xs, ∀ e, f x = some e → F e) (he : xs.findSome? f = some e) : F e := by
  obtain ⟨x, hx, hfx⟩ := List.exists_of_findSome?_eq_some he
  exact h x hx e hfx

theorem branchFailure_only {branch after : List Test} (hb : ∀ t ∈ branch, t.FailsOnly F)
    (ha : ∀ t ∈ after, t.FailsOnly F) (he : src.branchFailure? s branch after = some e) : F e := by
  unfold branchFailure? at he
  split at he
  next r hr => exact attemptEarly_only hb e (by rw [hr]; exact he)
  next =>
    dsimp only at he
    split at he
    · cases he
    next a _ =>
      refine findSome_only (fun x _ => ?_) he
      refine (attemptRow_only fun t ht => ?_).bind (attemptRow_only ha)
      exact hb t (List.mem_filter.1 (remaining_subset ht)).1

/-- The branches of a way to the rows are those of one of the tests. -/
def Route.IsOf (ts : List Test) (route : Route) : Prop :=
  ∀ place branches, route = .branches place branches →
    ∃ t ∈ ts, branches = t.disjuncts.map Test.conjuncts

theorem orChoice_isOf {found : Route × Nat} {choice : Test × Nat} (h : found.1.IsOf ts)
    (hc : choice.1 ∈ ts) : (src.orChoice ts found choice).1.IsOf ts := by
  unfold orChoice
  split
  · split
    · rintro _ _ ⟨⟩
      exact ⟨choice.1, hc, rfl⟩
    · exact h
  · exact h

theorem route_isOf : (src.route ts).IsOf ts := by
  unfold route
  refine List.foldlRecOn ts.zipIdx (src.orChoice ts) (motive := fun found => found.1.IsOf ts) ?_ ?_
  · split <;> rintro _ _ ⟨⟩
  · rintro found hfound ⟨t, n⟩ ht
    exact orChoice_isOf hfound (List.fst_mem_of_mem_zipIdx ht)

/-- What holds of the tests, and of the parts of each of them, holds of those that are tried in a branch:
these are of one test, and the others are tried in each branch. -/
theorem forall_branch {P : Test → Prop} {place : Nat} {branches : List (List Test)}
    (hparts : ∀ t, P t → ∀ u ∈ t.disjuncts, ∀ v ∈ u.conjuncts, P v) (hts : ∀ t ∈ ts, P t)
    (hroute : src.route ts = .branches place branches) {branch : List Test} (hbranch : branch ∈ branches) :
    ∀ t ∈ branch ++ (ts.eraseIdx place).filter src.isShared, P t := by
  obtain ⟨choice, hchoice, rfl⟩ := route_isOf _ _ hroute
  obtain ⟨u, hu, rfl⟩ := List.mem_map.1 hbranch
  intro t ht
  rcases List.mem_append.1 ht with ht | ht
  · exact hparts choice (hts choice hchoice) u hu t ht
  · exact hts t (List.mem_of_mem_eraseIdx (List.mem_filter.1 ht).1)

theorem forall_after {P : Test → Prop} {place : Nat} (hts : ∀ t ∈ ts, P t) :
    ∀ t ∈ (if ts[place]?.any src.isLateTest then ts else ts.eraseIdx place), P t := by
  split
  · exact hts
  · exact fun t ht => hts t (List.mem_of_mem_eraseIdx ht)

/-- A failure met while rows are looked for is that of one of the tests. -/
theorem failure_only (h : ∀ t ∈ ts, t.FailsOnly F) (he : src.failure? s ts = some e) : F e := by
  unfold failure? at he
  split at he
  next r hr => exact attemptEarly_only h e (by rw [hr]; exact he)
  next =>
    have hlate : ∀ t ∈ ts.filter (fun t => !src.isEarly t), t.FailsOnly F :=
      fun t ht => h t (List.mem_filter.1 ht).1
    generalize ts.filter (fun t => !src.isEarly t) = late at he hlate
    dsimp only at he
    split at he
    · exact findSome_only (fun x _ => attemptRow_only hlate) he
    · exact findSome_only
        (fun x _ => attemptRow_only fun t ht => hlate t (remaining_subset ht)) he
    next place branches hroute =>
      refine findSome_only (fun branch hbranch e he => ?_) he
      have htried := forall_branch (fun t ht u hu => Test.conjuncts_only (Test.disjuncts_only ht u hu))
        hlate hroute hbranch
      exact branchFailure_only htried (forall_after hlate) he

/-! ## One comparison -/

section Single

variable {t : Test} {c : Comparison}

/-- Rows are gone through one by one for a comparison with another column than the key. -/
theorem route_compare (hc : t.condition = .compare c) (hkey : c.column ≠ src.key)
    (ht : t.disjuncts = [t]) : src.route [t] = .scan := by
  have hkeys : src.keyAccess? [t] = none := by
    simp [keyAccess?, keys, hc, Comparison.bound?, hkey, KeyAccess.ofKeys?, KeyAccess.lower?,
      KeyAccess.upper?]
  simp [route, hkeys, orChoice, choiceCost?, ht, List.zipIdx]

theorem inOrder_single : src.inOrder false [t] = ([], [t]) := by
  unfold inOrder
  cases hl : src.isLateTest t
  · cases hv : t.condition.varies <;> simp [hl, hv, List.partition_eq_filter_filter]
  · simp [hl, List.partition_eq_filter_filter]

theorem attemptRow_failure {x : Candidate} (hx : x.isAdmitted = true)
    (h : t.failure? s false x.subject = some e) :
    (src.attemptRow s false [t] x).failure? = some e := by
  have hattempt : t.attempt s x.subject = .error (some e) := by rw [Test.attempt, h]
  have hall : Test.attemptAll s x.subject [t] = .error (some e) := by
    rw [Test.attemptAll, hattempt]
    rfl
  unfold attemptRow
  rw [inOrder_single]
  dsimp only
  rw [hx, if_pos rfl, hall]
  rfl

/-- A comparison that fails everywhere fails on the first row that is admitted. -/
theorem failure_compare (hc : t.condition = .compare c) (hkey : c.column ≠ src.key)
    (hearly : src.isEarly t = false) (ht : t.disjuncts = [t])
    (hfails : ∀ b, t.failure? s false b = some e)
    (hrows : src.rows.filter (·.isAdmitted) ≠ []) : src.failure? s [t] = some e := by
  obtain ⟨x, xs, hxs⟩ := List.exists_cons_of_ne_nil hrows
  have hx : x.isAdmitted = true := (List.mem_filter.1 (hxs ▸ List.mem_cons_self)).2
  have hbefore : src.attemptEarly s [t] = .ok () := by
    unfold attemptEarly
    cases src.outer <;> simp [hearly, Test.attemptAll]
  have hafter : [t].filter (fun t => !src.isEarly t) = [t] := by simp [hearly]
  unfold failure?
  rw [hbefore]
  simp only [hafter, route_compare hc hkey ht, hxs, List.findSome?_cons,
    attemptRow_failure hx (hfails x.subject)]
end Single

end Source

namespace Predicate

variable {F : StoreError → Prop} {s : Store} {p : Predicate} {e : StoreError} {catalog : String}

/-- A test of a predicate fails only where one of its comparisons does. -/
theorem test_only (h : ∀ c ∈ p.comparisons, ∀ b e, c.failure? (c.subjectCell b) = some e → F e) :
    (p.test s).FailsOnly F := by
  induction p with
  | always => simp [test, Test.FailsOnly]
  | never => simp [test, Test.FailsOnly]
  | compare c =>
    exact fun _ b e he => h c (by simp [comparisons]) b e he
  | not p ih =>
    exact fun other b e he => Test.failure_only (ih h) e he
  -- The filter is tried on rows of its own, where it fails as its comparisons do.
  | linked scope filter ih =>
    exact fun _ b e he => Source.failure_only (Test.conjuncts_only (ih h)) he
  | all ps ih | any ps ih =>
    simp only [comparisons, comparisonsOf_eq, List.mem_flatten, List.mem_map] at h
    rw [test, tests_eq]
    refine Test.group_only fun t ht => ?_
    obtain ⟨p, hp, rfl⟩ := List.mem_map.1 ht
    exact ih p hp fun c hc => h c ⟨_, ⟨p, hp, rfl⟩, hc⟩

/-- A predicate fails on the rows of a catalog only where one of its comparisons does. -/
theorem failure_only (h : ∀ c ∈ p.comparisons, ∀ b e, c.failure? (c.subjectCell b) = some e → F e)
    (he : p.failure? s catalog = some e) : F e :=
  Source.failure_only (Test.conjuncts_only (test_only h)) he

/-- A comparison with a column of the metadata that fails on every cell fails on the first row that
is shown. -/
theorem failure_compare {c : Comparison} (hcolumn : c.column.isMetadata = true)
    (hfails : ∀ a, c.failure? a = some e) (hshown : s.view catalog ≠ []) :
    (Predicate.compare c).failure? s catalog = some e := by
  obtain ⟨column, modifier, operator, operand, inverted⟩ := c
  cases column with
  | mediaId => cases hcolumn
  | entity r f => cases hcolumn
  | media f =>
    refine Source.failure_compare rfl (by simp [Store.source]) rfl rfl (fun b => hfails _) ?_
    simpa [Store.source, Store.view, List.filter_map, Function.comp_def] using hshown
end Predicate

end MediaCatalog
