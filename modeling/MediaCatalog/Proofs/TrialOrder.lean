import MediaCatalog.Proofs.Failures
/-!
# Failures and the order of rows

Rows are tried until one fails, so which failure is met hangs on their order; but where only one
failure can be met at all, it does not. What is tried before all rows is tried on the first of them,
and asks nothing of it.
-/

namespace MediaCatalog

/-- Every predicate has one truth in both stores. -/
def Store.SameTruth (s t : Store) : Prop := ∀ (p : Predicate) (b : Subject), p.eval s b = p.eval t b

/-! ## Trying tests -/

namespace Test

variable {s t : Store} {b b' : Subject} {u : Test} {ts : List Test} {other : Bool}

theorem conditions_eq : conditions ts = ts.map condition := by
  induction ts with
  | nil => rfl
  | cons u ts ih => rw [conditions, ih]; rfl

theorem failureOfAll_congr (hfailure : ∀ u ∈ ts, u.failure? s other b = u.failure? t other b')
    (htruth : ∀ u ∈ ts, u.condition.eval s b = u.condition.eval t b') :
    failureOfAll s other b ts = failureOfAll t other b' ts := by
  induction ts with
  | nil => rfl
  | cons u ts ih =>
    rw [failureOfAll, failureOfAll, hfailure u (by simp), htruth u (by simp),
      ih (fun v hv => hfailure v (by simp [hv])) fun v hv => htruth v (by simp [hv])]

theorem failureOfAny_congr (hfailure : ∀ u ∈ ts, u.failure? s other b = u.failure? t other b')
    (htruth : ∀ u ∈ ts, u.condition.eval s b = u.condition.eval t b') :
    failureOfAny s other b ts = failureOfAny t other b' ts := by
  induction ts with
  | nil => rfl
  | cons u ts ih =>
    rw [failureOfAny, failureOfAny, hfailure u (by simp), htruth u (by simp),
      ih (fun v hv => hfailure v (by simp [hv])) fun v hv => htruth v (by simp [hv])]

theorem failure?_group_congr {j : Join}
    (hfailure : ∀ u ∈ ts, u.failure? s other b = u.failure? t other b')
    (htruth : ∀ u ∈ ts, u.condition.eval s b = u.condition.eval t b') :
    (group j ts).failure? s other b = (group j ts).failure? t other b' := by
  unfold group
  split
  · exact hfailure _ (by simp)
  · rw [failure?, failure?, failureOfAll_congr hfailure htruth]
  · rw [failure?, failure?, failureOfAny_congr hfailure htruth]

/-- A group of one part is the part. -/
theorem group_eq (j : Join) (ts : List Test) :
    (∃ u, ts = [u] ∧ group j ts = u) ∨
      group j ts = match j with | .all => all ts | .any => any ts := by
  unfold group
  split
  · exact .inl ⟨_, rfl, rfl⟩
  · exact .inr rfl
  · exact .inr rfl

section SameTruth

variable (h : s.SameTruth t)
include h

/-- Of the store a test asks no more than what is true. -/
theorem failure?_of_sameTruth : u.failure? s other b = u.failure? t other b := by
  induction u with
  | single p f => rfl
  | all ts ih => rw [failure?, failure?, failureOfAll_congr ih fun u _ => h u.condition b]
  | any ts ih => rw [failure?, failure?, failureOfAny_congr ih fun u _ => h u.condition b]

theorem attempt_of_sameTruth : u.attempt s b = u.attempt t b := by
  rw [attempt, attempt, failure?_of_sameTruth h, h]

theorem attemptAll_of_sameTruth : attemptAll s b ts = attemptAll t b ts := by
  induction ts with
  | nil => rfl
  | cons u ts ih => rw [attemptAll, attemptAll, attempt_of_sameTruth h, ih]

end SameTruth

end Test

/-! ## Tests that ask nothing of a row -/

namespace Predicate

variable {s : Store} {b b' : Subject} {p : Predicate} {ps : List Predicate} {u : Test}
  {reads : Column → Bool} {j : Join}

theorem anyReads_eq : anyReads reads ps = (ps.map (readsAny reads)).any id := by
  induction ps with
  | nil => rfl
  | cons p ps ih => rw [anyReads, ih]; rfl

/-- The one comparison whose outcome is known is with a name, which is always there. -/
theorem exists_of_isKnown {c : Comparison} (h : c.isKnown = true) :
    ∃ r, c.column = .entity r .name ∧ c.operator = .empty ∧ c.modifier = none := by
  obtain ⟨column, modifier, operator, operand, inverted⟩ := c
  rcases column with _ | _ | ⟨r, _ | _⟩ <;> simp [Comparison.isKnown] at h
  exact ⟨r, rfl, h⟩

/-- A predicate that reads no column has one truth everywhere. -/
theorem eval_of_readsAny (h : p.readsAny (fun _ => true) = false) : p.eval s b = p.eval s b' := by
  induction p with
  | always => rfl
  | never => rfl
  | not p ih => rw [eval, eval, ih h]
  | linked scope filter => cases h
  | all ps ih | any ps ih =>
    have hread : ∀ p ∈ ps, p.readsAny (fun _ => true) = false := by
      simpa [readsAny, anyReads_eq] using h
    have hparts : ps.map (eval s b) = ps.map (eval s b') :=
      List.map_congr_left fun p hp => ih p hp (hread p hp)
    simp only [eval, evalAll_eq, evalAny_eq, hparts]
  | compare c =>
    obtain ⟨r, hcolumn, hop, hmodifier⟩ := exists_of_isKnown (by simpa [readsAny] using h)
    simp [eval, Comparison.eval, Comparison.test, Comparison.subjectCell, hcolumn, hop, hmodifier,
      Modifier.cell, Subject.cell, Cell.isNull]

theorem readsAny_group {ts : List Test} : (Test.group j ts).condition.readsAny reads =
    (ts.map fun t => t.condition.readsAny reads).any id := by
  unfold Test.group
  split
  · simp
  · simp [Test.condition, readsAny, anyReads_eq, Test.conditions_eq, Function.comp_def]
  · simp [Test.condition, readsAny, anyReads_eq, Test.conditions_eq, Function.comp_def]

/-- The condition of a predicate's test reads what the predicate does. -/
theorem readsAny_condition : (p.test s).condition.readsAny reads = p.readsAny reads := by
  induction p with
  | always | never | not p | compare c | linked scope filter => rfl
  | all ps ih | any ps ih =>
    have hparts : ps.map (fun p => (p.test s).condition.readsAny reads) = ps.map (readsAny reads) :=
      List.map_congr_left fun p hp => ih p hp
    rw [test, tests_eq, readsAny_group, List.map_map, readsAny, anyReads_eq, ← hparts]
    rfl

/-- A test that reads nothing fails everywhere in one way. -/
theorem failure?_of_readsAny {other : Bool} (h : p.readsAny (fun _ => true) = false) :
    (p.test s).failure? s other b = (p.test s).failure? s other b' := by
  induction p generalizing other with
  | always | never => rfl
  | not p ih => exact ih h
  | linked scope filter => cases h
  | compare c =>
    obtain ⟨r, hcolumn, hop, -⟩ := exists_of_isKnown (by simpa [readsAny] using h)
    simp [test, Test.failure?, Comparison.failure?, hop]
  | all ps ih | any ps ih =>
    have hread : ∀ p ∈ ps, p.readsAny (fun _ => true) = false := by
      simpa [readsAny, anyReads_eq] using h
    have htests : ∀ u ∈ tests s ps, ∃ p ∈ ps, p.test s = u := by
      rw [tests_eq]
      exact fun u hu => List.mem_map.1 hu
    refine Test.failure?_group_congr (fun u hu => ?_) fun u hu => ?_
    · obtain ⟨p, hp, rfl⟩ := htests u hu
      exact ih p hp (hread p hp)
    · obtain ⟨p, hp, rfl⟩ := htests u hu
      exact eval_of_readsAny (by rw [readsAny_condition, hread p hp])

/-- The parts that all have to hold are tests of predicates themselves. -/
theorem exists_of_mem_conjuncts (h : u ∈ (p.test s).conjuncts) : ∃ q, u = Predicate.test s q := by
  induction p with
  | always | never | not p | compare c | linked scope filter =>
    exact ⟨_, List.mem_singleton.1 h⟩
  | all ps ih =>
    rw [test, tests_eq] at h
    rcases Test.group_eq .all (ps.map (test s)) with ⟨t, ht, hgroup⟩ | hgroup
    · obtain ⟨p, hp, rfl⟩ := List.mem_map.1 (ht ▸ List.mem_singleton_self t)
      exact ih p hp (hgroup ▸ h)
    · rw [hgroup] at h
      simp only [Test.conjuncts, Test.conjunctsOf_eq, List.mem_flatten, List.mem_map] at h
      obtain ⟨_, ⟨_, ⟨p, hp, rfl⟩, rfl⟩, hu⟩ := h
      exact ih p hp hu
  | any ps ih =>
    rcases Test.group_eq .any (ps.map (test s)) with ⟨t, ht, hgroup⟩ | hgroup
    · rw [test, tests_eq] at h
      obtain ⟨p, hp, rfl⟩ := List.mem_map.1 (ht ▸ List.mem_singleton_self t)
      exact ih p hp (hgroup ▸ h)
    · refine ⟨.any ps, ?_⟩
      rw [test, tests_eq, hgroup] at h ⊢
      exact List.mem_singleton.1 h

/-- So are the parts of which one has to hold. -/
theorem exists_of_mem_disjuncts (h : u ∈ (p.test s).disjuncts) : ∃ q, u = Predicate.test s q := by
  induction p with
  | always | never | not p | compare c | linked scope filter =>
    exact ⟨_, List.mem_singleton.1 h⟩
  | any ps ih =>
    rw [test, tests_eq] at h
    rcases Test.group_eq .any (ps.map (test s)) with ⟨t, ht, hgroup⟩ | hgroup
    · obtain ⟨p, hp, rfl⟩ := List.mem_map.1 (ht ▸ List.mem_singleton_self t)
      exact ih p hp (hgroup ▸ h)
    · rw [hgroup] at h
      simp only [Test.disjuncts, Test.disjunctsOf_eq, List.mem_flatten, List.mem_map] at h
      obtain ⟨_, ⟨_, ⟨p, hp, rfl⟩, rfl⟩, hu⟩ := h
      exact ih p hp hu
  | all ps ih =>
    rcases Test.group_eq .all (ps.map (test s)) with ⟨t, ht, hgroup⟩ | hgroup
    · rw [test, tests_eq] at h
      obtain ⟨p, hp, rfl⟩ := List.mem_map.1 (ht ▸ List.mem_singleton_self t)
      exact ih p hp (hgroup ▸ h)
    · refine ⟨.all ps, ?_⟩
      rw [test, tests_eq, hgroup] at h ⊢
      exact List.mem_singleton.1 h

end Predicate

/-! ## Sources -/

namespace Source

variable {src : Source} {outer : Option Subject} {rows : List Candidate} {ts : List Test}
  {s t : Store} {e : StoreError}

/-- The same rows, or others, in the place of those of a source. -/
def withRows (src : Source) (outer : Option Subject) (rows : List Candidate) : Source :=
  { src with outer := outer, rows := rows }

/-! Which tests there are, and how rows are found by them, does not hang on the rows. -/

theorem isEarly_withRows : (src.withRows outer rows).isEarly = src.isEarly := rfl

theorem isLateTest_withRows : (src.withRows outer rows).isLateTest = src.isLateTest := rfl

theorem isShared_withRows : (src.withRows outer rows).isShared = src.isShared := rfl

theorem keyAccess?_withRows : (src.withRows outer rows).keyAccess? = src.keyAccess? := rfl

theorem attemptRow_withRows : (src.withRows outer rows).attemptRow = src.attemptRow := rfl

theorem branchCost?_withRows {branches : List (List Test)} :
    (src.withRows outer rows).branchCost? ts branches = src.branchCost? ts branches := by
  induction branches with
  | nil => rfl
  | cons branch rest ih =>
    cases rest with
    | nil => rfl
    | cons next rest =>
      simp only [branchCost?] at ih ⊢
      rw [ih]
      rfl

theorem route_withRows : (src.withRows outer rows).route ts = src.route ts := by
  have hchoice : (src.withRows outer rows).orChoice ts = src.orChoice ts := by
    funext found choice
    have hcost : (src.withRows outer rows).choiceCost? ts choice.1 =
        src.choiceCost? ts choice.1 := by
      unfold choiceCost?
      split
      · rfl
      · rw [branchCost?_withRows]
    rw [orChoice, hcost, orChoice]
  rw [route, hchoice, route]
  rfl

theorem attemptRow_of_sameTruth (h : s.SameTruth t) {byKey : Bool} {x : Candidate} :
    src.attemptRow s byKey ts x = src.attemptRow t byKey ts x := by
  unfold attemptRow
  dsimp only
  rw [Test.attemptAll_of_sameTruth h, Test.attemptAll_of_sameTruth h]

theorem rowsBy_perm (h : s.SameTruth t) (hrows : src.rows.Perm rows) {a : KeyAccess} :
    (src.rowsBy s a).Perm ((src.withRows outer rows).rowsBy t a) := by
  unfold rowsBy
  simp only [h _ _]
  exact hrows.filter _

/-- Where there is but one failure, the order does not matter in which it is looked for. -/
theorem findSome?_of_perm {α β : Type} {xs ys : List α} {f g : α → Option β} {e : β}
    (hperm : xs.Perm ys) (hsame : ∀ x ∈ xs, f x = g x)
    (hone : ∀ x ∈ xs, ∀ a, f x = some a → a = e) : xs.findSome? f = ys.findSome? g := by
  cases hx : xs.findSome? f with
  | none =>
    rw [List.findSome?_eq_none_iff] at hx
    refine (List.findSome?_eq_none_iff.2 fun y hy => ?_).symm
    have hmem := hperm.mem_iff.2 hy
    rw [← hsame y hmem, hx y hmem]
  | some a =>
    obtain ⟨x, hmem, hfx⟩ := List.exists_of_findSome?_eq_some hx
    obtain rfl := hone x hmem a hfx
    have hy : (ys.findSome? g).isSome = true :=
      List.findSome?_isSome_iff.2 ⟨x, hperm.mem_iff.1 hmem, by rw [← hsame x hmem, hfx]; rfl⟩
    obtain ⟨a', ha'⟩ := Option.isSome_iff_exists.1 hy
    obtain ⟨y, hmem', hgy⟩ := List.exists_of_findSome?_eq_some ha'
    have hmem'' := hperm.mem_iff.2 hmem'
    rw [ha', hone y hmem'' a' (by rw [hsame y hmem'', hgy])]

section Reordered

/- The rows in another order, and something before them on which early tests come out alike. -/
variable (h : s.SameTruth t) (hrows : src.rows.Perm rows)
  (hearly : ∀ ts : List Test, (∀ u ∈ ts, ∃ p, u = Predicate.test s p) →
    src.attemptEarly s ts = (src.withRows outer rows).attemptEarly t ts)
include h hrows hearly

theorem branchFailure?_withRows {branch after : List Test}
    (hbranch : ∀ u ∈ branch, ∃ p, u = Predicate.test s p)
    (hbranchOnly : ∀ u ∈ branch, u.FailsOnly (· = e))
    (hafterOnly : ∀ u ∈ after, u.FailsOnly (· = e)) :
    src.branchFailure? s branch after =
      (src.withRows outer rows).branchFailure? t branch after := by
  unfold branchFailure?
  rw [hearly branch hbranch]
  split
  · rfl
  · simp only [isEarly_withRows, isLateTest_withRows, keyAccess?_withRows, attemptRow_withRows]
    cases src.keyAccess? (branch.filter fun u => !src.isEarly u && !src.isLateTest u) with
    | none => rfl
    | some a =>
      refine findSome?_of_perm (e := e) (rowsBy_perm h hrows) (fun x _ => ?_) fun x _ => ?_
      · simp only [attemptRow_of_sameTruth h]
      · have honly : ∀ u ∈ remaining a (branch.filter fun u => !src.isEarly u && !src.isLateTest u),
            u.FailsOnly (· = e) := fun u hu =>
          hbranchOnly u (List.mem_filter.1 (remaining_subset hu)).1
        exact (attemptRow_only honly).bind (attemptRow_only hafterOnly)

/-- What fails in one order of the rows fails in another. -/
theorem failure?_withRows (htests : ∀ u ∈ ts, ∃ p, u = Predicate.test s p)
    (honly : ∀ u ∈ ts, u.FailsOnly (· = e)) :
    src.failure? s ts = (src.withRows outer rows).failure? t ts := by
  unfold failure?
  rw [hearly ts htests]
  split
  · rfl
  · have hmem : ∀ u ∈ ts.filter (fun u => !src.isEarly u), u ∈ ts :=
      fun u hu => (List.mem_filter.1 hu).1
    rw [isEarly_withRows]
    generalize ts.filter (fun u => !src.isEarly u) = late at hmem ⊢
    have hlate : ∀ u ∈ late, u.FailsOnly (· = e) := fun u hu => honly u (hmem u hu)
    have hlateTests : ∀ u ∈ late, ∃ p, u = Predicate.test s p := fun u hu => htests u (hmem u hu)
    simp only [isLateTest_withRows, isShared_withRows, attemptRow_withRows, route_withRows]
    cases hroute : src.route late with
    | scan =>
      exact findSome?_of_perm (hrows.filter _)
        (fun x _ => congrArg _ (attemptRow_of_sameTruth h)) fun x _ => attemptRow_only hlate
    | key a =>
      exact findSome?_of_perm (rowsBy_perm h hrows)
        (fun x _ => congrArg _ (attemptRow_of_sameTruth h))
        fun x _ => attemptRow_only fun u hu => hlate u (remaining_subset hu)
    | branches place branches =>
      dsimp only
      have honlyParts : ∀ v : Test, v.FailsOnly (· = e) →
          ∀ u ∈ v.disjuncts, ∀ w ∈ u.conjuncts, w.FailsOnly (· = e) :=
        fun v hv u hu => Test.conjuncts_only (Test.disjuncts_only hv u hu)
      have htestParts : ∀ v, (∃ p, v = Predicate.test s p) →
          ∀ u ∈ v.disjuncts, ∀ w ∈ u.conjuncts, ∃ p, w = Predicate.test s p := by
        rintro _ ⟨p, rfl⟩ u hu w hw
        obtain ⟨q, rfl⟩ := Predicate.exists_of_mem_disjuncts hu
        exact Predicate.exists_of_mem_conjuncts hw
      refine findSome?_of_perm (e := e) (.refl _) (fun branch hbranch => ?_) fun branch hbranch a ha => ?_
      · exact branchFailure?_withRows h hrows hearly (forall_branch htestParts hlateTests hroute hbranch)
          (forall_branch honlyParts hlate hroute hbranch) (forall_after hlate)
      · exact branchFailure_only (F := (· = e)) (forall_branch honlyParts hlate hroute hbranch)
          (forall_after hlate) ha

end Reordered

end Source

/-! ## Predicates -/

namespace Predicate

variable {s t : Store} {p : Predicate} {e : StoreError} {catalog : String}

/-- The comparisons of a predicate fail with one error only. -/
def FailsWith (p : Predicate) (e : StoreError) : Prop :=
  ∀ c ∈ p.comparisons, ∀ b e', c.failure? (c.subjectCell b) = some e' → e' = e

theorem failsOnly_of_mem_conjuncts (h : p.FailsWith e) :
    ∀ u ∈ (p.test s).conjuncts, u.FailsOnly (· = e) :=
  Test.conjuncts_only (test_only h)

/-- The test of a predicate is the same in whichever order the things that filters pick from are. -/
theorem test_congr (h : s.SameTruth t) (hentities : s.entities.Perm t.entities)
    (hp : p.FailsWith e) : p.test s = p.test t := by
  induction p with
  | always | never | compare c => rfl
  | not p ih =>
    rw [test, test, ih hp]
    congr 1
    funext other b
    exact Test.failure?_of_sameTruth h
  | all ps ih | any ps ih =>
    have hparts : ps.map (test s) = ps.map (test t) := by
      refine List.map_congr_left fun p hmem => ih p hmem fun c hc => hp c ?_
      rw [comparisons, comparisonsOf_eq]
      exact List.mem_flatten.2 ⟨_, List.mem_map.2 ⟨p, hmem, rfl⟩, hc⟩
    rw [test, test, tests_eq, tests_eq, hparts]
  | linked scope filter ih =>
    rw [test, test, ← ih hp]
    congr 1
    funext other b
    refine Source.failure?_withRows h ((hentities.filter _).map _) (fun ts _ => ?_)
      (fun u => exists_of_mem_conjuncts) (failsOnly_of_mem_conjuncts hp)
    exact Test.attemptAll_of_sameTruth h

/-- What is tried before all rows comes out alike on any of them. -/
theorem attemptAll_early {ts : List Test} {b b' : Subject}
    (hts : ∀ u ∈ ts, ∃ p, u = Predicate.test s p) :
    Test.attemptAll s b (ts.filter (s.source catalog).isEarly) =
      Test.attemptAll s b' (ts.filter (s.source catalog).isEarly) := by
  induction ts with
  | nil => rfl
  | cons u ts ih =>
    have hrest := ih fun v hv => hts v (by simp [hv])
    cases hearly : (s.source catalog).isEarly u with
    | false => rwa [List.filter_cons_of_neg (by simp [hearly])]
    | true =>
      obtain ⟨p, rfl⟩ := hts u (by simp)
      have hread : (p.test s).condition.readsAny (fun _ => true) = false := by
        simp only [Source.isEarly, Bool.and_eq_true, Bool.not_eq_true'] at hearly
        exact hearly.1.1
      have hattempt : (p.test s).attempt s b = (p.test s).attempt s b' := by
        rw [Test.attempt, Test.attempt, eval_of_readsAny hread,
          failure?_of_readsAny (readsAny_condition ▸ hread)]
      rw [List.filter_cons_of_pos hearly, Test.attemptAll, Test.attemptAll, hattempt, hrest]

/-- A predicate that can fail in one way fails alike in whichever order the rows are. -/
theorem failure?_congr (h : s.SameTruth t) (hentities : s.entities.Perm t.entities)
    (hitems : s.items.Perm t.items) (hview : ∀ i ∈ s.items, s.viewRow i = t.viewRow i)
    (hp : p.FailsWith e) : p.failure? s catalog = p.failure? t catalog := by
  have hrows : (s.source catalog).rows.Perm (t.source catalog).rows := by
    have hsame : (s.source catalog).rows = s.items.map fun i =>
        ⟨.ofRow (t.viewRow i), !i.deleted && i.catalog = catalog⟩ :=
      List.map_congr_left fun i hi => by rw [hview i hi]
    rw [hsame]
    exact hitems.map _
  rw [failure?, failure?, ← test_congr h hentities hp]
  refine Source.failure?_withRows h hrows (fun ts hts => ?_) (fun u => exists_of_mem_conjuncts)
    (failsOnly_of_mem_conjuncts hp)
  have houter : (s.source catalog).outer.isSome = (t.source catalog).outer.isSome := by
    simp only [Store.source, Option.isSome_map]
    rw [Bool.eq_iff_iff, List.isSome_head?, List.isSome_head?, ← List.isEmpty_eq_false_iff,
      hitems.isEmpty_eq, List.isEmpty_eq_false_iff]
  change _ = (t.source catalog).attemptEarly t ts
  unfold Source.attemptEarly
  cases hs : (s.source catalog).outer with
  | none =>
    have ht : (t.source catalog).outer = none := by simpa [hs] using houter.symm
    rw [ht]
  | some b =>
    obtain ⟨b', ht⟩ : ∃ b', (t.source catalog).outer = some b' :=
      Option.isSome_iff_exists.1 (by simpa [hs] using houter.symm)
    rw [ht]
    exact (attemptAll_early hts).trans (Test.attemptAll_of_sameTruth h)

end Predicate

end MediaCatalog
