import MediaCatalog.Proofs.Hierarchies
import Mathlib.Data.List.Chain
import Mathlib.Data.List.Perm.Subperm
/-!
# Breadcrumbs

The path from the root of a hierarchy down to a row, on every table whose rows are told apart by their
ids. Following the parents of a row comes to a row without a parent, to an id without a row, or back to
where it has been. There is a path in the first case and in the last, and none in the second.
-/

namespace MediaCatalog.Store

variable {s : Store} {r : Relation} {h : Hierarchy} {id x y : String} {path : List String}
  {next : Option String}

/-! ## Parents -/

/-- The parent that the row of an id names. -/
def parent? (s : Store) (r : Relation) (id : String) : Option String :=
  (s.entity? r id).bind (·.parent)

theorem step_of_parent? (hparent : s.parent? r x = some y) : s.Step r .ancestors x y := by
  obtain ⟨e, he, hy⟩ := Option.bind_eq_some_iff.1 hparent
  obtain ⟨hmem, hrelation, hid⟩ := mem_of_entity? he
  exact ⟨e, hmem, hrelation, hid, hy⟩

/-- Where ids tell rows apart, a step up leads to the parent and nowhere else. -/
theorem parent?_of_step (hkeys : (s.entities.map Entity.key).Nodup) (hstep : s.Step r .ancestors x y) :
    s.parent? r x = some y := by
  obtain ⟨e, he, rfl, rfl, hy⟩ := hstep
  rw [parent?, entity?_of_mem hkeys he]
  exact hy

/-! ## Walking up -/

/-- A walk up from a row: the ids that it has taken, the latest first, and the one that is next. It
takes no id twice. -/
inductive Walk (s : Store) (r : Relation) (id : String) : List String → Option String → Prop
  | start : Walk s r id [] (some id)
  | step {path : List String} {x : String} : Walk s r id path (some x) → x ∉ path →
      Walk s r id (x :: path) (s.parent? r x)

namespace Walk

theorem nodup (hwalk : s.Walk r id path next) : path.Nodup := by
  induction hwalk with
  | start => exact List.nodup_nil
  | step _ hx ih => exact List.nodup_cons.2 ⟨hx, ih⟩

/-- What is next is the parent of the id that was taken last. -/
theorem next_of_head (hwalk : s.Walk r id path next) (hx : x ∈ path.head?) : next = s.parent? r x := by
  cases hwalk with
  | start => cases hx
  | step => rw [Option.mem_some_iff.1 hx]

/-- Each id is the parent of the one taken before it. -/
theorem chain (hwalk : s.Walk r id path next) :
    path.IsChain fun above below => s.parent? r below = some above := by
  induction hwalk with
  | start => exact .nil
  | step hbefore _ ih => exact List.isChain_cons.2 ⟨fun y hy => (hbefore.next_of_head hy).symm, ih⟩

/-- The row itself is taken first. -/
theorem getLast? (hwalk : s.Walk r id path next) (hne : path ≠ []) : path.getLast? = some id := by
  induction hwalk with
  | start => exact absurd rfl hne
  | @step path x hbefore _ ih =>
    cases path with
    | nil =>
      cases hbefore
      rfl
    | cons y ys => rw [List.getLast?_cons_cons, ih (List.cons_ne_nil y ys)]

/-- The row leads up to all that is taken, and to what is next. -/
theorem leadsUp (hwalk : s.Walk r id path next) :
    (∀ x ∈ path, s.LeadsUp r id x) ∧ ∀ y, next = some y → s.LeadsUp r id y := by
  induction hwalk with
  | start => exact ⟨fun x hx => absurd hx List.not_mem_nil, fun y hy => Option.some.inj hy ▸ .refl⟩
  | step _ _ ih =>
    have hx := ih.2 _ rfl
    exact ⟨List.forall_mem_cons.2 ⟨hx, ih.1⟩, fun y hy => hx.tail (step_of_parent? hy)⟩

/-- The parents of what is taken are taken as well, but for the one that is next. -/
theorem parent_mem (hwalk : s.Walk r id path next) (hx : x ∈ path) (hy : s.parent? r x = some y) :
    y ∈ path ∨ next = some y := by
  induction hwalk with
  | start => cases hx
  | step _ _ ih =>
    rcases List.mem_cons.1 hx with rfl | hx
    · exact .inr hy
    · rcases ih hx with hmem | hnext
      · exact .inl (List.mem_cons_of_mem _ hmem)
      · exact .inl (Option.some.inj hnext ▸ List.mem_cons_self)

/-- All that is taken leads up to what is next. -/
theorem transGen_next (hwalk : s.Walk r id path next) (hx : x ∈ path) (hy : next = some y) :
    Relation.TransGen (s.Step r .ancestors) x y := by
  induction hwalk generalizing y with
  | start => cases hx
  | step _ _ ih =>
    have hlast := step_of_parent? hy
    rcases List.mem_cons.1 hx with rfl | hx
    · exact .single hlast
    · exact (ih hx rfl).tail hlast

end Walk

/-! ## Paths -/

/-- A path leads from the top of a hierarchy down to a row. -/
structure IsBreadcrumb (s : Store) (h : Hierarchy) (id : String) (path : List String) : Prop where
  nodup : path.Nodup
  last : path.getLast? = some id
  chain : path.IsChain fun above below => s.parent? h.relation below = some above
  mem : ∀ x, x ∈ path ↔ x ∈ s.hierarchyIds h id .ancestors
  /-- At the top is a row without a parent, or one whose parent is on the path already. Then the
  parent stands in a circle. -/
  top : ∃ e, path.head? = some e.id ∧ s.entity? h.relation e.id = some e ∧
    (e.parent = none ∨ ∃ y ∈ path, e.parent = some y ∧
      Relation.TransGen (s.Step h.relation .ancestors) y y)

/-- A walk can take no more ids than there are at and above the row. -/
theorem Walk.length_le (hwalk : s.Walk h.relation id path next) (hid : s.hasEntity h.relation id = true) :
    path.length ≤ (s.hierarchyIds h id .ancestors).length := by
  refine (hwalk.nodup.subperm fun x hx => ?_).length_le
  exact mem_hierarchyIds.2 ⟨hid, hwalk.leadsUp.1 x hx⟩

/-- A walk ends, without a next id or at one that it has taken, and further turns do not change it. -/
theorem Walk.exists_end (hwalk : s.Walk h.relation id path next)
    (hid : s.hasEntity h.relation id = true) {n : Nat}
    (hn : (s.hierarchyIds h id .ancestors).length < n + path.length) :
    ∃ path' next', s.Walk h.relation id path' next' ∧ (∀ y, next' = some y → y ∈ path') ∧
      ∀ m, n ≤ m → s.pathUp h m path next = path' := by
  induction n generalizing path next with
  | zero =>
    have hlength := hwalk.length_le hid
    omega
  | succ n ih =>
    cases hnext : next with
    | none => exact ⟨path, none, hnext ▸ hwalk, fun y hy => (by cases hy), fun m _ => by cases m <;> rfl⟩
    | some x =>
      subst hnext
      by_cases hx : x ∈ path
      · refine ⟨path, some x, hwalk, fun y hy => Option.some.inj hy ▸ hx, fun m _ => ?_⟩
        cases m with
        | zero => rfl
        | succ m => rw [pathUp, if_pos (List.contains_iff_mem.2 hx)]
      · obtain ⟨path', next', hwalk', hend, hturns⟩ := ih (hwalk.step hx) (by
          rw [List.length_cons]
          omega)
        refine ⟨path', next', hwalk', hend, fun m hm => ?_⟩
        obtain ⟨m, rfl⟩ := Nat.exists_eq_succ_of_ne_zero (Nat.ne_of_gt (Nat.lt_of_lt_of_le n.succ_pos hm))
        rw [pathUp, if_neg (mt List.contains_iff_mem.1 hx)]
        exact hturns m (Nat.le_of_succ_le_succ hm)

/-- Where a walk has ended it has come to all that is above the row. -/
theorem Walk.mem_iff (hwalk : s.Walk h.relation id path next) (hid : s.hasEntity h.relation id = true)
    (hkeys : (s.entities.map Entity.key).Nodup) (hend : ∀ y, next = some y → y ∈ path) :
    x ∈ path ↔ x ∈ s.hierarchyIds h id .ancestors := by
  rw [mem_hierarchyIds, and_iff_right hid]
  refine ⟨hwalk.leadsUp.1 x, fun hx => ?_⟩
  induction hx with
  | refl =>
    cases hwalk with
    | start => exact hend id rfl
    | step hbefore hx =>
      exact List.mem_of_mem_getLast? ((hbefore.step hx).getLast? (List.cons_ne_nil _ _))
  | tail _ hstep ih =>
    rcases hwalk.parent_mem ih (parent?_of_step hkeys hstep) with hmem | hnext
    · exact hmem
    · exact hend _ hnext

/-- Where a walk has ended, and all that it took are rows, it has left a path from the top. -/
theorem Walk.isBreadcrumb (hwalk : s.Walk h.relation id path next)
    (hid : s.hasEntity h.relation id = true) (hkeys : (s.entities.map Entity.key).Nodup)
    (hend : ∀ y, next = some y → y ∈ path) (hrows : ∀ x ∈ path, s.hasEntity h.relation x = true) :
    s.IsBreadcrumb h id path := by
  have hmem : id ∈ path := (hwalk.mem_iff hid hkeys hend).2 (mem_hierarchyIds.2 ⟨hid, .refl⟩)
  obtain ⟨x, hx⟩ : ∃ x, path.head? = some x :=
    ⟨_, List.head?_eq_some_head (List.ne_nil_of_mem hmem)⟩
  obtain ⟨e, he⟩ := Option.isSome_iff_exists.1 (hrows x (List.mem_of_mem_head? hx))
  obtain ⟨-, -, rfl⟩ := mem_of_entity? he
  refine ⟨hwalk.nodup, hwalk.getLast? (List.ne_nil_of_mem hmem), hwalk.chain,
    fun x => hwalk.mem_iff hid hkeys hend, e, hx, he, ?_⟩
  have hnext : next = e.parent := by rw [hwalk.next_of_head hx, parent?, he]; rfl
  cases hparent : e.parent with
  | none => exact .inl rfl
  | some y =>
    have hy := hend y (hnext.trans hparent)
    exact .inr ⟨y, hy, rfl, hwalk.transGen_next hy (hnext.trans hparent)⟩

/-! ## Ancestors -/

/-- What is above a row, and how it is found, on any table. -/
structure AncestorLaws (s : Store) (h : Hierarchy) (id : String) : Prop where
  /-- However many turns are allowed beyond the number of rows, no more is found above the row. -/
  closes : ∀ n, s.entities.length ≤ n →
    s.closureFrom h.relation .ancestors n [id] = s.closure h.relation .ancestors [id]
  /-- There is no path exactly when the row leads up to an id without a row. -/
  fails : s.ancestors h id = .error .noRow ↔
    s.hasEntity h.relation id = true ∧ ∃ x, s.LeadsUp h.relation id x ∧ s.hasEntity h.relation x = false
  /-- Nothing else goes wrong. -/
  error : ∀ e, s.ancestors h id = .error e → e = .noRow
  absent : s.ancestors h id = .ok [] ↔ s.hasEntity h.relation id = false
  /-- Otherwise the walk up leaves a path, however many turns it is allowed beyond the number of rows
  at and above its own. -/
  path : s.hasEntity h.relation id = true →
    (∀ x, s.LeadsUp h.relation id x → s.hasEntity h.relation x = true) →
    ∃ path, s.ancestors h id = .ok path ∧ s.IsBreadcrumb h id path ∧
      ∀ n, (s.hierarchyIds h id .ancestors).length < n → s.pathUp h n [] (some id) = path

theorem ancestors_of_absent (hid : s.hasEntity h.relation id = false) : s.ancestors h id = .ok [] := by
  have hnil : s.hierarchyIds h id .ancestors = [] := by
    refine List.eq_nil_iff_forall_not_mem.2 fun x hx => ?_
    rw [mem_hierarchyIds, hid] at hx
    cases hx.1
  simp [ancestors, hnil]

theorem ancestors_of_dangling (hid : s.hasEntity h.relation id = true)
    (hx : s.LeadsUp h.relation id x) (hrow : s.hasEntity h.relation x = false) :
    s.ancestors h id = .error .noRow := by
  have hall : (s.hierarchyIds h id .ancestors).all (s.hasEntity h.relation) = false :=
    List.all_eq_false.2 ⟨x, mem_hierarchyIds.2 ⟨hid, hx⟩, by simp [hrow]⟩
  simp [ancestors, hall]

theorem exists_breadcrumb (hkeys : (s.entities.map Entity.key).Nodup)
    (hid : s.hasEntity h.relation id = true)
    (hrows : ∀ x, s.LeadsUp h.relation id x → s.hasEntity h.relation x = true) :
    ∃ path, s.ancestors h id = .ok path ∧ s.IsBreadcrumb h id path ∧
      ∀ n, (s.hierarchyIds h id .ancestors).length < n → s.pathUp h n [] (some id) = path := by
  obtain ⟨path, next, hwalk, hend, hturns⟩ :=
    Walk.start.exists_end hid (Nat.lt_succ_self (s.hierarchyIds h id .ancestors).length)
  refine ⟨path, ?_, hwalk.isBreadcrumb hid hkeys hend fun x hx => hrows x (hwalk.leadsUp.1 x hx),
    hturns⟩
  have hself : (s.hierarchyIds h id .ancestors).contains id = true :=
    List.contains_iff_mem.2 (mem_hierarchyIds.2 ⟨hid, .refl⟩)
  have hall : (s.hierarchyIds h id .ancestors).all (s.hasEntity h.relation) = true :=
    List.all_eq_true.2 fun x hx => hrows x (mem_hierarchyIds.1 hx).2
  simp only [ancestors, hall, hself, if_true, hturns _ (Nat.le_refl _)]

theorem IsBreadcrumb.ne_nil (hpath : s.IsBreadcrumb h id path) : path ≠ [] := by
  rintro rfl
  cases hpath.last

/-- An id has no row, or leads up to one that has none, or to rows only. -/
theorem leadsUp_cases (s : Store) (r : Relation) (id : String) :
    s.hasEntity r id = false ∨
      (s.hasEntity r id = true ∧ ∃ x, s.LeadsUp r id x ∧ s.hasEntity r x = false) ∨
        (s.hasEntity r id = true ∧ ∀ x, s.LeadsUp r id x → s.hasEntity r x = true) := by
  cases hid : s.hasEntity r id with
  | false => exact .inl rfl
  | true =>
    by_cases hrows : ∃ x, s.LeadsUp r id x ∧ s.hasEntity r x = false
    · exact .inr (.inl ⟨rfl, hrows⟩)
    · exact .inr (.inr ⟨rfl, fun x hx => by simpa using fun hrow => hrows ⟨x, hx, hrow⟩⟩)

/-- What is above a row is found, and put in order, whatever the parents are, where keys tell rows apart
(`keyed_after`). -/
theorem ancestorLaws (hkeys : (s.entities.map Entity.key).Nodup) : s.AncestorLaws h id := by
  have hclosed : ∀ n, s.entities.length ≤ n →
      s.closureFrom h.relation .ancestors n [id] = s.closure h.relation .ancestors [id] :=
    fun n hn => @closureFrom_of_le s h.relation .ancestors [id] n hn
  rcases leadsUp_cases s h.relation id with hid | ⟨hid, x, hx, hrow⟩ | ⟨hid, hrows⟩
  · have hanswer := ancestors_of_absent hid
    refine ⟨hclosed, ?_, ?_, ?_, ?_⟩ <;> simp [hanswer, hid]
  · have hanswer := ancestors_of_dangling hid hx hrow
    refine ⟨hclosed, ?_, ?_, ?_, fun _ hrows => ?_⟩
    · exact iff_of_true hanswer ⟨hid, x, hx, hrow⟩
    · simp [hanswer]
    · simp [hanswer, hid]
    · rw [hrows x hx] at hrow
      cases hrow
  · obtain ⟨path, hanswer, hpath, hturns⟩ := exists_breadcrumb hkeys hid hrows
    refine ⟨hclosed, ?_, ?_, ?_, fun _ _ => ⟨path, hanswer, hpath, hturns⟩⟩
    · refine iff_of_false (by simp [hanswer]) ?_
      rintro ⟨-, x, hx, hrow⟩
      rw [hrows x hx] at hrow
      cases hrow
    · simp [hanswer]
    · simp [hanswer, hid, hpath.ne_nil]

/-- An album below two that stand in a circle, and one below a row that does not exist. -/
def spiral : Store :=
  { Store.empty with
    entities := [⟨.album, "day", "home", some "night", "Day"⟩,
      ⟨.album, "night", "home", some "day", "Night"⟩,
      ⟨.album, "dawn", "home", some "day", "Dawn"⟩,
      ⟨.album, "dusk", "home", some "gone", "Dusk"⟩] }

theorem ancestorLaws_spiral :
    (spiral.entities.map Entity.key).Nodup ∧
      spiral.ancestors .album "dawn" = .ok ["night", "day", "dawn"] ∧
      spiral.IsBreadcrumb .album "dawn" ["night", "day", "dawn"] ∧
      spiral.ancestors .album "dusk" = .error .noRow ∧ spiral.ancestors .album "gone" = .ok [] := by
  have hkeys : (spiral.entities.map Entity.key).Nodup := by decide
  have hlaws := fun id => @ancestorLaws spiral .album id hkeys
  have hclosure : spiral.closure .album .ancestors ["dawn"] = ["dawn", "day", "night"] := by decide
  have hall : ∀ x ∈ ["dawn", "day", "night"], spiral.hasEntity .album x = true := by decide
  have hrows : ∀ x, spiral.LeadsUp .album "dawn" x → spiral.hasEntity .album x = true := by
    intro x hx
    have hmem := mem_closure.2 ⟨"dawn", List.mem_singleton_self _, hx⟩
    rw [hclosure] at hmem
    exact hall x hmem
  have hlength : (spiral.hierarchyIds .album "dawn" .ancestors).length = 3 := by
    rw [(hierarchyIds_perm (h := .album) (by decide)).length_eq]
    exact congrArg List.length hclosure
  obtain ⟨path, hanswer, hpath, hturns⟩ := (hlaws "dawn").path (by decide) hrows
  obtain rfl : ["night", "day", "dawn"] = path := hturns 4 (by rw [hlength]; decide)
  refine ⟨hkeys, hanswer, hpath, ?_, ?_⟩
  · exact (hlaws "dusk").fails.2 ⟨by decide, "gone", .single (step_of_parent? (by decide)), by decide⟩
  · exact (hlaws "gone").absent.2 (by decide)

end MediaCatalog.Store
