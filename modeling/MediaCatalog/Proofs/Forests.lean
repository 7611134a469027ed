import MediaCatalog.Proofs.Breadcrumbs
/-!
# Forests

An album or a tag is created below one that exists already, and stays there. So, as long as no parent is set
by hand, each row stands in its table after its parent: no parents run in circles, and the path down to any
row begins at one without a parent.
-/

namespace MediaCatalog

/-- The operation does not set a parent by hand. -/
def Operation.LeavesParents (_ : Store) : Operation → Prop
  | setParent .. => False
  | _ => True

namespace Store

variable {s : Store} {r : Relation} {h : Hierarchy} {d : Direction} {id x y : String} {e : Entity}
  {path : List String}

/-! ## Places -/

/-- The place of a row in its table. An id without a row has the place behind all rows. -/
def place (s : Store) (r : Relation) (id : String) : Nat :=
  s.entities.findIdx fun e => e.relation = r && e.id = id

theorem place_lt_length : s.place r id < s.entities.length ↔ s.hasEntity r id = true := by
  rw [place, List.findIdx_lt_length, hasEntity_iff]
  simp

theorem place_createEntity (hrow : s.hasEntity r id = true) :
    ({ s with entities := s.entities ++ [e] } : Store).place r id = s.place r id := by
  have hplace := place_lt_length.2 hrow
  rw [place] at hplace
  rw [place, List.findIdx_append, if_pos hplace, place]

theorem length_le_place (hrow : s.hasEntity r id = false) :
    s.entities.length ≤ ({ s with entities := s.entities ++ [e] } : Store).place r id := by
  have hplace := mt place_lt_length.1 (Bool.eq_false_iff.1 hrow)
  rw [place] at hplace
  rw [place, List.findIdx_append, if_neg hplace]
  exact Nat.le_add_left _ _

/-! ## Parents -/

/-- Each row stands after its parent. -/
def ParentsFirst (s : Store) : Prop :=
  ∀ e ∈ s.entities, ∀ p, e.parent = some p → s.place e.relation p < s.place e.relation e.id

namespace ParentsFirst

/-- What stands before a row is a row. -/
theorem hasParent (hfirst : s.ParentsFirst) (he : e ∈ s.entities) {p : String} (hp : e.parent = some p) :
    s.hasEntity e.relation p = true := by
  apply place_lt_length.1
  exact (hfirst e he p hp).trans (place_lt_length.2 (hasEntity_iff.2 ⟨e, he, rfl, rfl⟩))

theorem createEntity (hfirst : s.ParentsFirst) (hnew : s.hasEntity e.relation e.id = false)
    (hparent : e.parent.all (s.hasEntity e.relation) = true) :
    ParentsFirst { s with entities := s.entities ++ [e] } := by
  intro e' he' p hp
  rcases List.mem_append.1 he' with hold | hlast
  · have hrow : s.hasEntity e'.relation e'.id = true := hasEntity_iff.2 ⟨e', hold, rfl, rfl⟩
    rw [place_createEntity hrow, place_createEntity (hfirst.hasParent hold hp)]
    exact hfirst e' hold p hp
  · -- The new row is the last one, and its parent is among the others.
    obtain rfl := List.mem_singleton.1 hlast
    have hthere : s.hasEntity e'.relation p = true := by simpa [hp] using hparent
    rw [place_createEntity hthere]
    exact (place_lt_length.2 hthere).trans_le (length_le_place hnew)

end ParentsFirst

theorem kept_parentsFirst : Operation.Kept Operation.LeavesParents ParentsFirst where
  flag hfirst := hfirst
  changes {s op s'} hchanges hop hfirst := by
    cases hchanges with
    | createEntity hnew hparent => exact hfirst.createEntity hnew hparent
    | setParent => exact hop.elim
    | _ => exact hfirst

/-! ## Paths -/

namespace ParentsFirst

theorem place_lt_of_step (hfirst : s.ParentsFirst) (hstep : s.Step r .ancestors x y) :
    s.place r y < s.place r x := by
  obtain ⟨e, he, rfl, rfl, hy⟩ := hstep
  exact hfirst e he y hy

theorem place_lt (hfirst : s.ParentsFirst) (habove : Relation.TransGen (s.Step r .ancestors) x y) :
    s.place r y < s.place r x := by
  induction habove with
  | single hstep => exact hfirst.place_lt_of_step hstep
  | tail _ hstep ih => exact (hfirst.place_lt_of_step hstep).trans ih

/-- A row leads up to rows only. -/
theorem hasEntity_of_leadsUp (hfirst : s.ParentsFirst) (hid : s.hasEntity r id = true)
    (hx : s.LeadsUp r id x) : s.hasEntity r x = true := by
  induction hx with
  | refl => exact hid
  | tail _ hstep ih => exact place_lt_length.1 ((hfirst.place_lt_of_step hstep).trans (place_lt_length.2 ih))

theorem not_transGen (hfirst : s.ParentsFirst) : ¬Relation.TransGen (s.Step r d) x x := by
  intro hcircle
  cases d with
  | ancestors => exact Nat.lt_irrefl _ (hfirst.place_lt hcircle)
  | descendants =>
    rw [← swap_step, Relation.transGen_swap] at hcircle
    exact Nat.lt_irrefl _ (hfirst.place_lt hcircle)

theorem wellFounded (hfirst : s.ParentsFirst) :
    WellFounded fun above below => s.Step r .ancestors below above := by
  refine Subrelation.wf (r := InvImage (· < ·) (s.place r)) ?_ (InvImage.wf _ Nat.lt_wfRel.wf)
  exact fun hstep => hfirst.place_lt_of_step hstep

end ParentsFirst

/-- The parents of a hierarchy make it a forest. -/
structure IsForest (s : Store) (h : Hierarchy) : Prop where
  /-- Each parent is a row of the kind of its child. -/
  hasParent : ∀ e ∈ s.entities, e.relation = h.relation → ∀ p, e.parent = some p →
    s.hasEntity h.relation p = true
  /-- Parents cannot be followed without end. -/
  ends : WellFounded fun above below => s.Step h.relation .ancestors below above
  /-- Followed from a row, they take no row twice and lead to one without a parent. The path that is found
  down to the row begins there. -/
  rooted : ∀ e ∈ s.entities, e.relation = h.relation →
    ∃ root ∈ s.entities, root.relation = h.relation ∧ root.parent = none ∧
      ∃ below, s.ancestors h e.id = .ok (root.id :: below) ∧
        s.IsBreadcrumb h e.id (root.id :: below)
  /-- Looking for a path does not fail, whether there is a row or not. -/
  succeeds : ∀ id e, s.ancestors h id ≠ .error e
  /-- No row is reached from itself, neither up nor down. -/
  acyclic : ∀ d x, ¬Relation.TransGen (s.Step h.relation d) x x

/-- At the top of a path is a row without a parent, where there are no circles. -/
theorem IsBreadcrumb.exists_root (hpath : s.IsBreadcrumb h id path)
    (hacyclic : ∀ x, ¬Relation.TransGen (s.Step h.relation .ancestors) x x) :
    ∃ root ∈ s.entities, root.relation = h.relation ∧ root.parent = none ∧
      ∃ below, path = root.id :: below := by
  obtain ⟨root, hhead, hroot, hnone | ⟨y, -, -, hcircle⟩⟩ := hpath.top
  · obtain ⟨hmem, hrelation, -⟩ := mem_of_entity? hroot
    obtain ⟨below, rfl⟩ := List.head?_eq_some_iff.1 hhead
    exact ⟨root, hmem, hrelation, hnone, below, rfl⟩
  · exact absurd hcircle (hacyclic y)

theorem ParentsFirst.isForest (hfirst : s.ParentsFirst) (hkeys : (s.entities.map Entity.key).Nodup) :
    s.IsForest h := by
  have hfound : ∀ id, s.hasEntity h.relation id = true →
      ∃ path, s.ancestors h id = .ok path ∧ s.IsBreadcrumb h id path := by
    intro id hid
    obtain ⟨path, hanswer, hpath, -⟩ :=
      exists_breadcrumb hkeys hid fun x hx => hfirst.hasEntity_of_leadsUp hid hx
    exact ⟨path, hanswer, hpath⟩
  refine ⟨?_, hfirst.wellFounded, ?_, ?_, fun _ _ => hfirst.not_transGen⟩
  · intro e he hrelation p hp
    rw [← hrelation]
    exact hfirst.hasParent he hp
  · intro e he hrelation
    obtain ⟨path, hanswer, hpath⟩ := hfound e.id (hasEntity_iff.2 ⟨e, he, hrelation, rfl⟩)
    obtain ⟨root, hroot, hkind, hnone, below, rfl⟩ := hpath.exists_root fun _ => hfirst.not_transGen
    exact ⟨root, hroot, hkind, hnone, below, hanswer, hpath⟩
  · intro id e herror
    cases hid : s.hasEntity h.relation id with
    | false =>
      rw [ancestors_of_absent hid] at herror
      cases herror
    | true =>
      obtain ⟨path, hanswer, -⟩ := hfound id hid
      rw [hanswer] at herror
      cases herror

/-- Where parents are not set by hand, albums and tags stand in forests at any time, whatever is given up
on the way. -/
theorem isForest_later (hlater : Store.empty.Later Operation.LeavesParents s) (h : Hierarchy) :
    s.IsForest h := by
  have hfirst : s.ParentsFirst := hlater.kept kept_parentsFirst fun _ he => nomatch he
  have hkeyed : s.Keyed :=
    hlater.kept (kept_keyed.imp fun _ _ _ => trivial) ⟨List.nodup_nil, List.nodup_nil, List.nodup_nil⟩
  exact hfirst.isForest hkeyed.entities

/-- Albums one below the other. One was created in vain before, in a transaction that also closed a circle,
and the last names a parent that does not exist. -/
def grove : List Operation :=
  [.createCatalog "home" "Home", .createEntity ⟨.album, "summer", "home", none, "Summer"⟩,
    .transaction [.createEntity ⟨.album, "beach", "home", some "summer", "Beach"⟩,
      .setParent .album "summer" (some "beach")] false,
    .transaction [.createEntity ⟨.album, "beach", "home", some "summer", "Beach"⟩,
      .createEntity ⟨.album, "dune", "home", some "beach", "Dune"⟩] true,
    .createEntity ⟨.album, "lost", "home", some "gone", "Lost"⟩]

theorem isForest_later_grove :
    Store.empty.Later Operation.LeavesParents (.after grove) ∧
      (Store.after grove).entities.map (·.id) = ["summer", "beach", "dune"] ∧
      (∃ below, (Store.after grove).ancestors .album "dune" = .ok ("summer" :: below)) ∧
      (Store.after grove).ancestors .album "lost" ≠ .error .noRow ∧
      ¬Relation.TransGen ((Store.after grove).Step .album .descendants) "summer" "summer" := by
  have hlater : Store.empty.Later Operation.LeavesParents (.after grove) := by
    refine Later.refl.applyAll ?_
    refine ⟨trivial, trivial, ?_, ?_, trivial, trivial⟩
    · exact fun _ hkeep => nomatch hkeep
    · exact fun _ _ => ⟨trivial, trivial, trivial⟩
  have hforest := isForest_later hlater .album
  refine ⟨hlater, by decide, ?_, hforest.succeeds _ _, hforest.acyclic _ _⟩
  obtain ⟨root, hroot, -, hnone, below, hanswer, -⟩ :=
    hforest.rooted ⟨.album, "dune", "home", some "beach", "Dune"⟩ (by decide) rfl
  have honly : ∀ e ∈ (Store.after grove).entities, e.parent = none → e.id = "summer" := by decide
  exact ⟨below, honly root hroot hnone ▸ hanswer⟩

end Store

end MediaCatalog
