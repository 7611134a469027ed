import MediaCatalog.Proofs.CatalogBounds
import MediaCatalog.Proofs.Closure
/-!
# Isolation of catalogs

What a search of a catalog gives hangs on the rows of that catalog alone, in stores where nothing joins
two catalogs. Other rows can be told in two ways: they decide whether a wildcard pattern that is too long
is tried at all, and one with a malformed location fails every search.
-/

namespace MediaCatalog

/-- What the things of a row are shown by: the name, then the id. -/
def Entity.place (e : Entity) : String ×ₗ String := toLex (e.name, e.id)

theorem Entity.isShownBefore_iff {a b : Entity} : a.isShownBefore b = true ↔ a.place ≤ b.place := by
  simp [isShownBefore, place, Prod.Lex.toLex_le_toLex]

namespace Store

/-! ## Stores that agree on a catalog -/

/-- Two stores have the same rows of a catalog: its media items and things, with the links and the files
of its items. -/
structure SameIn (catalog : String) (s t : Store) : Prop where
  items : ∀ i, i.catalog = catalog → (i ∈ s.items ↔ i ∈ t.items)
  entities : ∀ e, e.catalog = catalog → (e ∈ s.entities ↔ e ∈ t.entities)
  links : ∀ i ∈ s.items, i.catalog = catalog → ∀ l, l.media = i.id → (l ∈ s.links ↔ l ∈ t.links)
  files : ∀ i ∈ s.items, i.catalog = catalog → ∀ time, s.filesAt i.id time = t.filesAt i.id time

/-- In each of the two stores rows are told apart by their keys, and nothing joins two catalogs. -/
structure Agrees (catalog : String) (s t : Store) : Prop extends SameIn catalog s t where
  keyed : s.Keyed
  keyed' : t.Keyed
  apart : s.IsApart
  apart' : t.IsApart

/-- A thing of a kind with an id is of a catalog. -/
def IsHome (s : Store) (r : Relation) (catalog id : String) : Prop :=
  ∃ e ∈ s.entities, e.relation = r ∧ e.id = id ∧ e.catalog = catalog

variable {s t : Store} {r : Relation} {catalog id media : String} {i : MediaItem} {e : Entity}
  {l : Link} {p : Predicate} {q : Query} {row : ViewRow}

namespace Agrees

theorem symm (h : Agrees catalog s t) : Agrees catalog t s where
  items i hi := (h.items i hi).symm
  entities e he := (h.entities e he).symm
  links i hi hc l hl := (h.links i ((h.items i hc).2 hi) hc l hl).symm
  files i hi hc time := (h.files i ((h.items i hc).2 hi) hc time).symm
  keyed := h.keyed'
  keyed' := h.keyed
  apart := h.apart'
  apart' := h.apart

end Agrees

/-! ## Closures -/

/-- A step down from a thing of a catalog leads to another of it. -/
theorem IsApart.step {a b : String} (h : s.IsApart) (ha : s.IsHome r catalog a)
    (hab : s.Step r .descendants a b) :
    ∃ e ∈ s.entities, e.relation = r ∧ e.parent = some a ∧ e.id = b ∧ e.catalog = catalog := by
  obtain ⟨e', he', hrelation', rfl, hcatalog⟩ := ha
  obtain ⟨e, he, hrelation, hparent, hid⟩ := hab
  have hsame := h.parents e he e' he' (hrelation'.trans hrelation.symm) hparent
  exact ⟨e, he, hrelation, hparent, hid, hsame.symm.trans hcatalog⟩

theorem IsApart.isHome_of_reaches {a b : String} (h : s.IsApart) (ha : s.IsHome r catalog a)
    (hab : Relation.ReflTransGen (s.Step r .descendants) a b) : s.IsHome r catalog b := by
  induction hab with
  | refl => exact ha
  | tail _ hstep ih =>
    obtain ⟨e, he, hrelation, -, hid, hcatalog⟩ := h.step ih hstep
    exact ⟨e, he, hrelation, hid, hcatalog⟩

/-- What lies below things of a catalog is of it. -/
theorem IsApart.isHome_of_mem_closure {seed : List String} (h : s.IsApart)
    (hseed : ∀ id ∈ seed, s.IsHome r catalog id) (hid : id ∈ s.closure r .descendants seed) :
    s.IsHome r catalog id := by
  obtain ⟨a, ha, hreach⟩ := mem_closure.1 hid
  exact h.isHome_of_reaches (hseed a ha) hreach

namespace Agrees

theorem isHome (h : Agrees catalog s t) (hid : s.IsHome r catalog id) : t.IsHome r catalog id := by
  obtain ⟨e, he, hrelation, heid, hcatalog⟩ := hid
  exact ⟨e, (h.entities e hcatalog).1 he, hrelation, heid, hcatalog⟩

theorem reaches {a b : String} (h : Agrees catalog s t) (ha : s.IsHome r catalog a)
    (hab : Relation.ReflTransGen (s.Step r .descendants) a b) :
    Relation.ReflTransGen (t.Step r .descendants) a b := by
  induction hab with
  | refl => exact .refl
  | tail hbefore hstep ih =>
    obtain ⟨e, he, hrelation, hparent, hid, hcatalog⟩ :=
      h.apart.step (h.apart.isHome_of_reaches ha hbefore) hstep
    exact ih.tail ⟨e, (h.entities e hcatalog).1 he, hrelation, hparent, hid⟩

theorem mem_closure_of_subset {seed seed' : List String} (h : Agrees catalog s t)
    (hseed : ∀ id ∈ seed, s.IsHome r catalog id) (hsub : seed ⊆ seed')
    (hid : id ∈ s.closure r .descendants seed) : id ∈ t.closure r .descendants seed' := by
  obtain ⟨a, ha, hreach⟩ := mem_closure.1 hid
  exact mem_closure.2 ⟨a, hsub ha, h.reaches (hseed a ha) hreach⟩

end Agrees

/-! ## Predicates -/

namespace Agrees

/-- The links of an item lead to the same chosen things. -/
theorem test_of_subset {scope : LinkScope} {chosen chosen' : List String} (h : Agrees catalog s t)
    (hi : i ∈ s.items) (hcatalog : i.catalog = catalog)
    (hchosen : ∀ id ∈ chosen, s.IsHome scope.relation catalog id) (hsub : chosen ⊆ chosen')
    (hl : ∃ l ∈ s.links, l.relation = scope.relation ∧ l.media = i.id ∧
      l.entity ∈ scope.targets s chosen) :
    ∃ l ∈ t.links, l.relation = scope.relation ∧ l.media = i.id ∧
      l.entity ∈ scope.targets t chosen' := by
  obtain ⟨l, hl, hrelation, hmedia, htarget⟩ := hl
  refine ⟨l, (h.links i hi hcatalog l hmedia).1 hl, hrelation, hmedia, ?_⟩
  unfold LinkScope.targets at htarget ⊢
  split at htarget
  next hcloses =>
    rw [if_pos hcloses]
    exact h.mem_closure_of_subset hchosen hsub htarget
  next hdirect =>
    rw [if_neg hdirect]
    exact hsub htarget

theorem test_eq {scope : LinkScope} {chosen chosen' : List String} (h : Agrees catalog s t)
    (hi : i ∈ s.items) (hcatalog : i.catalog = catalog)
    (hchosen : ∀ id ∈ chosen, s.IsHome scope.relation catalog id)
    (hsame : ∀ id, id ∈ chosen ↔ id ∈ chosen') :
    scope.test s i.id chosen = scope.test t i.id chosen' := by
  have hchosen' : ∀ id ∈ chosen', t.IsHome scope.relation catalog id := fun id hid =>
    h.isHome (hchosen id ((hsame id).2 hid))
  have hany : (s.links.any fun l => l.relation = scope.relation && l.media = i.id &&
      (scope.targets s chosen).contains l.entity) =
      t.links.any fun l => l.relation = scope.relation && l.media = i.id &&
        (scope.targets t chosen').contains l.entity := by
    rw [Bool.eq_iff_iff]
    simp only [List.any_eq_true, Bool.and_eq_true, decide_eq_true_eq, List.contains_iff_mem, and_assoc]
    constructor
    · exact h.test_of_subset hi hcatalog hchosen fun id hid => (hsame id).1 hid
    · exact h.symm.test_of_subset ((h.items i hcatalog).1 hi) hcatalog hchosen'
        fun id hid => (hsame id).2 hid
  unfold LinkScope.test
  dsimp only
  rw [hany]

/-- A predicate on a row of the catalog has the same truth in both stores. -/
theorem eval_eq {scope : Scope} {b : Subject} (h : Agrees catalog s t)
    (hrow : scope = .media → ∃ i ∈ s.items, i.catalog = catalog ∧ b.row.id = i.id)
    (hp : p.StaysIn catalog scope) : p.eval s b = p.eval t b := by
  induction p generalizing scope b with
  | always => rfl
  | never => rfl
  | compare c => rfl
  | not p ih => rw [Predicate.eval, Predicate.eval, ih hrow hp]
  | all ps ih =>
    have hparts := List.map_congr_left fun p hm => ih p hm hrow (Predicate.stayIn_iff.1 hp p hm)
    rw [Predicate.eval, Predicate.eval, Predicate.evalAll_eq, Predicate.evalAll_eq, hparts]
  | any ps ih =>
    have hparts := List.map_congr_left fun p hm => ih p hm hrow (Predicate.stayIn_iff.1 hp p hm)
    rw [Predicate.eval, Predicate.eval, Predicate.evalAny_eq, Predicate.evalAny_eq, hparts]
  | linked link filter ih =>
    cases scope with
    | related r => exact hp.elim
    | media =>
      obtain ⟨i, hi, hcatalog, hid⟩ := hrow rfl
      obtain ⟨hlink, -, hfilter⟩ := hp
      -- Within a filter there are no links, so nothing is asked of the row.
      have hsame : ∀ e, filter.eval s (b.on e) = filter.eval t (b.on e) := fun e =>
        @ih (.related link.relation) (b.on e) (by simp) hfilter
      have hcandidate : ∀ e, e ∈ link.candidates s ↔ e ∈ link.candidates t := by
        intro e
        simp only [LinkScope.candidates, List.mem_filter, Bool.and_eq_true, decide_eq_true_eq]
        exact and_congr_left fun he => h.entities e (he.2.trans hlink)
      simp only [Predicate.eval, hid, hsame]
      congr 1
      refine h.test_eq hi hcatalog ?_ fun id => ?_
      · intro id hchosen
        obtain ⟨e, he, heid⟩ := List.mem_map.1 hchosen
        have hcandidates := (List.mem_filter.1 he).1
        simp only [LinkScope.candidates, List.mem_filter, Bool.and_eq_true, decide_eq_true_eq]
          at hcandidates
        exact ⟨e, hcandidates.1, hcandidates.2.1, heid, hcandidates.2.2.trans hlink⟩
      · simp only [List.mem_map, List.mem_filter, hcandidate]

end Agrees

/-! ## Rows -/

/-- A link of an item of the catalog leads to a thing of it or to nothing. -/
theorem IsApart.isHome_of_entity? (h : s.IsApart) (hi : i ∈ s.items) (hcatalog : i.catalog = catalog)
    (hl : l ∈ s.links) (hmedia : l.media = i.id) (he : s.entity? l.relation l.entity = some e) :
    e.catalog = catalog := by
  obtain ⟨hmem, hrelation, hid⟩ := mem_of_entity? he
  exact (h.links l hl i hi hmedia.symm e hmem hrelation hid).trans hcatalog

/-- Things that one item is linked to are told apart by their places. -/
theorem Keyed.eq_of_place {x y : Entity × Link} (h : s.Keyed) (hx : x ∈ s.linked r media)
    (hy : y ∈ s.linked r media) (hplace : x.1.place = y.1.place) : x = y := by
  obtain ⟨hxl, hxr, hxm, hxe⟩ := mem_linked.1 hx
  obtain ⟨hyl, hyr, hym, hye⟩ := mem_linked.1 hy
  have hid : x.1.id = y.1.id := (Prod.mk.inj hplace).2
  have hentity : x.2.entity = y.2.entity := by
    rw [← (mem_of_entity? hxe).2.2, ← (mem_of_entity? hye).2.2, hid]
  have hlink : x.2 = y.2 := by
    refine List.inj_on_of_nodup_map h.links hxl hyl ?_
    rw [Link.key, Link.key, hxr, hyr, hxm, hym, hentity]
  have hthing : x.1 = y.1 := by
    rw [hentity, hye] at hxe
    exact Option.some.inj hxe.symm
  exact Prod.ext hthing hlink

theorem Keyed.nodup_linked (h : s.Keyed) : (s.linked r media).Nodup := by
  rw [linked, (List.mergeSort_perm _ _).nodup_iff]
  refine List.Nodup.filterMap ?_ (h.links.of_map.filter _)
  intro l l' x hx hx'
  obtain ⟨e, -, rfl⟩ := Option.map_eq_some_iff.1 hx
  obtain ⟨e', -, hpair⟩ := Option.map_eq_some_iff.1 hx'
  exact (Prod.mk.inj hpair).2.symm

theorem pairwise_linked : (s.linked r media).Pairwise fun x y => x.1.place ≤ y.1.place :=
  pairwise_mergeSort_of_key fun _ _ => Entity.isShownBefore_iff

/-- An item that is linked to the same things in two stores shows them in one order. -/
theorem Keyed.linked_eq_of_mem (h : s.Keyed) (h' : t.Keyed)
    (hmem : ∀ x, x ∈ s.linked r media ↔ x ∈ t.linked r media) :
    s.linked r media = t.linked r media := by
  refine List.Perm.eq_of_pairwise ?_ pairwise_linked pairwise_linked
    ((List.perm_ext_iff_of_nodup h.nodup_linked h'.nodup_linked).2 hmem)
  intro x y hx hy hxy hyx
  exact h.eq_of_place hx ((hmem y).2 hy) (le_antisymm hxy hyx)

/-- Where the same rows are picked from two views, they are shown in one order. -/
theorem Keyed.select_eq_of_perm (h : s.Keyed)
    (hperm : ((s.view catalog).filter (p.holds s)).Perm ((t.view catalog).filter (p.holds t))) :
    s.select p (s.view catalog) = t.select p (t.view catalog) := by
  refine mergeSort_eq_of_perm hperm ViewRow.pairwise_mergeSort_isShownBefore ?_
  intro a ha b hb hab hba
  obtain ⟨i, hi, -, rfl⟩ := mem_view.1 (List.mem_filter.1 ha).1
  obtain ⟨j, hj, -, rfl⟩ := mem_view.1 (List.mem_filter.1 hb).1
  have hid : i.id = j.id := hab.id_eq hba
  rw [List.inj_on_of_nodup_map h.items hi hj hid]

namespace Agrees

theorem entity?_of_link (h : Agrees catalog s t) (hi : i ∈ s.items) (hcatalog : i.catalog = catalog)
    (hl : l ∈ s.links) (hmedia : l.media = i.id) (he : s.entity? l.relation l.entity = some e) :
    t.entity? l.relation l.entity = some e := by
  have hhome := h.apart.isHome_of_entity? hi hcatalog hl hmedia he
  obtain ⟨hmem, hrelation, hid⟩ := mem_of_entity? he
  have hfound := h.keyed'.entity?_of_mem ((h.entities e hhome).1 hmem)
  rwa [hrelation, hid] at hfound

theorem mem_linked_of (h : Agrees catalog s t) (hi : i ∈ s.items) (hcatalog : i.catalog = catalog)
    {x : Entity × Link} (hx : x ∈ s.linked r i.id) : x ∈ t.linked r i.id := by
  obtain ⟨hl, hr, hmedia, he⟩ := mem_linked.1 hx
  subst hr
  exact mem_linked.2 ⟨(h.links i hi hcatalog x.2 hmedia).1 hl, rfl, hmedia,
    h.entity?_of_link hi hcatalog hl hmedia he⟩

theorem linked_eq (h : Agrees catalog s t) (hi : i ∈ s.items) (hcatalog : i.catalog = catalog) :
    s.linked r i.id = t.linked r i.id :=
  h.keyed.linked_eq_of_mem h.keyed' fun _ =>
    ⟨h.mem_linked_of hi hcatalog, h.symm.mem_linked_of ((h.items i hcatalog).1 hi) hcatalog⟩

theorem viewRow_eq (h : Agrees catalog s t) (hi : i ∈ s.items) (hcatalog : i.catalog = catalog) :
    s.viewRow i = t.viewRow i := by
  unfold viewRow
  rw [currentFile?_congr (h.files i hi hcatalog)]

theorem readRow_eq (h : Agrees catalog s t) (hrow : row ∈ s.view catalog) :
    s.readRow row = t.readRow row := by
  obtain ⟨i, hi, ⟨-, hcatalog⟩, rfl⟩ := mem_view.1 hrow
  have hlinked : ∀ r, s.linked r (s.viewRow i).id = t.linked r (s.viewRow i).id := fun r =>
    h.linked_eq hi hcatalog
  unfold readRow
  simp only [hlinked]

theorem view_perm (h : Agrees catalog s t) : (s.view catalog).Perm (t.view catalog) := by
  have hitems : (s.items.filter fun i => !i.deleted && i.catalog = catalog).Perm
      (t.items.filter fun i => !i.deleted && i.catalog = catalog) := by
    rw [List.perm_ext_iff_of_nodup (h.keyed.items.of_map.filter _) (h.keyed'.items.of_map.filter _)]
    intro i
    simp only [List.mem_filter, Bool.and_eq_true, decide_eq_true_eq]
    exact and_congr_left fun hi => h.items i hi.2
  have hrows : (s.items.filter fun i => !i.deleted && i.catalog = catalog).map s.viewRow =
      (s.items.filter fun i => !i.deleted && i.catalog = catalog).map t.viewRow := by
    refine List.map_congr_left fun i hi => ?_
    simp only [List.mem_filter, Bool.and_eq_true, decide_eq_true_eq] at hi
    exact h.viewRow_eq hi.1 hi.2.2
  rw [view, hrows, view]
  exact hitems.map _

theorem holds_eq (h : Agrees catalog s t) (hp : p.StaysIn catalog .media)
    (hrow : row ∈ s.view catalog) : p.holds s row = p.holds t row := by
  obtain ⟨i, hi, ⟨-, hcatalog⟩, rfl⟩ := mem_view.1 hrow
  rw [Predicate.holds, Predicate.holds, h.eval_eq (fun _ => ⟨i, hi, hcatalog, rfl⟩) hp]

/-- The same rows are selected, in the same order. -/
theorem select_eq (h : Agrees catalog s t) (hp : p.StaysIn catalog .media) :
    s.select p (s.view catalog) = t.select p (t.view catalog) := by
  refine h.keyed.select_eq_of_perm ?_
  rw [List.filter_congr fun row hrow => h.holds_eq hp hrow]
  exact h.view_perm.filter _

/-- A sound predicate gives one answer in both stores, or there is a long text in it that was tried in
one of them. -/
theorem queryMedia_eq (h : Agrees catalog s t) (hdocuments : s.hasMalformed = false)
    (hdocuments' : t.hasMalformed = false) (hsound : p.IsSound catalog .media q) :
    s.queryMedia catalog p = t.queryMedia catalog p ∨
      (s.queryMedia catalog p = .error .longPattern ∨ t.queryMedia catalog p = .error .longPattern) ∧
        ∃ x ∈ q.conditions, x.isLong = true := by
  have hrows : (s.select p (s.view catalog)).mapM s.readRow =
      (t.select p (t.view catalog)).mapM t.readRow := by
    rw [← h.select_eq hsound.stays]
    refine mapM_congr fun row hrow => h.readRow_eq ?_
    exact (List.mem_filter.1 (List.mem_mergeSort.1 hrow)).1
  have hscoped : p.isScoped [] = true := Predicate.isScoped_of_staysIn hsound.stays
  unfold queryMedia
  cases p.isShallow
  · exact .inl (by simp only [Bool.not_false, if_true])
  · cases p.isBindable
    · exact .inl (by simp only [Bool.not_false, if_true])
    · simp only [hscoped, hdocuments, hdocuments', Bool.not_true, Bool.false_eq_true, if_false]
      cases hs : p.failure? s catalog with
      | some e =>
        obtain ⟨rfl, hlong⟩ := hsound.failure hs
        exact .inr ⟨.inl rfl, hlong⟩
      | none =>
        cases ht : p.failure? t catalog with
        | some e =>
          obtain ⟨rfl, hlong⟩ := hsound.failure ht
          exact .inr ⟨.inr rfl, hlong⟩
        | none => exact .inl hrows

end Agrees

end Store

namespace SearchService

variable {service other : SearchService} {caller catalog : String} {q : Query} {p : Predicate}

theorem sound_of_prepare (h : service.prepare catalog q = .ok p) : p.IsSound catalog .media q := by
  obtain ⟨hcheck, h⟩ := guard_eq_ok.1 h
  obtain ⟨compiled, hcompile, h⟩ := bind_eq_ok.1 h
  obtain ⟨p', hp', hsound⟩ :=
    @Query.exists_compile_sound service.maxDepth 1 .media q (mapError_eq_ok.1 hcheck) catalog
  cases h
  obtain rfl : p' = compiled := Except.ok.inj (hp'.symm.trans (mapError_eq_ok.1 hcompile))
  exact hsound.normalize

/-- A query gives one answer in both stores, unless a long text in it was tried in one of them. -/
theorem search_congr (hagree : Store.Agrees catalog service.store other.store)
    (hdocuments : service.store.hasMalformed = false) (hdocuments' : other.store.hasMalformed = false)
    (haccess : service.authorize caller catalog = other.authorize caller catalog)
    (hdepth : service.maxDepth = other.maxDepth) :
    service.search caller catalog q = other.search caller catalog q ∨
      (service.search caller catalog q = .error (.storage .longPattern) ∨
        other.search caller catalog q = .error (.storage .longPattern)) ∧
      ∃ x ∈ q.conditions, x.isLong = true := by
  cases hread : (service.authorize caller catalog).canRead with
  | false =>
    rw [search_of_not_canRead hread, search_of_not_canRead (haccess ▸ hread)]
    exact .inl rfl
  | true =>
    rw [search_of_canRead hread, search_of_canRead (haccess ▸ hread)]
    cases hp : service.prepare catalog q with
    | error e =>
      rw [execute_of_prepare_error hp, execute_of_prepare_error (prepare_congr hdepth ▸ hp)]
      exact .inl rfl
    | ok p =>
      rw [execute_of_prepare hp, execute_of_prepare (prepare_congr hdepth ▸ hp)]
      rcases hagree.queryMedia_eq hdocuments hdocuments' (sound_of_prepare hp) with
        hsame | ⟨hs | ht, hx⟩
      · exact .inl (by rw [hsame])
      · exact .inr ⟨.inl (by rw [hs, Except.mapError]), hx⟩
      · exact .inr ⟨.inr (by rw [ht, Except.mapError]), hx⟩

/-- Where two stores agree on a catalog, no location in them is malformed, and a caller has the same
access to the catalog in both, every query has the same answer in both, rows and errors alike: unless
it looks for a text whose wildcard pattern is too long, and one of the answers is that. A listing has
the same answer in any case. What lies below things of the catalog is of it, and is the same in both. -/
theorem isolated (service other : SearchService) (caller catalog : String)
    (hagree : Store.Agrees catalog service.store other.store)
    (hdocuments : service.store.hasMalformed = false) (hdocuments' : other.store.hasMalformed = false)
    (haccess : service.authorize caller catalog = other.authorize caller catalog)
    (hdepth : service.maxDepth = other.maxDepth) :
    (∀ q, service.search caller catalog q = other.search caller catalog q ∨
        (service.search caller catalog q = .error (.storage .longPattern) ∨
          other.search caller catalog q = .error (.storage .longPattern)) ∧
        ∃ x ∈ q.conditions, x.isLong = true) ∧
      service.listCatalog caller catalog = other.listCatalog caller catalog ∧
      ∀ (r : Relation) (seed : List String), (∀ id ∈ seed, service.store.IsHome r catalog id) →
        ∀ id, (id ∈ service.store.closure r .descendants seed ↔
            id ∈ other.store.closure r .descendants seed) ∧
          (id ∈ service.store.closure r .descendants seed → service.store.IsHome r catalog id) := by
  refine ⟨fun q => search_congr hagree hdocuments hdocuments' haccess hdepth, ?_, ?_⟩
  · rcases @search_congr service other caller catalog .everything hagree hdocuments hdocuments' haccess
      hdepth with hsame | ⟨-, x, hx, -⟩
    · exact hsame
    · cases hx
  · intro r seed hseed id
    have hseed' : ∀ id ∈ seed, other.store.IsHome r catalog id := fun id hid =>
      hagree.isHome (hseed id hid)
    exact ⟨⟨hagree.mem_closure_of_subset hseed (List.Subset.refl _),
      hagree.symm.mem_closure_of_subset hseed' (List.Subset.refl _)⟩,
      hagree.apart.isHome_of_mem_closure hseed⟩

/-! ## Other rows that can be told -/

/-- An album of another catalog. -/
def secret : Entity := ⟨.album, "secret", "work", none, "Secret"⟩

/-- A store without it agrees with one that has it. -/
theorem agrees_secret : Store.Agrees "home" (Store.after (oneAtHome []))
    (Store.after (oneAtHome [.createEntity secret])) where
  items _ _ := Iff.rfl
  entities e he := by
    refine ⟨fun h => (nomatch h), fun h => ?_⟩
    obtain rfl := List.mem_singleton.1 h
    exact absurd he (by decide)
  links _ _ _ _ _ := Iff.rfl
  files _ _ _ _ := rfl
  keyed := Store.keyed_after
  keyed' := Store.keyed_after
  apart := ⟨fun _ hl => (nomatch hl), fun _ he => (nomatch he)⟩
  apart' := by
    refine ⟨fun _ hl => (nomatch hl), fun e he e' he' _ _ => ?_⟩
    obtain rfl := List.mem_singleton.1 he
    obtain rfl := List.mem_singleton.1 he'
    rfl

theorem isolated_secret :
    (ofStore (.after (oneAtHome []))).listCatalog "owner@example.com" "home" =
        (ofStore (.after (oneAtHome [.createEntity secret]))).listCatalog "owner@example.com" "home" ∧
      ∀ q : Query, (∀ x ∈ q.conditions, x.isLong = false) →
        (ofStore (.after (oneAtHome []))).search "owner@example.com" "home" q =
          (ofStore (.after (oneAtHome [.createEntity secret]))).search "owner@example.com" "home"
            q := by
  obtain ⟨hsearch, hlist, -⟩ := isolated (ofStore (.after (oneAtHome [])))
    (ofStore (.after (oneAtHome [.createEntity secret]))) "owner@example.com" "home" agrees_secret
    rfl rfl rfl rfl
  refine ⟨hlist, fun q hshort => (hsearch q).resolve_right ?_⟩
  rintro ⟨-, x, hx, hlong⟩
  rw [hshort x hx] at hlong
  cases hlong

/-- The items of an album with an id that contains a text. -/
def inNamed (id text : String) : Query :=
  .group ⟨.all, false, some .album, false⟩ [.field ⟨"id", none, .equal, some (.string id), false⟩,
    .field ⟨"id", none, .contains, some (.string text), false⟩]

/-- What the query is compiled to. -/
def inNamedPredicate (id text : String) : Predicate :=
  .linked ⟨.album, "home", false, false⟩
    (.all [.compare ⟨.entity .album .id, none, .equal, some (.text id), false⟩,
      .compare ⟨.entity .album .id, none, .contains, some (.text text), false⟩])

theorem search_inNamed {history : List Operation} {id text : String}
    (hread : ((ofStore (.after history)).authorize "owner@example.com" "home").canRead = true) :
    (ofStore (.after history)).search "owner@example.com" "home" (inNamed id text) =
      ((Store.after history).queryMedia "home" (inNamedPredicate id text)).mapError .storage := by
  have hcheck : (inNamed id text).check false defaultMaxDepth = .ok () := rfl
  have hcompile : (inNamed id text).compile "home" .media = .ok (inNamedPredicate id text) := rfl
  exact search_eq hread hcheck hcompile

/-- The album is found by its id before it is asked of which catalog it is, and a long text is tried on
it. -/
theorem failure_inNamed {text : String} (h : maxWildcardBytes ≤ text.length) :
    (inNamedPredicate "secret" text).failure? (Store.after (oneAtHome [.createEntity secret])) "home" =
      some .longPattern := by
  have hlong : ∀ a,
      (⟨.entity .album .id, none, .contains, some (.text text), false⟩ : Comparison).failure? a =
        some .longPattern := fun _ => if_pos (Nat.lt_of_le_of_lt h length_lt_wildcardPattern)
  unfold Predicate.failure?
  simp only [inNamedPredicate, Predicate.test, Predicate.tests, hlong]
  rfl

theorem search_inNamed_of_long {text : String} (h : maxWildcardBytes ≤ text.length) :
    (ofStore (.after (oneAtHome []))).search "owner@example.com" "home" (inNamed "secret" text) =
        .ok [] ∧
      (ofStore (.after (oneAtHome [.createEntity secret]))).search "owner@example.com" "home"
        (inNamed "secret" text) = .error (.storage .longPattern) := by
  rw [search_inNamed rfl, search_inNamed rfl, Store.queryMedia, Store.queryMedia, failure_inNamed h]
  refine ⟨?_, rfl⟩
  have hnone : ((Store.after (oneAtHome [])).view "home").filter
      ((inNamedPredicate "secret" text).holds (Store.after (oneAtHome []))) = [] := rfl
  have hfailure : (inNamedPredicate "secret" text).failure? (Store.after (oneAtHome [])) "home" =
      none := rfl
  rw [hfailure, Store.select, hnone, List.mergeSort_nil]
  rfl

/-- A person in a media item of the other catalog. -/
def portraitAtWork : Store :=
  .after (oneAtHome [.createMedia "two" "work" "2020-01-01T00:00:00.000Z" .empty,
    .createEntity ⟨.person, "ann", "work", none, "Ann"⟩, .addRelations .person "work" ["two"] ["ann"]])

/-- The same with a location that is no document, which no operation would have stored. -/
def blottedAtWork : Store :=
  { portraitAtWork with links := portraitAtWork.links.map ({ · with location := some .malformed }) }

theorem agrees_blottedAtWork : Store.Agrees "home" portraitAtWork blottedAtWork where
  items _ _ := Iff.rfl
  entities _ _ := Iff.rfl
  links i hi hcatalog l hmedia := by
    have hone : ∀ i ∈ portraitAtWork.items, i.catalog = "home" → i.id = "one" := by decide
    have hlinks : ∀ l ∈ portraitAtWork.links, l.media ≠ "one" := by decide
    have hlinks' : ∀ l ∈ blottedAtWork.links, l.media ≠ "one" := by decide
    have hmedia := hmedia.trans (hone i hi hcatalog)
    exact iff_of_false (fun hl => hlinks l hl hmedia) fun hl => hlinks' l hl hmedia
  files _ _ _ _ := rfl
  keyed := Store.keyed_after
  keyed' := ⟨by decide, by decide, by decide⟩
  apart := ⟨by decide, by decide⟩
  apart' := ⟨by decide, by decide⟩

theorem listCatalog_portraitAtWork :
    (∃ rows, (ofStore portraitAtWork).listCatalog "owner@example.com" "home" = .ok rows) ∧
      (ofStore blottedAtWork).listCatalog "owner@example.com" "home" =
        .error (.storage .malformedDocument) := by
  have hstamps : ∀ row ∈ portraitAtWork.view "home", row.HasStamps := by decide
  have hnobody : ∀ row ∈ portraitAtWork.view "home", ∀ l ∈ portraitAtWork.links,
      l.relation = .person → l.media ≠ row.id := by decide
  refine ⟨(exists_listCatalog rfl rfl).2 fun row hrow => ?_, rfl⟩
  exact (hstamps row hrow).readable_iff.2 (Store.locates_of_nobody (hnobody row hrow))

/-- The answer of a search tells whether the other catalog has the album, and that of a listing whether
it has the malformed location. -/
theorem told_apart :
    (Store.Agrees "home" (Store.after (oneAtHome [])) (Store.after (oneAtHome [.createEntity secret])) ∧
      (ofStore (.after (oneAtHome []))).authorize "owner@example.com" "home" =
        (ofStore (.after (oneAtHome [.createEntity secret]))).authorize "owner@example.com" "home" ∧
      (ofStore (.after (oneAtHome []))).search "owner@example.com" "home"
          (inNamed "secret" Query.longText) = .ok [] ∧
        (ofStore (.after (oneAtHome [.createEntity secret]))).search "owner@example.com" "home"
          (inNamed "secret" Query.longText) = .error (.storage .longPattern)) ∧
    Store.Agrees "home" portraitAtWork blottedAtWork ∧
      (ofStore portraitAtWork).authorize "owner@example.com" "home" =
        (ofStore blottedAtWork).authorize "owner@example.com" "home" ∧
      (∃ rows, (ofStore portraitAtWork).listCatalog "owner@example.com" "home" = .ok rows) ∧
        (ofStore blottedAtWork).listCatalog "owner@example.com" "home" =
          .error (.storage .malformedDocument) :=
  ⟨⟨agrees_secret, rfl, search_inNamed_of_long (Nat.le_of_eq Query.length_longText.symm)⟩,
    agrees_blottedAtWork, rfl, listCatalog_portraitAtWork⟩

end SearchService

end MediaCatalog
