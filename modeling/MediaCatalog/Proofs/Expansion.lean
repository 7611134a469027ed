import MediaCatalog.Proofs.Inversion
/-!
# Recursive relations

When a relation of a query takes in what lies below the things that it picks, the query is true of more
rows, or of fewer if the relation stands under an odd number of inversions.
-/

namespace MediaCatalog

/-! ## Order of truth -/

namespace Truth

/-- From no over unknown to yes. -/
def rank : Truth → Nat
  | no => 0
  | unknown => 1
  | yes => 2

/-- One truth is at least another, or at most that under an odd number of inversions. -/
def Grows (odd : Bool) (t u : Truth) : Prop := if odd then u.rank ≤ t.rank else t.rank ≤ u.rank

variable {odd invert : Bool} {t t' u u' : Truth} {ts us : List Truth} {j : Join}

theorem rank_and : (t.and u).rank = min t.rank u.rank := by cases t <;> cases u <;> rfl

theorem rank_or : (t.or u).rank = max t.rank u.rank := by cases t <;> cases u <;> rfl

theorem rank_not : t.not.rank + t.rank = 2 := by cases t <;> rfl

theorem Grows.refl : Grows odd t t := by simp [Grows]

theorem Grows.and (h : Grows odd t t') (h' : Grows odd u u') : Grows odd (t.and u) (t'.and u') := by
  unfold Grows at h h' ⊢
  rw [rank_and, rank_and]
  cases odd <;> simp at h h' ⊢ <;> omega

theorem Grows.or (h : Grows odd t t') (h' : Grows odd u u') : Grows odd (t.or u) (t'.or u') := by
  unfold Grows at h h' ⊢
  rw [rank_or, rank_or]
  cases odd <;> simp at h h' ⊢ <;> omega

theorem Grows.invertIf (h : Grows odd t u) :
    Grows (odd != invert) (t.invertIf invert) (u.invertIf invert) := by
  have ht := @rank_not t
  have hu := @rank_not u
  unfold Grows Truth.invertIf at *
  cases odd <;> cases invert <;> simp at h ⊢ <;> omega

/-- A group grows with each of its parts. -/
theorem Grows.joined (h : Grows odd t u) : Grows odd (j.truth (ts ++ t :: us)) (j.truth (ts ++ u :: us)) := by
  cases j with
  | all =>
    induction ts with
    | nil => exact h.and .refl
    | cons t₀ ts ih => exact Grows.refl.and ih
  | any =>
    induction ts with
    | nil => exact h.or .refl
    | cons t₀ ts ih => exact Grows.refl.or ih

/-- What is true of no more rows is true of no others. -/
theorem Grows.eq_yes (h : Grows false t u) (ht : t = yes) : u = yes := by
  cases u <;> simp [ht, Grows, rank] at h ⊢

theorem grows_ofBool {b c : Bool} (h : b = true → c = true) :
    Grows invert (ofBool (b != invert)) (ofBool (c != invert)) := by
  cases invert <;> cases b <;> cases c <;> simp_all [Grows, ofBool, rank]

end Truth

/-! ## Relations that are made recursive -/

/-- One relation of a query is made recursive, under an odd or an even number of inversions with its
own. -/
inductive Query.Expands : Bool → Query → Query → Prop
  | here {j : Join} {invert : Bool} {r : Relation} {parts : List Query} : r.isHierarchical = true →
      Expands invert (.group ⟨j, invert, some r, false⟩ parts) (.group ⟨j, invert, some r, true⟩ parts)
  | inside {odd : Bool} {how : Grouping} {before after : List Query} {q q' : Query} : Expands odd q q' →
      Expands (odd != how.invert) (.group how (before ++ q :: after)) (.group how (before ++ q' :: after))

namespace Query

variable {odd : Bool} {q q' : Query} {s : Store} {catalog : String} {row : ViewRow}
  {limit depth : Nat} {related : Bool}

/-- Below a relation there is none to be made recursive. -/
theorem Expands.not_related (h : Expands odd q q') : q.checkNode limit true depth ≠ .ok () := by
  induction h generalizing depth with
  | here =>
    intro hcheck
    obtain ⟨-, hhow, -⟩ := checkNode_group.1 hcheck
    cases hhow
  | inside _ ih =>
    intro hcheck
    obtain ⟨-, -, hparts⟩ := checkNode_group.1 hcheck
    exact ih (hparts _ (by simp))

/-- What is made recursive is accepted as before. -/
theorem Expands.check (h : Expands odd q q') (hcheck : q.checkNode limit related depth = .ok ()) :
    q'.checkNode limit related depth = .ok () := by
  induction h generalizing related depth with
  | here hr =>
    obtain ⟨hdepth, hhow, hparts⟩ := checkNode_group.1 hcheck
    refine checkNode_group.2 ⟨hdepth, Grouping.check_eq_ok.2 ?_, hparts⟩
    rintro _ ⟨⟩
    exact ⟨(Grouping.check_eq_ok.1 hhow _ rfl).1, fun _ => hr⟩
  | inside _ ih =>
    obtain ⟨hdepth, hhow, hparts⟩ := checkNode_group.1 hcheck
    refine checkNode_group.2 ⟨hdepth, hhow, ?_⟩
    simp only [List.forall_mem_append, List.forall_mem_cons] at hparts ⊢
    exact ⟨hparts.1, ih hparts.2.1, hparts.2.2⟩

/-- What a relation picks is among what it picks with all that lies below. -/
theorem selects_of_mem {r : Relation} {chosen : List String} {id : String}
    (h : s.Selects r false chosen id) : s.Selects r true chosen id :=
  ⟨id, h, .refl⟩

/-- The truth of an accepted query grows when a relation in it is made recursive. -/
theorem Expands.grows (h : Expands odd q q') (hcheck : q.checkNode limit false depth = .ok ()) :
    Truth.Grows odd (q.meaning s catalog row none) (q'.meaning s catalog row none) := by
  induction h generalizing depth with
  | here hr =>
    simp only [meaning]
    refine Truth.grows_ofBool fun hlinked => ?_
    obtain ⟨l, hl, hrelation, hmedia, hselects⟩ := of_decide_eq_true hlinked
    exact decide_eq_true ⟨l, hl, hrelation, hmedia, selects_of_mem hselects⟩
  | @inside odd how before after q q' hq ih =>
    obtain ⟨-, -, hparts⟩ := checkNode_group.1 hcheck
    have hpart := hparts q (by simp)
    simp only [meaning]
    cases hr : how.relation with
    | none =>
      rw [hr] at hpart
      simp only [meanings_eq, List.map_append, List.map_cons]
      exact (ih hpart).joined.invertIf
    | some r =>
      rw [hr] at hpart
      exact absurd hpart hq.not_related

/-- The media items that are not in an album. -/
def notInAlbum (id : String) (recursive : Bool) : Query :=
  .group ⟨.all, true, none, false⟩ [.inAlbum id recursive]

theorem expands_notInAlbum {id : String} : Expands true (notInAlbum id false) (notInAlbum id true) :=
  @Expands.inside false ⟨.all, true, none, false⟩ [] [] (.inAlbum id false) (.inAlbum id true) (.here rfl)

end Query

/-! ## Searches -/

namespace SearchService

variable {service : SearchService} {caller catalog : String} {q q' : Query} {found found' : List ViewRow}
  {rows rows' : List MediaRow}

/-- A query that is true of more rows finds more. -/
theorem Finds.subset (hfound : service.Finds caller catalog q found rows)
    (hfound' : service.Finds caller catalog q' found' rows')
    (h : ∀ row, q.meaning service.store catalog row none = .yes →
      q'.meaning service.store catalog row none = .yes) : found ⊆ found' ∧ rows ⊆ rows' := by
  have hsub : found ⊆ found' := by
    intro row hrow
    obtain ⟨hview, hyes⟩ := hfound.2.2.mem.1 hrow
    exact hfound'.2.2.mem.2 ⟨hview, h row hyes⟩
  refine ⟨hsub, fun shown hshown => ?_⟩
  obtain ⟨row, hrow, hread⟩ := exists_of_forall₂ (mapM_eq_ok.1 hfound.2.1) hshown
  obtain ⟨shown', hshown', hread'⟩ := exists_of_forall₂ (mapM_eq_ok.1 hfound'.2.1).flip (hsub hrow)
  rwa [Except.ok.inj (hread.symm.trans hread')]

/-- When a relation of an accepted query is made recursive, the query is accepted as before. Unless one of
the two exceeds a limit it finds all that it found, or, if the relation stands under an odd number of
inversions with its own, nothing that it did not find, where no stored location is malformed and the rows
can be read back. -/
theorem search_expanded (service : SearchService) (caller catalog : String) (odd : Bool) (q q' : Query)
    (hread : (service.authorize caller catalog).canRead = true)
    (hcheck : q.check false service.maxDepth = .ok ()) (hdocuments : service.store.hasMalformed = false)
    (hrows : ∀ row ∈ service.store.view catalog, service.store.Readable row)
    (hexpands : q.Expands odd q') :
    q'.check false service.maxDepth = .ok () ∧
      (service.IsRefused caller catalog q ∨ service.IsRefused caller catalog q' ∨
        ∃ found found' rows rows', service.Finds caller catalog q found rows ∧
          service.Finds caller catalog q' found' rows' ∧
          if odd then found' ⊆ found ∧ rows' ⊆ rows else found ⊆ found' ∧ rows ⊆ rows') := by
  have hcheck' : q'.check false service.maxDepth = .ok () := hexpands.check hcheck
  refine ⟨hcheck', ?_⟩
  rcases exists_finds hread hcheck hdocuments hrows with hrefused | ⟨found, rows, hfound⟩
  · exact .inl hrefused
  rcases exists_finds hread hcheck' hdocuments hrows with hrefused | ⟨found', rows', hfound'⟩
  · exact .inr (.inl hrefused)
  refine .inr (.inr ⟨found, found', rows, rows', hfound, hfound', ?_⟩)
  cases odd with
  | true => exact hfound'.subset hfound fun row => (hexpands.grows hcheck).eq_yes
  | false => exact hfound.subset hfound' fun row => (hexpands.grows hcheck).eq_yes

/-- Of the items that are not in an album fewer are left when the albums below it count too. -/
theorem search_expanded_notInAlbum :
    ((openService.authorize "someone" "home").canRead = true ∧
      (Query.notInAlbum "summer" false).check false openService.maxDepth = .ok () ∧
      openService.store.hasMalformed = false ∧
      (∀ row ∈ openService.store.view "home", openService.store.Readable row) ∧
      Query.Expands true (.notInAlbum "summer" false) (.notInAlbum "summer" true)) ∧
    (openService.IsRefused "someone" "home" (.notInAlbum "summer" false) ∨
      openService.IsRefused "someone" "home" (.notInAlbum "summer" true) ∨
      ∃ found found' rows rows',
        openService.Finds "someone" "home" (.notInAlbum "summer" false) found rows ∧
          openService.Finds "someone" "home" (.notInAlbum "summer" true) found' rows' ∧
          found' ⊆ found ∧ rows' ⊆ rows) :=
  ⟨⟨rfl, rfl, rfl, openService_rows, Query.expands_notInAlbum⟩,
    (search_expanded openService "someone" "home" true _ _ rfl rfl rfl openService_rows
      Query.expands_notInAlbum).2⟩

end SearchService

/-! ## Relations over wide groups -/

namespace Predicate

variable {p : Predicate} {n first : Nat}

theorem groupHeight_replicate (h : p.height ≤ first) :
    groupHeight first (List.replicate n p) = first + n := by
  induction n generalizing first with
  | zero => rfl
  | succ n ih =>
    rw [List.replicate_succ, groupHeight, max_eq_left h, ih (by omega)]
    omega

theorem innerHeights_replicate (h : p.innerHeight = 0) : innerHeights (List.replicate n p) = 0 := by
  induction n with
  | zero => rfl
  | succ n ih => rw [List.replicate_succ, innerHeights, h, ih, max_self]

theorem params_replicate {separator : String} (h : p.lower.params = []) :
    (lowerRest separator (List.replicate n p)).params = [] := by
  induction n with
  | zero => rfl
  | succ n ih => simp [List.replicate_succ, lowerRest, Sql.params, Sql.params_append, h, ih]

end Predicate

namespace Query

/-- The media items in none of the albums without a name, which is asked of each album many times. -/
def inNoNameless (recursive : Bool) (n : Nat) : Query :=
  .group ⟨.all, true, some .album, recursive⟩
    (List.replicate n (.field ⟨"name", none, .empty, none, false⟩))

/-- What the query is compiled to. -/
def inNoNamelessPredicate (recursive : Bool) (n : Nat) : Predicate :=
  .linked ⟨.album, "home", recursive, true⟩
    (.all (List.replicate n (.compare ⟨.entity .album .name, none, .empty, none, false⟩)))

variable {recursive : Bool} {n : Nat}

theorem check_inNoNameless : (inNoNameless recursive n).check false defaultMaxDepth = .ok () := by
  refine checkNode_group.2 ⟨by decide, by cases recursive <;> rfl, fun q hq => ?_⟩
  rw [List.eq_of_mem_replicate hq]
  rfl

theorem compile_inNoNameless :
    (inNoNameless recursive n).compile "home" .media = .ok (inNoNamelessPredicate recursive n) :=
  @compile_group "home" .media ⟨.all, true, some .album, recursive⟩ _ _ (by cases recursive <;> rfl)
    (compileAll_replicate rfl n)

theorem normalize_inNoNameless :
    (inNoNamelessPredicate recursive n).normalize = inNoNamelessPredicate recursive n := by
  simp [inNoNamelessPredicate, Predicate.normalize, Predicate.pushNot, Predicate.pushNotAll_eq]

/-- Beneath a recursive relation the height of a filter counts once, and else three times. -/
theorem isShallow_inNoNameless : (inNoNamelessPredicate recursive (n + 1)).isShallow =
    decide ((if recursive then n + 15 else 3 * n + 19) ≤ maxExpressionHeight) := by
  have hheight : (Predicate.all (List.replicate (n + 1)
      (.compare ⟨.entity .album .name, none, .empty, none, false⟩))).height = n + 3 := by
    rw [List.replicate_succ, Predicate.height, Predicate.groupHeight_replicate (Nat.le_refl _)]
    exact Nat.add_comm 3 n
  have hinner : Predicate.innerHeights (List.replicate (n + 1)
      (.compare ⟨.entity .album .name, none, .empty, none, false⟩)) = 0 :=
    Predicate.innerHeights_replicate rfl
  have hseed : LinkScope.seedHeight (n + 3) = n + 4 := by
    rw [LinkScope.seedHeight]
    omega
  unfold Predicate.isShallow inNoNamelessPredicate
  simp only [Predicate.height, Predicate.innerHeight, hheight, hinner, LinkScope.height,
    LinkScope.linkHeight, hseed, Predicate.joinHeight, Predicate.viewHeight]
  cases recursive with
  | true =>
    simp [LinkScope.closes, Hierarchy.ofRelation?]
    omega
  | false =>
    simp [LinkScope.closes, Hierarchy.ofRelation?]
    omega

theorem isBindable_inNoNameless : (inNoNamelessPredicate recursive (n + 1)).isBindable = true := by
  have hfilter : (Predicate.all (List.replicate (n + 1)
      (.compare ⟨.entity .album .name, none, .empty, none, false⟩))).lower.params = [] := by
    rw [List.replicate_succ, Predicate.lower, Sql.params, Sql.params_append,
      Predicate.params_replicate rfl]
    rfl
  unfold Predicate.isBindable inNoNamelessPredicate
  cases recursive <;>
    simp [Predicate.lower, Sql.membership, Sql.closure, Sql.linkSeed, Sql.params, Sql.params_append,
      hfilter, Hierarchy.ofRelation?, maxBoundValues]

theorem conditionsOf_replicate {c x : FieldQuery}
    (hx : x ∈ conditionsOf (List.replicate n (.field c))) : x = c := by
  induction n with
  | zero => cases hx
  | succ n ih =>
    rcases List.mem_append.1 hx with hx | hx
    · exact List.mem_singleton.1 hx
    · exact ih hx

/-- The query exceeds a limit only by its height. -/
theorem exceeds_inNoNameless {e : StoreError}
    (h : (inNoNameless recursive (n + 1)).Exceeds (inNoNamelessPredicate recursive (n + 1)) e) :
    (inNoNamelessPredicate recursive (n + 1)).isShallow = false := by
  rcases h with hdeep | hmany | ⟨hx, hlong⟩
  · exact hdeep
  · rw [isBindable_inNoNameless] at hmany
    cases hmany
  · rw [conditionsOf_replicate hx] at hlong
    cases hlong

end Query

namespace SearchService

variable {n : Nat}

theorem search_inNoNameless_direct (h : maxExpressionHeight < 3 * n + 19) :
    openService.search "someone" "home" (.inNoNameless false (n + 1)) =
      .error (.storage .deepCondition) := by
  have hdeep : (Query.inNoNamelessPredicate false (n + 1)).isShallow = false := by
    rw [Query.isShallow_inNoNameless]
    exact decide_eq_false (Nat.not_le_of_lt h)
  rw [search_eq rfl Query.check_inNoNameless Query.compile_inNoNameless, Query.normalize_inNoNameless,
    Store.queryMedia, hdeep]
  rfl

theorem search_inNoNameless_recursive (h : n + 15 ≤ maxExpressionHeight) :
    ∃ rows, openService.search "someone" "home" (.inNoNameless true (n + 1)) = .ok rows ∧
      ∃ shown ∈ rows, shown.id = "one" := by
  have hfinds := @exists_finds openService "someone" "home" (.inNoNameless true (n + 1)) rfl
    Query.check_inNoNameless rfl openService_rows
  rcases hfinds with ⟨p, e, hp, -, hexceeds⟩ | ⟨found, rows, hsearch, hread, hshows⟩
  · obtain rfl := Except.ok.inj (Query.compile_inNoNameless.symm.trans hp)
    rw [Query.normalize_inNoNameless] at hexceeds
    have hdeep := Query.exceeds_inNoNameless hexceeds
    rw [Query.isShallow_inNoNameless] at hdeep
    exact absurd h (of_decide_eq_false hdeep)
  · obtain ⟨row, hview, hid⟩ : ∃ row ∈ openService.store.view "home", row.id = "one" :=
      ⟨_, .head _, rfl⟩
    -- No row is linked to anything.
    have hyes : (Query.inNoNameless true (n + 1)).meaning openService.store "home" row none = .yes := by
      simp only [Query.inNoNameless, Query.meaning]
      rw [decide_eq_false]
      · rfl
      · rintro ⟨l, hl, -⟩
        cases hl
    obtain ⟨shown, hshown, hshow⟩ :=
      exists_of_forall₂ (mapM_eq_ok.1 hread).flip (hshows.mem.2 ⟨hview, hyes⟩)
    exact ⟨rows, hsearch, shown, hshown, (Store.readRow_id hshow).trans hid⟩

/-- A relation that is not recursive makes a search too high that is not when it is recursive: the
item is in no album, and only the recursive search finds it. -/
theorem search_inNoNameless :
    Query.Expands true (.inNoNameless false 400) (.inNoNameless true 400) ∧
      (Query.inNoNameless false 400).check false openService.maxDepth = .ok () ∧
      openService.store.hasMalformed = false ∧
      (∀ row ∈ openService.store.view "home", openService.store.Readable row) ∧
      openService.search "someone" "home" (.inNoNameless false 400) =
        .error (.storage .deepCondition) ∧
      ∃ rows, openService.search "someone" "home" (.inNoNameless true 400) = .ok rows ∧
        ∃ shown ∈ rows, shown.id = "one" :=
  ⟨.here rfl, Query.check_inNoNameless, rfl, openService_rows, @search_inNoNameless_direct 399 (by decide),
    @search_inNoNameless_recursive 399 (by decide)⟩

end SearchService

end MediaCatalog
