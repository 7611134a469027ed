import MediaCatalog.Proofs.Hierarchies
import MediaCatalog.Proofs.Histories
import MediaCatalog.Proofs.Inversion
import Mathlib.Data.List.Permutation
/-!
# Listing albums

The listing of an album shows the media items that are linked to it, and when it is recursive those
that are linked to anything at or below it, as the hierarchy itself tells what lies there. Listings
are searches with queries of their own, which the limit on the depth of queries refuses like others.
-/

namespace MediaCatalog

/-! ## What is in an album -/

namespace Store

/-- A media item is linked to an album, or to one at or below it when recursive. -/
def IsInAlbum (s : Store) (album : String) (recursive : Bool) (media : String) : Prop :=
  ∃ l ∈ s.links, l.relation = .album ∧ l.media = media ∧
    if recursive then l.entity ∈ s.hierarchyIds .album album .descendants else l.entity = album

instance {s : Store} {album : String} {recursive : Bool} {media : String} :
    Decidable (s.IsInAlbum album recursive media) :=
  inferInstanceAs (Decidable (∃ l ∈ s.links, l.relation = .album ∧ l.media = media ∧
    if recursive then l.entity ∈ s.hierarchyIds .album album .descendants else l.entity = album))

/-- The rows of the view whose media items are in an album, each as often as it stands there, in the
order in which rows are shown. -/
structure ListsAlbum (s : Store) (catalog album : String) (recursive : Bool) (shown : List ViewRow) :
    Prop where
  perm : shown.Perm ((s.view catalog).filter fun row => s.IsInAlbum album recursive row.id)
  ordered : shown.Pairwise ViewRow.Precedes

namespace ListsAlbum

variable {s : Store} {catalog album : String} {recursive : Bool} {shown : List ViewRow} {row : ViewRow}

theorem mem (h : s.ListsAlbum catalog album recursive shown) :
    row ∈ shown ↔ row ∈ s.view catalog ∧ s.IsInAlbum album recursive row.id := by
  rw [h.perm.mem_iff, List.mem_filter, decide_eq_true_eq]

end ListsAlbum

end Store

namespace Query

variable {s : Store} {catalog album : String} {recursive : Bool} {row : ViewRow} {x : String}
  {limit : Nat}

/-- What the query is compiled to. -/
def inAlbumPredicate (catalog album : String) (recursive : Bool) : Predicate :=
  .linked ⟨.album, catalog, recursive, false⟩
    (.all [.compare ⟨.entity .album .id, none, .equal, some (.text album), false⟩])

theorem compile_inAlbum :
    (inAlbum album recursive).compile catalog .media = .ok (inAlbumPredicate catalog album recursive) :=
  rfl

/-- The query is accepted from some limit on, and below it nothing but the limit is in its way. -/
def NeedsDepth (q : Query) (depth : Nat) : Prop :=
  ∀ limit, q.check false limit = if depth ≤ limit then .ok () else .error (.tooDeep limit)

/-- The query of an album is two nodes deep. -/
theorem needsDepth_inAlbum : (inAlbum album recursive).NeedsDepth 2
  | 0 => rfl
  | 1 => by cases recursive <;> rfl
  | n + 2 => by
    rw [if_pos (Nat.le_add_left 2 n)]
    refine checkNode_group.2 ⟨by omega, by cases recursive <;> rfl, fun q hq => ?_⟩
    rw [List.mem_singleton.1 hq]
    exact checkNode_field.2 ⟨by omega, rfl⟩

/-- The query of a catalog is one node deep. -/
theorem needsDepth_everything : everything.NeedsDepth 1
  | 0 => rfl
  | n + 1 => by
    rw [if_pos (Nat.le_add_left 1 n)]
    exact checkNode_group.2 ⟨by omega, rfl, fun q hq => absurd hq List.not_mem_nil⟩

end Query

/-! ## Listings -/

namespace SearchService

variable {service : SearchService} {caller catalog album : String} {recursive : Bool} {limit : Nat}

/-- Two albums that stand in a circle, and a media item that is linked to both. -/
def dayAndNight : List Operation :=
  [.createUser "owner@example.com" "Owner", .createCatalog "home" "Home",
    .grant "owner@example.com" "home" false,
    .createEntity ⟨.album, "day", "home", none, "Day"⟩,
    .createEntity ⟨.album, "night", "home", some "day", "Night"⟩,
    .setParent .album "day" (some "night"),
    .createMedia "one" "home" "2020-01-01T00:00:00.000Z" .empty,
    .createMedia "two" "home" "2020-01-01T00:00:00.000Z" .empty,
    .addRelations .album "home" ["one"] ["day", "night"]]

/-- The service with another limit on the depth of queries. -/
def withMaxDepth (service : SearchService) (limit : Nat) : SearchService :=
  { service with maxDepth := limit }

variable {q : Query} {p : Predicate} {depth m n : Nat} {e : ValidationError}

/-- A query that is accepted is answered as with any other limit that accepts it. -/
theorem search_withMaxDepth (hread : (service.authorize caller catalog).canRead = true)
    (hp : q.compile catalog .media = .ok p) (hcheck : q.check false limit = .ok ()) :
    (service.withMaxDepth limit).search caller catalog q =
      (service.store.queryMedia catalog p.normalize).mapError .storage :=
  @search_eq (service.withMaxDepth limit) caller catalog q p hread hcheck hp

theorem search_withMaxDepth_error (hread : (service.authorize caller catalog).canRead = true)
    (hcheck : q.check false limit = .error e) :
    (service.withMaxDepth limit).search caller catalog q = .error (.invalid e) := by
  rw [@search_of_canRead (service.withMaxDepth limit) caller catalog q hread]
  refine execute_of_prepare_error ?_
  simp only [prepare, withMaxDepth, hcheck]
  rfl

theorem search_withMaxDepth_denied (hread : (service.authorize caller catalog).canRead = false) :
    (service.withMaxDepth limit).search caller catalog q = .error (.notAuthorized catalog) :=
  @search_of_not_canRead (service.withMaxDepth limit) caller catalog q hread

/-- A search is invalid only for a caller who may read and below the depth that its query needs. -/
theorem search_eq_invalid (hdepth : q.NeedsDepth depth) (hp : q.compile catalog .media = .ok p) :
    (service.withMaxDepth n).search caller catalog q = .error (.invalid e) ↔
      (service.authorize caller catalog).canRead = true ∧ n < depth ∧ e = .tooDeep n := by
  cases hread : (service.authorize caller catalog).canRead with
  | false => simp [search_withMaxDepth_denied hread]
  | true =>
    by_cases hn : depth ≤ n
    · have hsearch := search_withMaxDepth hread hp ((hdepth n).trans (if_pos hn))
      rw [hsearch]
      refine iff_of_false (fun h => ?_) fun h => Nat.not_le_of_lt h.2.1 hn
      cases hrows : service.store.queryMedia catalog p.normalize <;> rw [hrows] at h <;> cases h
    · rw [search_withMaxDepth_error hread ((hdepth n).trans (if_neg hn))]
      simp [Nat.lt_of_not_le hn, eq_comm]

/-- Two limits answer a search alike when they are the same, when both are enough for its query, and
when the caller may not read. -/
theorem search_congr_iff (hdepth : q.NeedsDepth depth) (hp : q.compile catalog .media = .ok p) :
    (service.withMaxDepth m).search caller catalog q =
        (service.withMaxDepth n).search caller catalog q ↔
      m = n ∨ (service.authorize caller catalog).canRead = false ∨ (depth ≤ m ∧ depth ≤ n) := by
  constructor
  · intro hsame
    by_contra hnot
    obtain ⟨hne, hread, hshallow⟩ := by simpa only [not_or, Bool.not_eq_false] using hnot
    -- One of the two limits is too low, so both answers are about it.
    have hinvalid := fun k e => @search_eq_invalid service caller catalog q p depth k e hdepth hp
    rcases Nat.lt_or_ge m depth with hm | hm
    · have hfails := (hinvalid m _).2 ⟨hread, hm, rfl⟩
      rw [hsame] at hfails
      exact hne (ValidationError.tooDeep.inj ((hinvalid n _).1 hfails).2.2)
    · have hfails := (hinvalid n _).2 ⟨hread, by omega, rfl⟩
      rw [← hsame] at hfails
      exact absurd ((hinvalid m _).1 hfails).2.1 (Nat.not_lt_of_le hm)
  · rintro (rfl | hread | ⟨hm, hn⟩)
    · rfl
    · rw [search_withMaxDepth_denied hread, search_withMaxDepth_denied hread]
    · cases hread : (service.authorize caller catalog).canRead with
      | false => rw [search_withMaxDepth_denied hread, search_withMaxDepth_denied hread]
      | true =>
        rw [search_withMaxDepth hread hp ((hdepth m).trans (if_pos hm)),
          search_withMaxDepth hread hp ((hdepth n).trans (if_pos hn))]

/-- What the limit on the depth of queries does to listings, whose queries nobody asked for: it has to
leave room for one node for a catalog, and for two for an album. -/
structure DepthLaws (service : SearchService) (caller : String) : Prop where
  /-- Two limits give the same listing of a catalog, unless just one of them is zero, or neither is
  asked for. -/
  catalog : ∀ catalog m n,
    (service.withMaxDepth m).listCatalog caller catalog =
        (service.withMaxDepth n).listCatalog caller catalog ↔
      m = n ∨ (service.authorize caller catalog).canRead = false ∨ (1 ≤ m ∧ 1 ≤ n)
  album : ∀ album home recursive m n, service.store.entityCatalog? .album album = some home →
    ((service.withMaxDepth m).listAlbum caller album recursive =
        (service.withMaxDepth n).listAlbum caller album recursive ↔
      m = n ∨ (service.authorize caller home).canRead = false ∨ (2 ≤ m ∧ 2 ≤ n))
  /-- A caller who may read a catalog is told that the query is too deep, with the limit zero. -/
  catalog_invalid : ∀ catalog n e,
    (service.withMaxDepth n).listCatalog caller catalog = .error (.invalid e) ↔
      (service.authorize caller catalog).canRead = true ∧ n < 1 ∧ e = .tooDeep n
  /-- So is one who lists an album, with the limits zero and one. -/
  album_invalid : ∀ album home recursive n e, service.store.entityCatalog? .album album = some home →
    ((service.withMaxDepth n).listAlbum caller album recursive = .error (.invalid e) ↔
      (service.authorize caller home).canRead = true ∧ n < 2 ∧ e = .tooDeep n)
  absent : ∀ album recursive n, service.store.entityCatalog? .album album = none →
    (service.withMaxDepth n).listAlbum caller album recursive = .error (.notFound "album" album)

theorem depthLaws (service : SearchService) (caller : String) : service.DepthLaws caller where
  catalog catalog m n := search_congr_iff Query.needsDepth_everything rfl
  album album home recursive m n halbum := by
    rw [@listAlbum_eq (service.withMaxDepth m) caller album home recursive halbum,
      @listAlbum_eq (service.withMaxDepth n) caller album home recursive halbum]
    exact search_congr_iff Query.needsDepth_inAlbum Query.compile_inAlbum
  catalog_invalid catalog n e := search_eq_invalid Query.needsDepth_everything rfl
  album_invalid album home recursive n e halbum := by
    rw [@listAlbum_eq (service.withMaxDepth n) caller album home recursive halbum]
    exact search_eq_invalid Query.needsDepth_inAlbum Query.compile_inAlbum
  absent album recursive n halbum :=
    @listAlbum_of_absent (service.withMaxDepth n) caller album recursive halbum

/-- With the limit one an album cannot be listed, though its catalog can. -/
theorem depthLaws_dayAndNight :
    let service := ofStore (.after dayAndNight)
    (service.withMaxDepth 1).listAlbum "owner@example.com" "day" false = .error (.invalid (.tooDeep 1)) ∧
      (service.withMaxDepth 1).listAlbum "owner@example.com" "day" false ≠
        (service.withMaxDepth 2).listAlbum "owner@example.com" "day" false ∧
      (service.withMaxDepth 1).listCatalog "owner@example.com" "home" =
        (service.withMaxDepth 2).listCatalog "owner@example.com" "home" ∧
      (service.withMaxDepth 0).listCatalog "owner@example.com" "home" = .error (.invalid (.tooDeep 0)) := by
  have hlaws := depthLaws (ofStore (.after dayAndNight)) "owner@example.com"
  refine ⟨(hlaws.album_invalid "day" "home" false 1 _ rfl).2 ⟨rfl, by decide, rfl⟩, fun h => ?_,
    (hlaws.catalog "home" 1 2).2 (.inr (.inr (by decide))),
    (hlaws.catalog_invalid "home" 0 _).2 ⟨rfl, by decide, rfl⟩⟩
  obtain h | h | h := (hlaws.album "day" "home" false 1 2 rfl).1 h
  · cases h
  · cases h
  · exact absurd h.1 (by decide)

end SearchService

end MediaCatalog
