import MediaCatalog.Proofs.Results
import MediaCatalog.Search.Basic
/-!
# Answers

A caller who may read a catalog gets what its query gives to anyone, and one who may not gets the same
refusal for every query.
-/

namespace MediaCatalog.SearchService

variable {service other : SearchService} {caller catalog album home : String} {q : Query} {p : Predicate}
  {recursive : Bool} {answer : Except SearchError (List MediaRow)} {rows : List MediaRow}
  {e : SearchError}

/-! ## Steps of a search -/

theorem search_of_canRead (h : (service.authorize caller catalog).canRead = true) :
    service.search caller catalog q = service.execute catalog q := by
  rw [search, requireRead, if_pos h]
  rfl

theorem search_of_not_canRead (h : (service.authorize caller catalog).canRead = false) :
    service.search caller catalog q = .error (.notAuthorized catalog) := by
  simp [search, requireRead, h, bind, Except.bind]

theorem execute_of_prepare (h : service.prepare catalog q = .ok p) :
    service.execute catalog q = (service.store.queryMedia catalog p).mapError .storage := by
  rw [execute, h]
  rfl

theorem execute_of_prepare_error (h : service.prepare catalog q = .error e) :
    service.execute catalog q = .error e := by
  rw [execute, h]
  rfl

/-- A query is prepared without a look at any row. -/
theorem prepare_congr (hdepth : service.maxDepth = other.maxDepth) :
    service.prepare catalog q = other.prepare catalog q := by
  rw [prepare, prepare, hdepth]

/-- Who may read catalogs does not bear on what a query gives. -/
theorem execute_congr (hstore : service.store = other.store)
    (hdepth : service.maxDepth = other.maxDepth) : service.execute catalog q = other.execute catalog q := by
  rw [execute, execute, prepare_congr hdepth, hstore]

/-! ## Answers on a catalog -/

/-- The answers that a caller can get on a catalog. -/
inductive Answers (service : SearchService) (caller catalog : String) :
    Except SearchError (List MediaRow) → Prop
  | search (q : Query) : Answers service caller catalog (service.search caller catalog q)
  | run (x : Search) : x.catalog = catalog → Answers service caller catalog (service.run caller x)
  | listCatalog : Answers service caller catalog (service.listCatalog caller catalog)

/-- Every answer on a catalog is that of a search. -/
theorem Answers.exists_search (h : service.Answers caller catalog answer) :
    ∃ q, answer = service.search caller catalog q := by
  cases h with
  | search q => exact ⟨q, rfl⟩
  | run x hx => exact ⟨x.query, by rw [← hx]; rfl⟩
  | listCatalog => exact ⟨.everything, rfl⟩

theorem listAlbum_eq (hhome : service.store.entityCatalog? .album album = some home) :
    service.listAlbum caller album recursive =
      service.search caller home (.inAlbum album recursive) := by
  rw [listAlbum, hhome]

theorem listAlbum_of_absent (hhome : service.store.entityCatalog? .album album = none) :
    service.listAlbum caller album recursive = .error (.notFound "album" album) := by
  rw [listAlbum, hhome]
  rfl

theorem exists_of_listAlbum (h : service.listAlbum caller album recursive = .ok rows) :
    ∃ home, service.store.entityCatalog? .album album = some home ∧
      service.search caller home (.inAlbum album recursive) = .ok rows := by
  cases hhome : service.store.entityCatalog? .album album with
  | none =>
    rw [listAlbum_of_absent hhome] at h
    cases h
  | some home =>
    rw [listAlbum_eq hhome] at h
    exact ⟨home, rfl, h⟩

theorem canRead_of_search (h : service.search caller catalog q = .ok rows) :
    (service.authorize caller catalog).canRead = true := by
  cases hread : (service.authorize caller catalog).canRead with
  | true => rfl
  | false =>
    rw [search_of_not_canRead hread] at h
    cases h

theorem exists_of_search (h : service.search caller catalog q = .ok rows) :
    ∃ p, service.prepare catalog q = .ok p ∧ service.store.queryMedia catalog p = .ok rows := by
  rw [search_of_canRead (canRead_of_search h)] at h
  cases hp : service.prepare catalog q with
  | error e =>
    rw [execute_of_prepare_error hp] at h
    cases h
  | ok p =>
    rw [execute_of_prepare hp] at h
    exact ⟨p, rfl, mapError_eq_ok.1 h⟩

end MediaCatalog.SearchService
