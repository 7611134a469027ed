import MediaCatalog.Search.Error
import MediaCatalog.Query.Compile
import MediaCatalog.Predicate.Normalize
import MediaCatalog.Store.Row
import MediaCatalog.Store.Catalogs
import MediaCatalog.Store.Searches
/-!
# Searching

A search is authorized, checked, compiled and run, in this order; the first step that fails gives
the error. Listings search with queries of their own.
-/

namespace MediaCatalog

/-- What a search depends on beside its query: the store, the access of callers, and how deep
queries may nest. -/
structure SearchService where
  store : Store
  authorize : String → String → Access
  maxDepth : Nat

/-- The rows of a shared search, with its name. -/
structure SharedRows where
  name : String
  rows : List MediaRow

namespace SearchService

/-- Callers have the access that the store grants them. -/
def ofStore (s : Store) : SearchService := ⟨s, s.authorize, defaultMaxDepth⟩

/-- A caller may read a catalog. -/
def requireRead (service : SearchService) (caller catalog : String) : Except SearchError Unit :=
  if (service.authorize caller catalog).canRead then .ok () else .error (.notAuthorized catalog)

/-- The predicate of a query that keeps the rules, in normal form. -/
def prepare (service : SearchService) (catalog : String) (q : Query) :
    Except SearchError Predicate := do
  (q.check false service.maxDepth).mapError .invalid
  let p ← (q.compile catalog .media).mapError .invalid
  return p.normalize

/-- The rows of a catalog that satisfy a query, whoever asks. -/
def execute (service : SearchService) (catalog : String) (q : Query) :
    Except SearchError (List MediaRow) := do
  let p ← service.prepare catalog q
  (service.store.queryMedia catalog p).mapError .storage

/-- The rows of a catalog that satisfy a query, for a caller. -/
def search (service : SearchService) (caller catalog : String) (q : Query) :
    Except SearchError (List MediaRow) := do
  service.requireRead caller catalog
  service.execute catalog q

/-- Searches the catalog that a search names. -/
def run (service : SearchService) (caller : String) (x : Search) :
    Except SearchError (List MediaRow) :=
  service.search caller x.catalog x.query

/-- The media items in an album, or in it and all albums below it. -/
def listAlbum (service : SearchService) (caller album : String) (recursive : Bool) :
    Except SearchError (List MediaRow) := do
  match service.store.entityCatalog? .album album with
  | none => throw (.notFound "album" album)
  | some catalog => service.search caller catalog (.inAlbum album recursive)

/-- All media items of a catalog. -/
def listCatalog (service : SearchService) (caller catalog : String) :
    Except SearchError (List MediaRow) :=
  service.search caller catalog .everything

/-! ## Shared searches -/

/-- A search that is saved and shared. One that is not shared is not found. -/
def sharedDefinition (service : SearchService) (id : String) : Except SearchError SavedSearch :=
  match (service.store.storedSearch? id).filter (·.shared) with
  | some r => r.read.mapError .corrupt
  | none => .error (.notFound "search" id)

/-- The rows of a shared search, for any caller. Finding and running it is one transaction. -/
def runShared (service : SearchService) (id : String) : Except SearchError SharedRows :=
  if service.store.inTransaction then .error (.storage .nestedTransaction)
  else do
    let r ← service.sharedDefinition id
    return ⟨r.name, ← service.execute r.catalog r.query⟩

end SearchService

end MediaCatalog
