import MediaCatalog.Store.Basic
import MediaCatalog.Query.Reader
/-!
# Saved searches

A saved search is kept as text and read again whenever it is loaded, so that what was saved may no
longer be a query when it is.
-/

namespace MediaCatalog

structure SavedSearch where
  id : String
  catalog : String
  name : String
  shared : Bool
  query : Query

namespace StoredSearch

/-- Reads the query of a stored search. -/
def read (r : StoredSearch) : Except Json.Fault SavedSearch :=
  (Query.parse r.query).map fun q => ⟨r.id, r.catalog, r.name, r.shared, q⟩

/-- The order in which searches are listed: by name, those of one name by id. -/
def isListedBefore (a b : StoredSearch) : Bool :=
  a.name < b.name || (a.name = b.name && a.id ≤ b.id)

end StoredSearch

namespace SavedSearch

/-- The row of a saved search. -/
def stored (r : SavedSearch) : StoredSearch := ⟨r.id, r.catalog, r.name, r.shared, r.query.text⟩

def toJson (r : SavedSearch) : Json :=
  .object [("id", .string r.id), ("catalog", .string r.catalog), ("name", .string r.name),
    ("shared", .bool r.shared), ("query", r.query.toJson)]

end SavedSearch

namespace Store

/-- Keeps a search whatever its text says. Its catalog has to exist. -/
def insertSearch (s : Store) (r : StoredSearch) : Except StoreError Store :=
  if s.hasSearch r.id then .error (.notUnique "saved_search.id")
  else if s.hasCatalog r.catalog then .ok { s with searches := s.searches ++ [r] }
  else .error .missingReference

/-- Saves a search. -/
def createSearch (s : Store) (r : SavedSearch) : Except StoreError Store := s.insertSearch r.stored

/-- Replaces what is saved under an id; tells whether there is anything. -/
def updateSearch (s : Store) (id name : String) (q : Query) (shared : Bool) : Bool × Store :=
  (s.hasSearch id,
    { s with searches := s.searches.map fun r =>
      if r.id = id then { r with name := name, shared := shared, query := q.text } else r })

/-- Deletes a search; tells whether there was one. -/
def deleteSearch (s : Store) (id : String) : Bool × Store :=
  (s.hasSearch id, { s with searches := s.searches.filter (·.id ≠ id) })

def storedSearch? (s : Store) (id : String) : Option StoredSearch :=
  s.searches.find? (·.id = id)

/-- The search with an id, if there is one. -/
def savedSearch (s : Store) (id : String) : Except Json.Fault (Option SavedSearch) :=
  match s.storedSearch? id with
  | some r => r.read.map some
  | none => .ok none

/-- The searches of a catalog in the order of their names. -/
def savedSearches (s : Store) (catalog : String) : Except Json.Fault (List SavedSearch) :=
  ((s.searches.filter (·.catalog = catalog)).mergeSort StoredSearch.isListedBefore).mapM
    StoredSearch.read

end Store

end MediaCatalog
