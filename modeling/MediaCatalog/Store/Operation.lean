import MediaCatalog.Store.Media
import MediaCatalog.Store.Links
import MediaCatalog.Store.Entities
import MediaCatalog.Store.Catalogs
import MediaCatalog.Store.Searches
/-!
# Operations

All that changes a store, as data. A history is a list of operations; one that fails leaves a trace
only where links are added one by one.
-/

namespace MediaCatalog

inductive Operation where
  | createUser (email name : String)
  | createCatalog (id name : String)
  | grant (user catalog : String) (writable : Bool)
  | createEntity (e : Entity)
  | setParent (h : Hierarchy) (id : String) (parent : Option String)
  | createMedia (id catalog now : String) (m : Metadata)
  | updateMedia (id now : String) (m : Metadata)
  | deleteMedia (id now : String)
  | addFile (id media : String) (uploaded : Time.Instant) (details : FileDetails) (m : Metadata)
  | addRelations (r : Relation) (catalog : String) (media entities : List String)
  | removeRelations (r : Relation) (media entities : List String)
  | setRelations (r : Relation) (catalog media : String) (entities : List String)
  | setLocation (media person : String) (location : Option Location)
  | createSearch (x : SavedSearch)
  | insertSearch (x : StoredSearch)
  | updateSearch (id name : String) (q : Query) (shared : Bool)
  | deleteSearch (id : String)
  /-- Operations in a transaction, which is kept or given up at its end. -/
  | transaction (parts : List Operation) (keep : Bool)

namespace Operation

/-- An operation that gives a store or an error. -/
def made (s : Store) : Except StoreError Store → Except StoreError Bool × Store
  | .ok s' => (.ok true, s')
  | .error e => (.error e, s)

/-- An operation that tells whether there was something to change. -/
def told : Bool × Store → Except StoreError Bool × Store
  | (b, s) => (.ok b, s)

/-- An operation that may have changed the store when it fails. -/
def tried : Except StoreError Unit × Store → Except StoreError Bool × Store
  | (r, s) => (r.map fun _ => true, s)

mutual

/-- Does an operation: the answer tells whether there was something to change. -/
def apply (s : Store) : Operation → Except StoreError Bool × Store
  | createUser email name => made s (s.createUser email name)
  | createCatalog id name => made s (s.createCatalog id name)
  | grant user catalog writable => made s (s.grant user catalog writable)
  | createEntity e => made s (s.createEntity e)
  | setParent h id parent => told (s.setParent h id parent)
  | createMedia id catalog now m => made s (s.createMedia id catalog now m)
  | updateMedia id now m => told (s.updateMedia id now m)
  | deleteMedia id now => told (s.deleteMedia id now)
  | addFile id media uploaded details m => made s (s.addFile id media uploaded details m)
  | addRelations r catalog media entities => tried (s.addRelations r catalog media entities)
  | removeRelations r media entities => (.ok true, s.removeRelations r media entities)
  | setRelations r catalog media entities => tried (s.setRelations r catalog media entities)
  | setLocation media person location => told (s.setPersonLocation media person location)
  | createSearch x => made s (s.createSearch x)
  | insertSearch x => made s (s.insertSearch x)
  | updateSearch id name q shared => told (s.updateSearch id name q shared)
  | deleteSearch id => told (s.deleteSearch id)
  | transaction parts keep =>
    let body := fun s => (if keep then Except.ok () else .error none, applyAll s parts)
    match s.atomically (some .nestedTransaction) body with
    | (.ok (), s') => (.ok true, s')
    | (.error none, s') => (.ok false, s')
    | (.error (some e), s') => (.error e, s')

/-- Does operations one after the other, whatever they answer. -/
def applyAll (s : Store) : List Operation → Store
  | [] => s
  | op :: ops => applyAll (op.apply s).2 ops

end

end Operation

namespace Store

/-- The store after a history from the beginning. -/
def after (history : List Operation) : Store := Operation.applyAll empty history

end Store

end MediaCatalog
