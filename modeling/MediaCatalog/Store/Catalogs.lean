import MediaCatalog.Store.Basic
/-!
# Users, catalogs and access
-/

namespace MediaCatalog

/-- What a caller may do with a catalog. -/
inductive Access where
  | denied
  | read
  | write
deriving DecidableEq

namespace Access

def canRead : Access → Bool
  | denied => false
  | _ => true

def canWrite : Access → Bool
  | write => true
  | _ => false

end Access

namespace Store

def createUser (s : Store) (email name : String) : Except StoreError Store :=
  if s.hasUser email then .error (.notUnique "user.email")
  else .ok { s with users := s.users ++ [⟨email, name⟩] }

def createCatalog (s : Store) (id name : String) : Except StoreError Store :=
  if s.hasCatalog id then .error (.notUnique "catalog.id")
  else .ok { s with catalogs := s.catalogs ++ [⟨id, name⟩] }

/-- Gives a user access to a catalog in place of what was given before. -/
def grant (s : Store) (user catalog : String) (writable : Bool) : Except StoreError Store :=
  if s.hasUser user && s.hasCatalog catalog then
    let others := s.grants.filter fun g => !(g.user = user && g.catalog = catalog)
    .ok { s with grants := others ++ [⟨user, catalog, writable⟩] }
  else .error .missingReference

/-- The access that a caller was given. -/
def authorize (s : Store) (caller catalog : String) : Access :=
  match s.grants.find? fun g => g.user = caller && g.catalog = catalog with
  | some g => if g.writable then .write else .read
  | none => .denied

end Store

end MediaCatalog
