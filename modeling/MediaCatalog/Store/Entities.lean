import MediaCatalog.Store.Basic
import MediaCatalog.Sql.Relations
/-!
# Albums, tags and people

Albums and tags stand in hierarchies by their parents, which may run in circles or to rows that do
not exist. A closure takes each id once, so it ends in any case.
-/

namespace MediaCatalog.Store

/-- Creates an album, a tag or a person in a catalog that exists, below a parent of its kind that
exists. Its id is made afresh, so that nobody can name it as its own parent. -/
def createEntity (s : Store) (e : Entity) : Except StoreError Store :=
  if s.hasEntity e.relation e.id then .error (.notUnique (e.relation.sourceTable ++ ".id"))
  else if s.hasCatalog e.catalog && e.parent.all (s.hasEntity e.relation) then
    .ok { s with entities := s.entities ++ [e] }
  else .error .missingReference

/-- Sets a parent without looking whether it exists; tells whether there is a row to set. -/
def setParent (s : Store) (h : Hierarchy) (id : String) (parent : Option String) : Bool × Store :=
  (s.hasEntity h.relation id,
    { s with entities := s.entities.map fun e =>
      if e.relation = h.relation && e.id = id then { e with parent := parent } else e })

/-! ## Hierarchies -/

/-- The ids one step away from those of a list. -/
def neighbours (s : Store) (r : Relation) (d : Direction) (ids : List String) : List String :=
  let rows := s.entities.filter (·.relation = r)
  match d with
  | .descendants => (rows.filter fun e => e.parent.any ids.contains).map (·.id)
  | .ancestors => (rows.filter fun e => ids.contains e.id).filterMap (·.parent)

/-- Adds what lies one step further, up to `n` times, until nothing new does. -/
def closureFrom (s : Store) (r : Relation) (d : Direction) : Nat → List String → List String
  | 0, ids => ids
  | n + 1, ids =>
    let new := ((s.neighbours r d ids).filter (!ids.contains ·)).eraseDups
    if new.isEmpty then ids else closureFrom s r d n (ids ++ new)

/-- All ids that a seed of ids reaches. Every step adds a row or the parent of one, so there are no
more steps than rows. -/
def closure (s : Store) (r : Relation) (d : Direction) (seed : List String) : List String :=
  closureFrom s r d s.entities.length seed.eraseDups

/-- The ids of a row and all above or below it, in ascending order. -/
def hierarchyIds (s : Store) (h : Hierarchy) (id : String) (d : Direction) : List String :=
  let seed := if s.hasEntity h.relation id then [id] else []
  (s.closure h.relation d seed).mergeSort

/-- The path from a row up, until there is no parent or a row comes again. -/
def pathUp (s : Store) (h : Hierarchy) : Nat → List String → Option String → List String
  | 0, path, _ => path
  | _, path, none => path
  | n + 1, path, some id =>
    if path.contains id then path
    else pathUp s h n (id :: path) ((s.entity? h.relation id).bind (·.parent))

/-- The path from the root of a hierarchy down to a row, empty if there is no such row. -/
def ancestors (s : Store) (h : Hierarchy) (id : String) : Except StoreError (List String) :=
  let ids := s.hierarchyIds h id .ancestors
  if ids.all (s.hasEntity h.relation) then
    .ok (if ids.contains id then s.pathUp h (ids.length + 1) [] (some id) else [])
  else .error .noRow

end MediaCatalog.Store
