import MediaCatalog.Sql.Basic
import MediaCatalog.Query.Basic
/-!
# Relations in statements

The tables in which links and related things are kept, and the statement for all that lies below or
above a set of albums or tags.
-/

namespace MediaCatalog

namespace Relation

/-- The table of the links. -/
def linkTable : Relation → String
  | .album => "media_album"
  | .tag => "media_tag"
  | .person => "media_person"

/-- The table of the things linked to. -/
def sourceTable (r : Relation) : String := r.name

/-- The column of a link that names the thing linked to. -/
def linkColumn (r : Relation) : String := r.name

end Relation

/-- The kinds of things that have parents. -/
inductive Hierarchy where
  | album
  | tag
deriving DecidableEq

namespace Hierarchy

def relation : Hierarchy → Relation
  | .album => .album
  | .tag => .tag

def ofRelation? : Relation → Option Hierarchy
  | .album => some .album
  | .tag => some .tag
  | .person => none

def table (h : Hierarchy) : String := h.relation.sourceTable

end Hierarchy

/-- Which way a hierarchy is followed. -/
inductive Direction where
  | descendants
  | ancestors
deriving DecidableEq

namespace Sql

/-- One more step from what a closure holds. -/
def closureStep (h : Hierarchy) : Direction → String
  | .descendants =>
    "SELECT child.id FROM " ++ h.table ++ " AS child JOIN closure ON child.parent = closure.id"
  | .ancestors =>
    "SELECT node.parent FROM " ++ h.table
      ++ " AS node JOIN closure ON node.id = closure.id WHERE node.parent IS NOT NULL"

/-- The statement for the ids that a seed of ids reaches. -/
def closure (h : Hierarchy) (d : Direction) (seed : Sql) : Sql :=
  .text "WITH RECURSIVE closure(id) AS (" :: seed
    ++ [.text " UNION ", .text (closureStep h d), .text ") SELECT closure.id FROM closure"]

end Sql

end MediaCatalog
