import MediaCatalog.Json.Basic
import MediaCatalog.Time.Reader
/-!
# Queries

A query is a tree of groups over conditions on single fields. A group may turn to the albums, tags
or people that a media item is linked to, and then its parts speak of these.
-/

namespace MediaCatalog

/-- How the parts of a group are joined. -/
inductive Join where
  | all
  | any
deriving DecidableEq

/-- What is computed from a field before it is compared. -/
inductive Modifier where
  | length
  | year
  | month
deriving DecidableEq

inductive Operator where
  | empty
  | equal
  | less
  | lessOrEqual
  | contains
  | startsWith
  | endsWith
  | matches
deriving DecidableEq

/-- The kinds of things a media item can be linked to. -/
inductive Relation where
  | album
  | tag
  | person
deriving DecidableEq

namespace Join

def name : Join → String
  | .all => "&&"
  | .any => "||"

def values : List Join := [.all, .any]

def ofName? (s : String) : Option Join := values.find? (·.name = s)

end Join

namespace Modifier

def name : Modifier → String
  | .length => "length"
  | .year => "year"
  | .month => "month"

def values : List Modifier := [.length, .year, .month]

def ofName? (s : String) : Option Modifier := values.find? (·.name = s)

end Modifier

namespace Operator

def name : Operator → String
  | .empty => "empty"
  | .equal => "="
  | .less => "<"
  | .lessOrEqual => "<="
  | .contains => "contains"
  | .startsWith => "startswith"
  | .endsWith => "endswith"
  | .matches => "matches"

def values : List Operator :=
  [.empty, .equal, .less, .lessOrEqual, .contains, .startsWith, .endsWith, .matches]

def ofName? (s : String) : Option Operator := values.find? (·.name = s)

/-- The operators that look for a pattern in a text. -/
def isPattern : Operator → Bool
  | .contains | .startsWith | .endsWith | .matches => true
  | _ => false

end Operator

namespace Relation

def name : Relation → String
  | .album => "album"
  | .tag => "tag"
  | .person => "person"

def values : List Relation := [.album, .tag, .person]

def ofName? (s : String) : Option Relation := values.find? (·.name = s)

/-- Albums and tags have parents, people have none. -/
def isHierarchical : Relation → Bool
  | .person => false
  | _ => true

end Relation

/-! ## Values -/

/-- The text of a string value. -/
def Json.text? : Json → Option String
  | .string s => some s
  | _ => none

def Json.number? : Json → Option Json.Number
  | .number n => some n
  | _ => none

/-- The timestamp that a string value names. -/
def Json.date? (j : Json) : Option Time.ZonedInstant :=
  j.text?.bind Time.parse?

/-- The kind of a value. A string that is a timestamp counts as a date. -/
def Json.typeName (j : Json) : String :=
  match j with
  | .null => "null"
  | .bool _ => "boolean"
  | .number _ => "number"
  | .string _ => if j.date?.isSome then "date" else "string"
  | .array _ => "array"
  | .object _ => "object"

/-! ## The tree -/

/-- A condition on one field. -/
structure FieldQuery where
  field : String
  modifier : Option Modifier
  operator : Operator
  value : Option Json
  invert : Bool

/-- How a group treats its parts. -/
structure Grouping where
  join : Join
  invert : Bool
  relation : Option Relation
  recursive : Bool
deriving DecidableEq

inductive Query where
  | field (condition : FieldQuery)
  | group (how : Grouping) (parts : List Query)

/-- A query with the catalog that it searches. -/
structure Search where
  catalog : String
  query : Query

namespace Query

/-- The query that every media item satisfies. -/
def everything : Query :=
  .group ⟨.all, false, none, false⟩ []

/-- The query for the media items in an album, or in it and all albums below it. -/
def inAlbum (id : String) (recursive : Bool) : Query :=
  .group ⟨.all, false, some .album, recursive⟩ [.field ⟨"id", none, .equal, some (.string id), false⟩]

def isInverted : Query → Bool
  | .field c => c.invert
  | .group how _ => how.invert

/-- The query with its outermost node inverted. -/
def inverted : Query → Query
  | .field c => .field { c with invert := !c.invert }
  | .group how parts => .group { how with invert := !how.invert } parts

end Query

end MediaCatalog
