import MediaCatalog.Query.Field
/-!
# Predicates

What a query asks of the rows of a catalog, in terms of columns and bound values. A comparison
carries its own inversion, which is not the same as a negation around it where values are missing.
-/

namespace MediaCatalog

/-- A column that a comparison reads. -/
inductive Column where
  | mediaId
  | media (f : MetadataField)
  | entity (r : Relation) (f : EntityField)
deriving DecidableEq

/-- A value that a comparison is made with. -/
inductive Operand where
  | text (s : String)
  | integer (n : Int)
  | real (x : Double)
deriving DecidableEq

/-- A comparison of a column with a value. -/
structure Comparison where
  column : Column
  modifier : Option Modifier
  operator : Operator
  operand : Option Operand
  inverted : Bool
deriving DecidableEq

/-- What a media item is to be linked to: something of a kind in a catalog, with everything below
it when recursive; or, when negated, to nothing of the sort. -/
structure LinkScope where
  relation : Relation
  catalog : String
  recursive : Bool
  negated : Bool
deriving DecidableEq

inductive Predicate where
  | always
  | never
  | all (parts : List Predicate)
  | any (parts : List Predicate)
  | not (p : Predicate)
  | compare (c : Comparison)
  /-- The media item is linked to something on which the filter holds. -/
  | linked (scope : LinkScope) (filter : Predicate)

namespace Predicate

/-- The parts of a group joined. -/
def join : Join → List Predicate → Predicate
  | .all => .all
  | .any => .any

end Predicate

/-- The same comparison for the opposite outcome. -/
def Comparison.flipped (c : Comparison) : Comparison := { c with inverted := !c.inverted }

end MediaCatalog
