import MediaCatalog.Sql.Relations
import MediaCatalog.Predicate.Basic
/-!
# Predicates in statements

The condition of a statement that selects the rows on which a predicate holds. Every group and
every negation is in parentheses of its own.
-/

namespace MediaCatalog

/-- The name of the view of a catalog's media items. -/
def mediaView : String := "media_view"

namespace Operand

def cell : Operand → Cell
  | .text s => .text s
  | .integer n => .integer n
  | .real x => .ofReal? x.number?

/-- The operand as the text of a pattern. -/
def patternText : Operand → String
  | .text s => s
  | .integer n => toString n
  | .real x => x.plainText

end Operand

namespace Comparison

/-- The bound value; an absent operand is bound as null. -/
def boundCell (c : Comparison) : Cell := (c.operand.map Operand.cell).getD .null

/-- The text that a pattern is made of; an absent operand gives an empty one. -/
def boundText (c : Comparison) : String := (c.operand.map Operand.patternText).getD ""

end Comparison

/-- The characters of a text that a wildcard pattern must take literally. -/
def escapeWildcards (cs : List Char) : List Char :=
  cs.flatMap fun c => if c = '\\' || c = '%' || c = '_' then ['\\', c] else [c]

/-- The wildcard pattern that finds a text at the place an operator looks for it. -/
def wildcardPattern (op : Operator) (s : String) : String :=
  let e := escapeWildcards s.toList
  String.ofList <|
    match op with
    | .startsWith => e ++ ['%']
    | .endsWith => '%' :: e
    | _ => '%' :: e ++ ['%']

namespace Sql

def columnName : Column → String
  | .mediaId => mediaView ++ ".id"
  | .media f => mediaView ++ "." ++ f.column
  | .entity r f => r.sourceTable ++ "." ++ f.column

/-- A part of a date as a number. -/
def datePart (part : String) (date : String) : String :=
  "CAST(strftime('" ++ part ++ "', " ++ date ++ ") AS INTEGER)"

/-- The date whose parts are computed from a column. That of `taken` is local to its zone. -/
def dateOf (c : Column) : String :=
  if c = .media .taken then "local_time(" ++ mediaView ++ ".taken, " ++ mediaView ++ ".taken_zone)"
  else columnName c

/-- A column after its modifier. -/
def columnText (c : Column) : Option Modifier → String
  | none => columnName c
  | some .length => "length(" ++ columnName c ++ ")"
  | some .year => datePart "%Y" (dateOf c)
  | some .month => datePart "%m" (dateOf c)

def comparison (c : Comparison) : Sql :=
  let left := columnText c.column c.modifier
  let compared (op inverse : String) : Sql :=
    [.text (left ++ " " ++ (if c.inverted then inverse else op) ++ " "), .bind c.boundCell]
  match c.operator with
  | .empty => [.text (left ++ if c.inverted then " IS NOT NULL" else " IS NULL")]
  | .equal => compared "IS NOT DISTINCT FROM" "IS DISTINCT FROM"
  | .less => compared "<" ">="
  | .lessOrEqual => compared "<=" ">"
  | .contains | .startsWith | .endsWith =>
    let pattern := Piece.bind (.text (wildcardPattern c.operator c.boundText))
    if c.inverted then
      [.text ("(" ++ left ++ " NOT LIKE "), pattern,
        .text (" ESCAPE '\\' OR " ++ left ++ " IS NULL)")]
    else [.text (left ++ " LIKE "), pattern, .text " ESCAPE '\\'"]
  | .matches =>
    let pattern := Piece.bind (.text c.boundText)
    if c.inverted then
      [.text ("(" ++ left ++ " NOT REGEXP "), pattern, .text (" OR " ++ left ++ " IS NULL)")]
    else [.text (left ++ " REGEXP "), pattern]

/-- The ids of the things of a catalog on which a filter holds. -/
def linkSeed (scope : LinkScope) (filter : Sql) : Sql :=
  let source := scope.relation.sourceTable
  .text ("SELECT " ++ source ++ ".id FROM " ++ source ++ " WHERE " ++ source ++ ".catalog = ")
    :: .bind (.text scope.catalog) :: .text " AND " :: filter

/-- Membership of a media item among those linked to what a filter selects. -/
def membership (scope : LinkScope) (filter : Sql) : Sql :=
  let table := scope.relation.linkTable
  let keyword := if scope.negated then "NOT IN" else "IN"
  let seed := linkSeed scope filter
  .text (mediaView ++ ".id " ++ keyword ++ " (SELECT " ++ table ++ ".media FROM " ++ table
      ++ " WHERE " ++ table ++ "." ++ scope.relation.linkColumn ++ " IN (")
    :: (match Hierarchy.ofRelation? scope.relation with
      | some h => if scope.recursive then closure h .descendants seed else seed
      | none => seed)
    ++ [.text "))"]

end Sql

namespace Predicate

mutual

/-- The condition of a predicate. -/
def lower : Predicate → Sql
  | .always => [.text "TRUE"]
  | .never => [.text "FALSE"]
  | .all [] => [.text "TRUE"]
  | .any [] => [.text "FALSE"]
  | .all (p :: ps) => .text "(" :: (p.lower ++ lowerRest " AND " ps)
  | .any (p :: ps) => .text "(" :: (p.lower ++ lowerRest " OR " ps)
  | .not p => .text "NOT (" :: (p.lower ++ [.text ")"])
  | .compare c => Sql.comparison c
  | .linked scope filter => Sql.membership scope filter.lower

/-- The parts of a group after the first, each after a separator, and the closing parenthesis. -/
def lowerRest (separator : String) : List Predicate → Sql
  | [] => [.text ")"]
  | p :: ps => .text separator :: (p.lower ++ lowerRest separator ps)

end

end Predicate

end MediaCatalog
