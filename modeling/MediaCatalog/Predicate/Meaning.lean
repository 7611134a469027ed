import MediaCatalog.Truth
import MediaCatalog.Cell.Day
import MediaCatalog.Predicate.Basic
import MediaCatalog.Sql.Lower
import MediaCatalog.Sql.Wildcard
import MediaCatalog.Pattern.Match
import MediaCatalog.Pattern.Reader
import MediaCatalog.Store.View
import MediaCatalog.Store.Entities
/-!
# The meaning of predicates

A predicate has a truth on a row of the view. A filter has one on the things of a kind, and may
still look at the row. Only an order and a pattern ask of a missing value; equality does not.
-/

namespace MediaCatalog

/-- What a predicate is tested on: a row, and the things that the filters around it stand at. -/
structure Subject where
  row : ViewRow
  entity : Relation → Option Entity

namespace Subject

/-- A row by itself. -/
def ofRow (row : ViewRow) : Subject := ⟨row, fun _ => none⟩

/-- Within a filter, at one thing of its kind. -/
def on (b : Subject) (e : Entity) : Subject :=
  { b with entity := fun r => if r = e.relation then some e else b.entity r }

/-- The cell of a column. A name is always there. -/
def cell (b : Subject) : Column → Cell
  | .mediaId => .text b.row.id
  | .media f => b.row.values.cell f
  | .entity r .id => .ofText? ((b.entity r).map (·.id))
  | .entity r .name => .text (((b.entity r).map (·.name)).getD "")

end Subject

/-! ## Modifiers -/

/-- What a clock showed where something was taken. -/
def StoredMetadata.localTime? (m : StoredMetadata) : Option Time.WallClock := do
  let taken ← Time.parse? (← m.taken)
  let z := Time.localize taken.instant m.zone
  return z.instant.wallClock z.offset

namespace Modifier

/-- The day of a clock, unless it shows a leap second or a year of five digits. -/
def dayOf (w : Time.WallClock) : Option Time.Date :=
  if w.second < 60 ∧ w.date.year ≤ 9999 then some w.date else none

/-- The day that a column names. -/
def day? (b : Subject) (column : Column) : Option Time.Date :=
  if column = .media .taken then b.row.values.localTime?.bind dayOf else (b.cell column).day?

/-- What a modifier computes from a column. -/
def cell (b : Subject) (column : Column) : Option Modifier → Cell
  | none => b.cell column
  | some .length => .ofInteger? ((b.cell column).text?.map fun s => ((Cell.untilNul s).length : Int))
  | some .year => .ofInteger? ((day? b column).map (·.year))
  | some .month => .ofInteger? ((day? b column).map fun d => (d.month : Int))

end Modifier

/-! ## Comparisons -/

namespace Comparison

/-- The cell that is compared. -/
def subjectCell (c : Comparison) (b : Subject) : Cell := Modifier.cell b c.column c.modifier

/-- The value it is compared with, as it stands beside the column. -/
def operandCell (c : Comparison) : Cell :=
  match c.modifier, c.column with
  | none, .mediaId | none, .entity .. => c.boundCell.besideText
  | some .year, _ | some .month, _ => c.boundCell.besideNumber
  | _, _ => c.boundCell

/-- An order of two cells, unknown if one is missing. -/
def ordered (holds : Ordering → Bool) (a b : Cell) : Truth :=
  match a.order? b with
  | some o => .ofBool (holds o)
  | none => .unknown

/-- A text fits the pattern of an operator. -/
def fitsWildcard (c : Comparison) (s : String) : Bool :=
  let pattern := Wildcard.seenText (wildcardPattern c.operator c.boundText)
  Wildcard.fits (Wildcard.ofPattern pattern) (Wildcard.seenText s)

/-- A text matches the regular expression, which matches nothing if it cannot be read. -/
def matchesPattern (c : Comparison) (s : String) : Bool :=
  match Pattern.parse? c.boundText with
  | some p => p.isMatch s
  | none => false

/-- The pattern is found in a cell, which is unknown of a missing one. -/
def found (c : Comparison) (a : Cell) : Truth :=
  match c.operator, a with
  | _, .null => .unknown
  | .matches, .text s => .ofBool (c.matchesPattern s)
  | .matches, _ => .unknown
  | _, a => .ofBool (a.text?.any c.fitsWildcard)

/-- The outcome of a comparison with a cell. The opposite of an order is the other order, and the
opposite of finding a pattern holds of a missing cell. -/
def test (c : Comparison) (a : Cell) : Truth :=
  let opposite := c.inverted
  match c.operator with
  | .empty => .ofBool (a.isNull != opposite)
  | .equal => .ofBool (a.same c.operandCell != opposite)
  | .less => ordered (fun o => (o = .lt) != opposite) a c.operandCell
  | .lessOrEqual => ordered (fun o => (o ≠ .gt) != opposite) a c.operandCell
  | .contains | .startsWith | .endsWith | .matches =>
    if opposite then (c.found a).not.or (.ofBool a.isNull) else c.found a

/-- The truth of a comparison. -/
def eval (c : Comparison) (b : Subject) : Truth := c.test (c.subjectCell b)

end Comparison

/-! ## Links -/

namespace LinkScope

/-- The things of a kind in the catalog. -/
def candidates (scope : LinkScope) (s : Store) : List Entity :=
  s.entities.filter fun e => e.relation = scope.relation && e.catalog = scope.catalog

/-- The ids that a media item may be linked to: the chosen ones, or all below them as well. -/
def targets (scope : LinkScope) (s : Store) (chosen : List String) : List String :=
  if scope.recursive && scope.relation.isHierarchical then
    s.closure scope.relation .descendants chosen
  else chosen

/-- A media item is linked to one of the chosen things, or to none when negated. -/
def test (scope : LinkScope) (s : Store) (media : String) (chosen : List String) : Bool :=
  let targets := scope.targets s chosen
  (s.links.any fun l => l.relation = scope.relation && l.media = media && targets.contains l.entity)
    != scope.negated

end LinkScope

namespace Predicate

mutual

/-- The truth of a predicate. -/
def eval (s : Store) (b : Subject) : Predicate → Truth
  | .always => .yes
  | .never => .no
  | .all ps => evalAll s b ps
  | .any ps => evalAny s b ps
  | .not p => (p.eval s b).not
  | .compare c => c.eval b
  | .linked scope filter =>
    let chosen := (scope.candidates s).filter fun e => (filter.eval s (b.on e)).isYes
    .ofBool (scope.test s b.row.id (chosen.map (·.id)))

def evalAll (s : Store) (b : Subject) : List Predicate → Truth
  | [] => .yes
  | p :: ps => (p.eval s b).and (evalAll s b ps)

def evalAny (s : Store) (b : Subject) : List Predicate → Truth
  | [] => .no
  | p :: ps => (p.eval s b).or (evalAny s b ps)

end

/-- The predicate holds of a row. -/
def holds (s : Store) (p : Predicate) (row : ViewRow) : Bool := (p.eval s (.ofRow row)).isYes

end Predicate

end MediaCatalog
