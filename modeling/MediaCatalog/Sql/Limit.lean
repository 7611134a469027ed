import MediaCatalog.Sql.Lower
/-!
# Limits of statements

A statement is refused, before any row is looked at, if its conditions are too deep or if it binds
too many values. Conditions are binary: each part of a group after the first stands one level above
the parts before it.
-/

namespace MediaCatalog

/-- The greatest height of an expression, with all the conditions that it stands in. -/
def maxExpressionHeight : Nat := 1000

/-- The most values that a statement binds. -/
def maxBoundValues : Nat := 32766

/-- The height of a column: its table's name and its own below a point. The modifiers are calls,
and a part of a date is converted once more. -/
def Column.height (c : Column) : Option Modifier → Nat
  | none => 2
  | some .length => 3
  | some .year | some .month => if c = .media .taken then 5 else 4

/-- The height of a comparison. Where a pattern must not be found, a missing value is asked for
beside the negation. -/
def Comparison.height (c : Comparison) : Nat :=
  let column := c.column.height c.modifier
  match c.operator with
  | .empty | .equal | .less | .lessOrEqual => column + 1
  | .contains | .startsWith | .endsWith | .matches => if c.inverted then column + 3 else column + 1

namespace LinkScope

/-- What is linked to is found by a recursive statement of its own. -/
def closes (scope : LinkScope) : Bool :=
  scope.recursive && (Hierarchy.ofRelation? scope.relation).isSome

/-- The height of the condition on the things linked to, from that of the filter. -/
def seedHeight (filter : Nat) : Nat := max 3 filter + 1

/-- The height of the condition on the links. -/
def linkHeight (scope : LinkScope) (filter : Nat) : Nat :=
  if scope.closes then 3 else seedHeight filter + 1

/-- The height of membership among the media items of the links. -/
def height (scope : LinkScope) (filter : Nat) : Nat :=
  scope.linkHeight filter + if scope.negated then 2 else 1

end LinkScope

namespace Predicate

mutual

/-- The height of the condition of a predicate. -/
def height : Predicate → Nat
  | .always | .never | .all [] | .any [] => 1
  | .all (p :: ps) => groupHeight p.height ps
  | .any (p :: ps) => groupHeight p.height ps
  | .not p => p.height + 1
  | .compare c => c.height
  | .linked scope filter => scope.height filter.height

/-- The height of a group from that of its first parts. -/
def groupHeight (first : Nat) : List Predicate → Nat
  | [] => first
  | p :: ps => groupHeight (max first p.height + 1) ps

end

mutual

/-- The heights of the conditions that stand one within the other inside of a predicate, added up
where they are most. -/
def innerHeight : Predicate → Nat
  | .always | .never | .compare _ => 0
  | .all ps => innerHeights ps
  | .any ps => innerHeights ps
  | .not p => p.innerHeight
  | .linked scope filter =>
    scope.linkHeight filter.height + LinkScope.seedHeight filter.height + filter.innerHeight

def innerHeights : List Predicate → Nat
  | [] => 0
  | p :: ps => max p.innerHeight (innerHeights ps)

end

/-- The conditions by which three kinds of linked things are joined to a row. -/
def joinHeight : Nat := 3

/-- The conditions of the view, which are put in front of those of a predicate. -/
def viewHeight : Nat := 4

/-- The condition of a predicate is not too deep for a statement on the rows of the view. -/
def isShallow (p : Predicate) : Bool :=
  p.height + joinHeight + max viewHeight p.innerHeight ≤ maxExpressionHeight

/-- The values of a predicate can be bound beside the view's catalog. -/
def isBindable (p : Predicate) : Bool :=
  p.lower.params.length < maxBoundValues

end Predicate

end MediaCatalog
