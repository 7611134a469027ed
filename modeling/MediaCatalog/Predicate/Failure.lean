import MediaCatalog.Predicate.Access
/-!
# Predicates that cannot be evaluated

A pattern fails only where a row is tested against it. Which rows these are, and in which order the
conditions are tested on a row, is told by the access to the rows: for a predicate to the media
items, and for a filter to the things of its kind.
-/

namespace MediaCatalog

/-- The longest wildcard pattern in bytes. -/
def maxWildcardBytes : Nat := 50000

/-- Why a comparison with a cell fails. -/
def Comparison.failure? (c : Comparison) (a : Cell) : Option StoreError :=
  match c.operator with
  | .contains | .startsWith | .endsWith =>
    if maxWildcardBytes < (wildcardPattern c.operator c.boundText).utf8ByteSize then
      some .longPattern
    else none
  | .matches =>
    if !Pattern.isValid c.boundText then some .badPattern
    else
      match a with
      | .integer _ | .real _ => some .badPattern
      | _ => none
  | _ => none

namespace LinkScope

/-- The things of a kind, those of the catalog admitted. They are not kept by catalog. -/
def source (scope : LinkScope) (s : Store) (b : Subject) : Source where
  key := .entity scope.relation .id
  owns := Column.isOf scope.relation
  isLate := fun _ => false
  outer := some b
  rows := (s.entities.filter (·.relation = scope.relation)).map fun e =>
    ⟨b.on e, e.catalog = scope.catalog⟩
  cost := 216

end LinkScope

namespace Store

/-- The media items, those that the view of a catalog shows admitted. They are kept by catalog, and
the current file of an item is looked up last. -/
def source (s : Store) (catalog : String) : Source where
  key := .mediaId
  owns := fun _ => true
  isLate := Column.isMetadata
  outer := s.items.head?.map fun i => .ofRow (s.viewRow i)
  rows := s.items.map fun i => ⟨.ofRow (s.viewRow i), !i.deleted && i.catalog = catalog⟩
  cost := 61

end Store

namespace Predicate

mutual

/-- The test of a predicate. A filter fails where the things that it picks are looked for. -/
def test (s : Store) : Predicate → Test
  | .always => .single .always fun _ _ => none
  | .never => .single .never fun _ _ => none
  | .all ps => .group .all (tests s ps)
  | .any ps => .group .any (tests s ps)
  | .not p => .single (.not p) fun other b => (p.test s).failure? s (!other) b
  | .compare c => .single (.compare c) fun _ b => c.failure? (c.subjectCell b)
  | .linked scope filter =>
    .single (.linked scope filter) fun _ b =>
      (scope.source s b).failure? s (filter.test s).conjuncts

def tests (s : Store) : List Predicate → List Test
  | [] => []
  | p :: ps => p.test s :: tests s ps

end

/-- Why a predicate cannot be evaluated on the rows of a catalog. -/
def failure? (s : Store) (catalog : String) (p : Predicate) : Option StoreError :=
  (s.source catalog).failure? s (p.test s).conjuncts

end Predicate

end MediaCatalog
