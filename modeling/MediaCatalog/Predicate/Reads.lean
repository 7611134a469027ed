import MediaCatalog.Predicate.Basic
/-!
# What predicates read

Within a filter the things of its kind are the filter's own, also where a filter on the same kind
stands around it. An empty name is not looked for: names are always there.
-/

namespace MediaCatalog

namespace Column

/-- A column of the things of a kind. -/
def isOf (r : Relation) : Column → Bool
  | entity r' _ => r' = r
  | _ => false

/-- A column that comes from the item or its current file. -/
def isMetadata : Column → Bool
  | media _ => true
  | _ => false

end Column

/-- The outcome is known without any row. -/
def Comparison.isKnown (c : Comparison) : Bool :=
  match c.column with
  | .entity _ .name => c.operator = .empty && c.modifier = none
  | _ => false

namespace Predicate

/-! ## Scopes -/

mutual

/-- Every thing that is spoken of is one that a filter around stands at. -/
def isScoped (within : List Relation) : Predicate → Bool
  | .always | .never => true
  | .all ps => areScoped within ps
  | .any ps => areScoped within ps
  | .not p => p.isScoped within
  | .compare c =>
    match c.column with
    | .entity r _ => within.contains r
    | _ => true
  | .linked scope filter => filter.isScoped (scope.relation :: within)

def areScoped (within : List Relation) : List Predicate → Bool
  | [] => true
  | p :: ps => p.isScoped within && areScoped within ps

end

/-! ## Columns -/

mutual

/-- Some column that `reads` picks is read, in a filter or outside of one. A filter looks at the
item's links, and so at its id. -/
def readsAny (reads : Column → Bool) : Predicate → Bool
  | .always | .never => false
  | .all ps => anyReads reads ps
  | .any ps => anyReads reads ps
  | .not p => p.readsAny reads
  | .compare c => !c.isKnown && reads c.column
  | .linked scope filter =>
    reads .mediaId || filter.readsAny fun c => !c.isOf scope.relation && reads c

def anyReads (reads : Column → Bool) : List Predicate → Bool
  | [] => false
  | p :: ps => p.readsAny reads || anyReads reads ps

end

mutual

/-- Outside of filters no column is read that `reads` picks. -/
def spares (reads : Column → Bool) : Predicate → Bool
  | .always | .never | .linked .. => true
  | .all ps => allSpare reads ps
  | .any ps => allSpare reads ps
  | .not p => p.spares reads
  | .compare c => c.isKnown || !reads c.column

def allSpare (reads : Column → Bool) : List Predicate → Bool
  | [] => true
  | p :: ps => p.spares reads && allSpare reads ps

end

/-! ## Filters -/

mutual

/-- There is a filter on linked things. -/
def hasFilter : Predicate → Bool
  | .linked .. => true
  | .always | .never | .compare _ => false
  | .all ps => anyFilter ps
  | .any ps => anyFilter ps
  | .not p => p.hasFilter

def anyFilter : List Predicate → Bool
  | [] => false
  | p :: ps => p.hasFilter || anyFilter ps

end

mutual

/-- There is a filter that looks at more than its own things, so that it has to be evaluated for
every row anew. -/
def varies : Predicate → Bool
  | .linked scope filter => filter.readsAny fun c => !c.isOf scope.relation
  | .always | .never | .compare _ => false
  | .all ps => anyVaries ps
  | .any ps => anyVaries ps
  | .not p => p.varies

def anyVaries : List Predicate → Bool
  | [] => false
  | p :: ps => p.varies || anyVaries ps

end

/-! ## Wildcards -/

mutual

/-- There is a wildcard pattern, which is tried anew each time. -/
def hasWildcard : Predicate → Bool
  | .compare c => c.operator.isPattern && c.operator ≠ .matches
  | .always | .never | .linked .. => false
  | .all ps => anyWildcard ps
  | .any ps => anyWildcard ps
  | .not p => p.hasWildcard

def anyWildcard : List Predicate → Bool
  | [] => false
  | p :: ps => p.hasWildcard || anyWildcard ps

end

/-! ## What is settled without a row -/

mutual

/-- The outcome of a predicate that does not hang on any comparison. -/
def settled? : Predicate → Option Bool
  | .always => some true
  | .never => some false
  | .all ps => settledAll? ps
  | .any ps => settledAny? ps
  | _ => none

def settledAll? : List Predicate → Option Bool
  | [] => some true
  | p :: ps =>
    match p.settled?, settledAll? ps with
    | some false, _ | _, some false => some false
    | some true, some true => some true
    | _, _ => none

def settledAny? : List Predicate → Option Bool
  | [] => some false
  | p :: ps =>
    match p.settled?, settledAny? ps with
    | some true, _ | _, some true => some true
    | some false, some false => some false
    | _, _ => none

end

end Predicate

end MediaCatalog
