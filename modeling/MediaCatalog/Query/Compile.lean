import MediaCatalog.Query.Check
import MediaCatalog.Predicate.Basic
/-!
# Compiling queries

A query becomes a predicate over the rows of one catalog. What a check would refuse is refused here
too where it has no predicate.
-/

namespace MediaCatalog

/-- What a query speaks of: media items, or the things of a kind that they are related to. -/
inductive Scope where
  | media
  | related (r : Relation)
deriving DecidableEq

def Scope.isRelated : Scope → Bool
  | .media => false
  | .related _ => true

namespace FieldQuery

/-- The column of the field of a condition. -/
def column (c : FieldQuery) (scope : Scope) (f : Field) : Except ValidationError Column :=
  match f, scope with
  | .metadata f, _ => .ok (.media f)
  | .entity f, .related r => .ok (.entity r f)
  | .entity _, .media => .error (.unknownField c.field)

/-- The operand of a value. Timestamps are compared as they are stored, so their own offset is
dropped. -/
def operand (c : FieldQuery) (column : Column) (v : Json) : Except ValidationError Operand :=
  let mismatch := fun t => Except.error (.typeMismatch c.field t v.typeName)
  match v with
  | .string s =>
    if column = .media .taken ∧ c.modifier = none then
      match v.date? with
      | some z => .ok (.text z.instant.stored)
      | none => mismatch .date
    else .ok (.text s)
  | .number n =>
    match n.integer?, n.double? with
    | some i, _ => .ok (.integer i)
    | none, some x => .ok (.real (.number x))
    | none, none => mismatch .number
  | _ => mismatch .text

/-- The operand of a condition, if it has a value. -/
def operand? (c : FieldQuery) (column : Column) : Except ValidationError (Option Operand) :=
  match c.value with
  | none => .ok none
  | some v => (c.operand column v).map some

/-- The comparison that a condition makes. -/
def compile (c : FieldQuery) (scope : Scope) : Except ValidationError Predicate := do
  let f ← c.resolve scope.isRelated
  let _ ← c.effectiveType f
  let column ← c.column scope f
  let operand ← c.operand? column
  return .compare ⟨column, c.modifier, c.operator, operand, c.invert⟩

end FieldQuery

namespace Query

mutual

/-- The predicate of a query on what `scope` says, in one catalog. -/
def compile (catalog : String) (scope : Scope) : Query → Except ValidationError Predicate
  | .field c => c.compile scope
  | .group how parts =>
    match how.relation with
    | none => do
      let p := Predicate.join how.join (← compileAll catalog scope parts)
      return if how.invert then .not p else p
    | some r =>
      if scope.isRelated then .error .nestedRelation
      else do
        let filter := Predicate.join how.join (← compileAll catalog (.related r) parts)
        return .linked ⟨r, catalog, how.recursive, how.invert⟩ filter

def compileAll (catalog : String) (scope : Scope) :
    List Query → Except ValidationError (List Predicate)
  | [] => .ok []
  | q :: qs => do
    let p ← q.compile catalog scope
    return p :: (← compileAll catalog scope qs)

end

end Query

end MediaCatalog
