import MediaCatalog.Query.Field
import MediaCatalog.Pattern.Reader
/-!
# Checking queries

A query is accepted when no node lies too deep and every node keeps its own rule. The first node
that does not, in the order of reading, gives the error.
-/

namespace MediaCatalog

/-- Why a query is refused. -/
inductive ValidationError where
  | nestedRelation
  | unknownField (field : String)
  | invalidModifier (field : String) (modifier : Modifier)
  | invalidOperator (field : String) (operator : Operator)
  | unexpectedValue (field : String) (operator : Operator)
  | typeMismatch (field : String) (expected : ValueType) (found : String)
  | invalidPattern (field : String) (fault : Pattern.Fault)
  | notHierarchical (relation : Relation)
  | tooDeep (limit : Nat)
deriving DecidableEq

namespace ValidationError

/-- The name of the error in an answer. -/
def kind : ValidationError → String
  | nestedRelation => "NestedRelation"
  | unknownField _ => "UnknownField"
  | invalidModifier .. => "InvalidModifier"
  | invalidOperator .. => "InvalidOperator"
  | unexpectedValue .. => "UnexpectedValue"
  | typeMismatch .. => "TypeMismatch"
  | invalidPattern .. => "InvalidPattern"
  | notHierarchical _ => "NotHierarchical"
  | tooDeep _ => "TooDeep"

def message : ValidationError → String
  | nestedRelation => "cannot query a related table while already inside a related table"
  | unknownField f => "unknown field '" ++ f ++ "'"
  | invalidModifier f m => "modifier '" ++ m.name ++ "' is not valid for field '" ++ f ++ "'"
  | invalidOperator f op => "operator '" ++ op.name ++ "' is not valid for field '" ++ f ++ "'"
  | unexpectedValue f op =>
    "operator '" ++ op.name ++ "' on field '" ++ f ++ "' does not take a value"
  | typeMismatch f expected found =>
    "field '" ++ f ++ "' expects a " ++ expected.name ++ " value but got " ++ found
  | invalidPattern f _ => "invalid pattern for field '" ++ f ++ "'"
  | notHierarchical r =>
    "relation '" ++ r.name ++ "' is not hierarchical and cannot be searched recursively"
  | tooDeep limit => "query is nested deeper than " ++ toString limit ++ " levels"

end ValidationError

/-- How deep queries may nest unless another limit is set. -/
def defaultMaxDepth : Nat := 32

/-- The value has the type. -/
def ValueType.admits (t : ValueType) (v : Json) : Bool :=
  match t with
  | .text => v.text?.isSome
  | .number => v.number?.isSome
  | .date => v.date?.isSome

namespace FieldQuery

/-- The field that a condition names. -/
def resolve (c : FieldQuery) (related : Bool) : Except ValidationError Field :=
  match Field.ofName? related c.field with
  | some f => .ok f
  | none => .error (.unknownField c.field)

/-- The type of the field after the modifier. -/
def effectiveType (c : FieldQuery) (f : Field) : Except ValidationError FieldType :=
  match c.modifier with
  | none => .ok f.type
  | some m =>
    if f.type.modifiers.contains m then .ok m.resultType else .error (.invalidModifier c.field m)

/-- The kind of the condition's value, an absent one counting as null. -/
def foundType (c : FieldQuery) : String :=
  (c.value.map Json.typeName).getD "null"

/-- A text is a pattern. -/
def checkPattern (c : FieldQuery) (text : String) : Except ValidationError Unit :=
  match Pattern.read text with
  | .ok _ => .ok ()
  | .error fault => .error (.invalidPattern c.field fault)

/-- The value of a condition fits what its operator takes. -/
def checkValue (c : FieldQuery) (expected : ValueType) : Except ValidationError Unit :=
  if !c.value.any expected.admits then .error (.typeMismatch c.field expected c.foundType)
  else
    match c.operator, c.value.bind Json.text? with
    | .matches, some text => c.checkPattern text
    | _, _ => .ok ()

/-- A condition keeps the rules of its field: name, modifier, operator, value, pattern. -/
def check (c : FieldQuery) (related : Bool) : Except ValidationError Unit := do
  let f ← c.resolve related
  let t ← c.effectiveType f
  match t.demand c.operator with
  | .refused => throw (.invalidOperator c.field c.operator)
  | .nothing =>
    if c.value.isSome then throw (.unexpectedValue c.field c.operator)
  | .value expected => c.checkValue expected

end FieldQuery

/-- A group keeps the rules of relations: none inside another, and no recursion where there is no
hierarchy. -/
def Grouping.check (how : Grouping) (related : Bool) : Except ValidationError Unit :=
  match how.relation with
  | none => .ok ()
  | some r =>
    if related then .error .nestedRelation
    else if how.recursive && !r.isHierarchical then .error (.notHierarchical r)
    else .ok ()

namespace Query

mutual

/-- Checks a node at a depth, then its parts in order. -/
def checkNode (limit : Nat) (related : Bool) (depth : Nat) : Query → Except ValidationError Unit
  | .field c => if limit < depth then .error (.tooDeep limit) else c.check related
  | .group how parts =>
    if limit < depth then .error (.tooDeep limit)
    else do
      how.check related
      checkParts limit (related || how.relation.isSome) (depth + 1) parts

def checkParts (limit : Nat) (related : Bool) (depth : Nat) :
    List Query → Except ValidationError Unit
  | [] => .ok ()
  | q :: qs => do
    q.checkNode limit related depth
    checkParts limit related depth qs

end

/-- Checks a query; `related` says that it speaks of related things from the start. -/
def check (q : Query) (related : Bool) (limit : Nat) : Except ValidationError Unit :=
  q.checkNode limit related 1

end Query

end MediaCatalog
