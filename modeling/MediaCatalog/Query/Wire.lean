import MediaCatalog.Query.Basic
import MediaCatalog.Json.Writer
/-!
# Queries as JSON

A node is an object with a `type`, or an array of the type and the node's keys in order. Keys with
a default may be left out, unknown keys are passed over, and a known key may not be repeated.
-/

namespace MediaCatalog

/-! ## Reading -/

namespace Json

/-- A choice of names is written as one of them, or as an object whose only member has that name
and is empty. -/
def choice? {α : Type} (ofName? : String → Option α) : Json → Option α
  | .string s => ofName? s
  | .object [(s, .null)] => ofName? s
  | .object [(s, .object [])] => ofName? s
  | _ => none

def bool? : Json → Option Bool
  | .bool b => some b
  | _ => none

namespace Named

/-- The value of a key that has to be there. -/
def required {α : Type} (read : Json → Option α) : Named → Option α
  | .once j => read j
  | _ => none

/-- The value of a key that may be left out. -/
def orElse {α : Type} (read : Json → Option α) (default : α) : Named → Option α
  | .absent => some default
  | .once j => read j
  | .repeated => none

/-- The value of a key that may be left out or null. -/
def optional {α : Type} (read : Json → Option α) : Named → Option (Option α)
  | .absent => some none
  | .once .null => some none
  | .once j => (read j).map some
  | .repeated => none

end Named

end Json

/-- The kinds of nodes. -/
inductive NodeKind where
  | field
  | compound
deriving DecidableEq

namespace NodeKind

def name : NodeKind → String
  | .field => "field"
  | .compound => "compound"

def values : List NodeKind := [field, compound]

def ofName? (s : String) : Option NodeKind := values.find? (·.name = s)

/-- A node names its kind, or numbers it from zero. -/
def ofJson? : Json → Option NodeKind
  | .string s => ofName? s
  | .number (.int 0) => some .field
  | .number (.int 1) => some .compound
  | _ => none

/-- The keys of a node in the order of its array form. -/
def keys : NodeKind → List String
  | .field => ["field", "modifier", "operator", "value", "invert"]
  | .compound => ["join", "invert", "queries", "relation", "recursive"]

end NodeKind

/-- The condition that the members of a node describe. -/
def FieldQuery.ofMembers? (ms : List (String × Json)) : Option FieldQuery := do
  let field ← (Json.named "field" ms).required Json.text?
  let modifier ← (Json.named "modifier" ms).optional (Json.choice? Modifier.ofName?)
  let operator ← (Json.named "operator" ms).required (Json.choice? Operator.ofName?)
  let value ← (Json.named "value" ms).optional (some ·.sorted)
  let invert ← (Json.named "invert" ms).orElse Json.bool? false
  return ⟨field, modifier, operator, value, invert⟩

/-- The grouping that the members of a node describe. -/
def Grouping.ofMembers? (ms : List (String × Json)) : Option Grouping := do
  let join ← (Json.named "join" ms).required (Json.choice? Join.ofName?)
  let invert ← (Json.named "invert" ms).orElse Json.bool? false
  let relation ← (Json.named "relation" ms).optional (Json.choice? Relation.ofName?)
  let recursive ← (Json.named "recursive" ms).orElse Json.bool? false
  return ⟨join, invert, relation, recursive⟩

namespace Query

/-- Builds a node from its kind, its members and the parts read from its only key `queries`. -/
def ofMembers? (kind : NodeKind) (ms : List (String × Json)) (parts : Option (List Query)) :
    Option Query :=
  match kind with
  | .field => (FieldQuery.ofMembers? ms).map .field
  | .compound => do return .group (← Grouping.ofMembers? ms) (← parts)

/-- Builds a node from the elements of its array form after the kind. -/
def ofElements? (kind : NodeKind) (xs : List Json) (parts : List (Option (List Query))) :
    Option Query :=
  if kind.keys.length < xs.length then none
  else ofMembers? kind (kind.keys.zip xs) (parts[2]?.getD none)

mutual

/-- The query of a node inside a document. -/
def ofNode? : Json → Option Query
  | .object ms =>
    match Json.named "type" ms with
    | .once tag => do ofMembers? (← NodeKind.ofJson? tag) ms (partsOfMembers? ms)
    | _ => none
  | .array (tag :: xs) => do ofElements? (← NodeKind.ofJson? tag) xs (partsOfElements xs)
  | _ => none

/-- The queries of an array of nodes. -/
def partsOf? : Json → Option (List Query)
  | .array xs => nodesOf? xs
  | _ => none

def nodesOf? : List Json → Option (List Query)
  | [] => some []
  | x :: xs =>
    match ofNode? x, nodesOf? xs with
    | some q, some qs => some (q :: qs)
    | _, _ => none

/-- Every element read as an array of nodes. -/
def partsOfElements : List Json → List (Option (List Query))
  | [] => []
  | x :: xs => partsOf? x :: partsOfElements xs

/-- The nodes under the key `queries`, which may not be repeated. -/
def partsOfMembers? : List (String × Json) → Option (List Query)
  | [] => none
  | (k, v) :: ms =>
    if k = "queries" then
      match Json.named "queries" ms with
      | .absent => partsOf? v
      | _ => none
    else partsOfMembers? ms

end

theorem ofNode?_members (ms : List (String × Json)) : ofNode? (.object ms) =
    match Json.named "type" ms with
    | .once tag => (NodeKind.ofJson? tag).bind fun kind => ofMembers? kind ms (partsOfMembers? ms)
    | _ => none := rfl

theorem ofNode?_elements (tag : Json) (xs : List Json) : ofNode? (.array (tag :: xs)) =
    (NodeKind.ofJson? tag).bind fun kind => ofElements? kind xs (partsOfElements xs) := rfl

theorem nodesOf?_cons (x : Json) (xs : List Json) : nodesOf? (x :: xs) =
    match ofNode? x, nodesOf? xs with
    | some q, some qs => some (q :: qs)
    | _, _ => none := rfl

theorem partsOfElements_cons (x : Json) (xs : List Json) :
    partsOfElements (x :: xs) = partsOf? x :: partsOfElements xs := rfl

theorem partsOfMembers?_cons (k : String) (v : Json) (ms : List (String × Json)) :
    partsOfMembers? ((k, v) :: ms) =
      if k = "queries" then
        match Json.named "queries" ms with
        | .absent => partsOf? v
        | _ => none
      else partsOfMembers? ms := rfl

/-- The query of a whole document, whose own kind is a name. -/
def ofJson? (j : Json) : Option Query :=
  match j with
  | .object ms =>
    match Json.named "type" ms with
    | .once (.string _) => ofNode? j
    | _ => none
  | .array (.string _ :: _) => ofNode? j
  | _ => none

end Query

/-- The search of a document: an object with a catalog beside the keys of its query. -/
def Search.ofJson? : Json → Option Search
  | .object ms => do
    let catalog ← (Json.named "catalog" ms).required Json.text?
    let query ← Query.ofNode? (.object (ms.filter (·.1 ≠ "catalog")))
    return ⟨catalog, query⟩
  | _ => none

/-! ## Writing -/

/-- The members of a condition; an absent value is left out. -/
def FieldQuery.members (c : FieldQuery) : List (String × Json) :=
  [("type", .string NodeKind.field.name), ("field", .string c.field),
    ("modifier", (c.modifier.map fun m => Json.string m.name).getD .null),
    ("operator", .string c.operator.name)]
  ++ (c.value.map fun v => [("value", v)]).getD []
  ++ [("invert", .bool c.invert)]

/-- The members of a group; no relation and no recursion are left out. -/
def Grouping.members (how : Grouping) (parts : List Json) : List (String × Json) :=
  [("type", .string NodeKind.compound.name), ("join", .string how.join.name),
    ("invert", .bool how.invert), ("queries", .array parts)]
  ++ (how.relation.map fun r => [("relation", .string r.name)]).getD []
  ++ (if how.recursive then [("recursive", .bool true)] else [])

namespace Query

mutual

/-- The members of the outermost node. -/
def members : Query → List (String × Json)
  | .field c => c.members
  | .group how parts => how.members (documents parts)

def documents : List Query → List Json
  | [] => []
  | q :: qs => .object q.members :: documents qs

end

def toJson (q : Query) : Json := .object q.members

/-- The query as compact JSON text. -/
def text (q : Query) : String := q.toJson.compact

end Query

namespace Search

def toJson (s : Search) : Json := .object (("catalog", .string s.catalog) :: s.query.members)

/-- The search as compact JSON text. -/
def text (s : Search) : String := s.toJson.compact

end Search

end MediaCatalog
