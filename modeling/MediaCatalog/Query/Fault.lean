import MediaCatalog.Query.Wire
import MediaCatalog.Json.Fault
/-!
# Documents that are no queries

What is told of such a document is its first fault: the members of a node are looked at in the order
in which they stand, each with all that is below it, and what is missing comes after them.
-/

namespace MediaCatalog

open Json (Mismatch)

namespace Json

def textFault? : Json → Option Mismatch
  | .string _ => none
  | j => some (.kind j.found "a string")

def boolFault? : Json → Option Mismatch
  | .bool _ => none
  | j => some (.kind j.found "a boolean")

def nameFault? (known : List String) (name : String) : Option Mismatch :=
  if known.contains name then none else some (.unknownName name known)

/-- The fault of what stands under a name that needs nothing. -/
def nothingFault? : Json → Option Mismatch
  | .null | .object [] => none
  | j => some (.kind j.found "unit")

def choiceFault? (known : List String) : Json → Option Mismatch
  | .string s => nameFault? known s
  | .object [(s, v)] => (nameFault? known s).or (nothingFault? v)
  | .object _ => some (.value .object "map with a single key")
  | j => some (.kind j.found "string or map")

/-- The fault of a value that may be null. -/
def orNull (fault? : Json → Option Mismatch) : Json → Option Mismatch
  | .null => none
  | j => fault? j

end Json

namespace NodeKind

def names : List String := values.map NodeKind.name

/-- What the kind of a node is called where it is missing. -/
def expected : String := "variant identifier"

/-- The fault of what should be the kind of a node. -/
def fault (j : Json) : Mismatch :=
  match j with
  | .string s => .unknownName s names
  | .number (.int n) =>
    if 0 ≤ n then .value j.found "variant index 0 <= i < 2" else .kind j.found expected
  | j => .kind j.found expected

/-- The kind that a value names, or its fault. -/
def read (j : Json) : Except Mismatch NodeKind :=
  match ofJson? j with
  | some kind => .ok kind
  | none => .error (fault j)

/-- The keys that may not be left out. -/
def requiredKeys : NodeKind → List String
  | .field => ["field", "operator"]
  | .compound => ["join", "queries"]

/-- What the array form of a node is called when it is too short. -/
def listName : NodeKind → String
  | .field => "struct FieldQuery with 5 elements"
  | .compound => "struct CompoundQuery with 5 elements"

/-- The kind of a node among its members, which name it once. -/
def ofMembers : Option NodeKind → List (String × Json) → Except Mismatch NodeKind
  | none, [] => .error (.missing "type")
  | some kind, [] => .ok kind
  | known, (k, v) :: ms =>
    if k = "type" then
      match known with
      | none => do ofMembers (some (← read v)) ms
      | some _ => .error (.repeated "type")
    else ofMembers known ms

end NodeKind

namespace Query

/-- The fault of a value under a key other than `queries`. -/
def valueFault? (key : String) (v : Json) : Option Mismatch :=
  match key with
  | "field" => v.textFault?
  | "modifier" => Json.orNull (Json.choiceFault? (Modifier.values.map (·.name))) v
  | "operator" => v.choiceFault? (Operator.values.map (·.name))
  | "join" => v.choiceFault? (Join.values.map (·.name))
  | "relation" => Json.orNull (Json.choiceFault? (Relation.values.map (·.name))) v
  | "invert" | "recursive" => v.boolFault?
  | _ => none

mutual

/-- The first fault of a node. -/
def nodeFault? : Json → Option Mismatch
  | .object ms =>
    match NodeKind.ofMembers none ms with
    | .ok kind => membersFault? kind [] ms
    | .error m => some m
  | .array [] => some (.missing "type")
  | .array (tag :: xs) =>
    match NodeKind.read tag with
    | .ok kind =>
      (elementsFault? kind kind.keys xs).or <|
        if kind.keys.length < xs.length then
          some (.length xs.length (toString kind.keys.length ++ " elements in sequence"))
        else none
    | .error m => some m
  | j => some (.kind j.found "internally tagged enum Query")

/-- The first fault of the members of a node after those of the keys that have been seen. -/
def membersFault? (kind : NodeKind) (seen : List String) : List (String × Json) → Option Mismatch
  | [] => (kind.requiredKeys.find? (!seen.contains ·)).map .missing
  | (k, v) :: ms =>
    if kind.keys.contains k then
      if seen.contains k then some (.repeated k)
      else
        (if k = "queries" then partsFault? v else valueFault? k v).or
          (membersFault? kind (k :: seen) ms)
    else membersFault? kind seen ms

/-- The first fault of the elements of a node that stand for the keys that are left. -/
def elementsFault? (kind : NodeKind) : List String → List Json → Option Mismatch
  | [], _ => none
  | keys, [] =>
    (keys.find? kind.requiredKeys.contains).map fun k => .length (kind.keys.idxOf k) kind.listName
  | k :: keys, x :: xs =>
    (if k = "queries" then partsFault? x else valueFault? k x).or (elementsFault? kind keys xs)

def partsFault? : Json → Option Mismatch
  | .array xs => nodesFault? xs
  | j => some (.kind j.found "a sequence")

def nodesFault? : List Json → Option Mismatch
  | [] => none
  | x :: xs => (nodeFault? x).or (nodesFault? xs)

end

/-- What is told of a document that is no query. -/
def mismatch (j : Json) : Mismatch := (nodeFault? j).getD .other

end Query

end MediaCatalog
