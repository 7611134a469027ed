import MediaCatalog.Json.Reader
/-!
# Records of scalars

A record is an object whose known keys hold scalars, or an array of them in the order of the keys.
A known key may not be repeated, unknown keys are passed over, and reading text stops at the first
value that does not fit.
-/

namespace MediaCatalog.Json

/-- How a record is filled: its keys, which of them have to be there, and what a value does under
its key. -/
structure RecordShape (α : Type) where
  keys : List String
  required : List String
  initial : α
  set? : α → String → Json → Option α

/-- A record that is being read, with the keys that have been met. -/
structure OpenRecord (α : Type) where
  value : α
  seen : List String

namespace RecordShape

variable {α : Type} (shape : RecordShape α)

def start : OpenRecord α := ⟨shape.initial, []⟩

/-- Puts a value under a known key that has not been met. -/
def put? (r : OpenRecord α) (key : String) (v : Json) : Option (OpenRecord α) :=
  if r.seen.contains key then none
  else (shape.set? r.value key v).map fun value => ⟨value, key :: r.seen⟩

/-- The record, if nothing is missing. -/
def finish? (r : OpenRecord α) : Option α :=
  if shape.required.all r.seen.contains then some r.value else none

/-! ## From a document -/

def putMembers? (r : OpenRecord α) : List (String × Json) → Option (OpenRecord α)
  | [] => some r
  | (k, v) :: ms =>
    if shape.keys.contains k then (shape.put? r k v).bind fun r => putMembers? r ms
    else putMembers? r ms

/-- The record of a document. -/
def ofJson? : Json → Option α
  | .object ms => (shape.putMembers? shape.start ms).bind shape.finish?
  | .array xs =>
    if xs.length = shape.keys.length then
      (shape.putMembers? shape.start (shape.keys.zip xs)).bind shape.finish?
    else none
  | _ => none

/-! ## From a text -/

/-- What has no place in the record is of another shape. -/
def orStop {β : Type} (cs : List Char) : Option β → Except Stop β
  | some x => .ok x
  | none => stop (.mismatch .other) cs

/-- Reads a scalar; an array or an object is of another shape. -/
def readScalar : Reader Json := readScalarOr (stop (.mismatch .other))

/-- Reads a member and puts it into the record. -/
def readMemberInto (r : OpenRecord α) : Reader (OpenRecord α) := fun cs => do
  let (key, cs) ← readKey cs
  if shape.keys.contains key then
    if r.seen.contains key then stop (.mismatch (.repeated key)) cs
    else
      let (v, cs) ← readScalar (← readColon cs)
      return (← orStop cs (shape.put? r key v), cs)
  else
    let cs ← readColon cs
    return (r, ← skipValue cs cs)

/-- Reads the members after the first, with the text as fuel. -/
def readMembersInto : List Char → OpenRecord α → Reader (OpenRecord α)
  | [], _, cs => stop .unfinishedObject cs
  | _ :: fuel, r, cs => do
    let (more, cs) ← nextItem objectBracket cs
    if more then
      let (r, cs) ← shape.readMemberInto r cs
      readMembersInto fuel r cs
    else return (r, cs)

/-- Reads a record after its opening brace. -/
def readObject : Reader α := fun cs =>
  match skipBlank cs with
  | [] => stop .unfinishedObject []
  | c :: rest => do
    let (r, rest) ←
      if c = objectBracket.close then pure (shape.start, rest)
      else do
        let (r, cs) ← shape.readMemberInto shape.start (c :: rest)
        shape.readMembersInto cs r cs
    return (← orStop rest (shape.finish? r), rest)

/-- Reads one value for each key that is left; a list that ends before is of another shape, and one
that goes on after is malformed. -/
def readElements : List String → OpenRecord α → Reader (OpenRecord α)
  | [], r, cs =>
    match skipBlank cs with
    | [] => stop .unfinishedArray []
    | c :: rest => if c = arrayBracket.close then .ok (r, rest) else stopIn .trailingText (c :: rest)
  | key :: keys, r, cs => do
    let first := r.seen.isEmpty
    let (more, cs) ← if first then pure (true, skipBlank cs) else nextItem arrayBracket cs
    if !more || cs.head? = some arrayBracket.close then stop (.mismatch .other) cs
    else
      let (v, cs) ← readScalar cs
      let r ← orStop cs (shape.put? r key v)
      readElements keys r cs

/-- Reads a record. -/
def read : Reader α := fun cs =>
  match skipBlank cs with
  | '\x7b' :: rest => shape.readObject rest
  | '[' :: rest => do
    let (r, rest) ← shape.readElements shape.keys shape.start rest
    return (← orStop rest (shape.finish? r), rest)
  | cs => do
    let (_, rest) ← readScalar cs
    stop (.mismatch .other) rest

/-- Reads a record or null. -/
def readOptional : Reader (Option α) := fun cs =>
  match skipBlank cs with
  | 'n' :: rest => (readWord "ull".toList rest).map (none, ·)
  | cs => (shape.read cs).map fun (x, rest) => (some x, rest)

/-- Reads a text that is a record. -/
def parse (text : String) : Except Fault α := Reader.parse (alone shape.read) text

/-- Reads a text that is a record or null. -/
def parseOptional (text : String) : Except Fault (Option α) :=
  Reader.parse (alone shape.readOptional) text

/-- The record of a document that may be null. -/
def ofJsonOptional? : Json → Option (Option α)
  | .null => some none
  | j => (shape.ofJson? j).map some

end RecordShape

end MediaCatalog.Json
