import MediaCatalog.Json.Basic
/-!
# Faults of JSON texts

A text can end too early, break the grammar, or hold a document of another shape than the one asked
for. A fault met while reading has a place in the text; one found in the finished document has none.
-/

namespace MediaCatalog.Json

/-- What stands where something else was expected. -/
inductive Found where
  | null
  | bool (b : Bool)
  | number (n : Number)
  | string (s : String)
  | array
  | object
deriving DecidableEq

def found : Json → Found
  | .null => .null
  | .bool b => .bool b
  | .number n => .number n
  | .string s => .string s
  | .array _ => .array
  | .object _ => .object

/-- How a document differs from the shape asked for. -/
inductive Mismatch where
  /-- A value of another kind. -/
  | kind (found : Found) (expected : String)
  /-- A value of the kind expected that is none of those allowed. -/
  | value (found : Found) (expected : String)
  /-- A list that is too long or too short. -/
  | length (n : Nat) (expected : String)
  | missing (key : String)
  | repeated (key : String)
  | unknownName (name : String) (known : List String)
  /-- A difference of which no more is told. -/
  | other
deriving DecidableEq

/-- What is wrong with a text. -/
inductive Flaw where
  /-- The text ends where a value should be. -/
  | unfinishedValue
  | unfinishedString
  | unfinishedArray
  | unfinishedObject
  | noValue
  | noWord
  | noColon
  /-- Neither a comma nor the closing bracket follows an item. -/
  | noItemEnd
  /-- Neither a comma nor the closing brace follows a member. -/
  | noMemberEnd
  | keyNotString
  | trailingComma
  /-- Something follows the document. -/
  | trailingText
  | controlCharacter
  | badEscape
  /-- No second surrogate follows the first of a pair. -/
  | brokenPair
  | loneSurrogate
  | badNumber
  | hugeNumber
  | deepNesting
  | mismatch (m : Mismatch)
deriving DecidableEq

/-- The name of a flaw in an answer: that of its kind. -/
def Flaw.category : Flaw → String
  | unfinishedValue | unfinishedString | unfinishedArray | unfinishedObject => "eof"
  | mismatch _ => "data"
  | _ => "syntax"

/-! ## Places -/

/-- A place in a text: its line, counted from one, and the bytes before it in that line. -/
structure Place where
  line : Nat
  column : Nat
deriving DecidableEq

namespace Place

/-- The place that lies some bytes after another. -/
def advance (p : Place) : Nat → List Char → Place
  | 0, _ | _, [] => p
  | n + 1, c :: cs =>
    if c = '\n' then advance ⟨p.line + 1, 0⟩ n cs
    else advance ⟨p.line, p.column + min (n + 1) c.utf8Size⟩ (n + 1 - c.utf8Size) cs

/-- The place some bytes into a text. -/
def ofOffset (text : String) (n : Nat) : Place := advance ⟨1, 0⟩ n text.toList

end Place

structure Fault where
  flaw : Flaw
  place : Option Place
deriving DecidableEq

namespace Fault

/-- A fault of a finished document. -/
def ofMismatch (m : Mismatch) : Fault := ⟨.mismatch m, none⟩

/-- The document has another shape. -/
def otherShape : Fault := ofMismatch .other

def category (f : Fault) : String := f.flaw.category

/-- What is told of a document that lacks a shape. -/
def orOtherShape {α : Type} : Option α → Except Fault α
  | some x => .ok x
  | none => .error otherShape

end Fault

/-! ## While reading -/

/-- Where reading stopped, given by the bytes that were not read. -/
structure Stop where
  flaw : Flaw
  left : Nat

/-- The fault of a text whose reading stopped. -/
def Stop.toFault (text : String) (s : Stop) : Fault :=
  ⟨s.flaw, some (.ofOffset text (text.utf8ByteSize - s.left))⟩

/-- The bytes of a text. -/
def bytesOf (cs : List Char) : Nat := cs.foldl (fun n c => n + c.utf8Size) 0

/-- Stops before what is left of the text. -/
def stop {α : Type} (flaw : Flaw) (cs : List Char) : Except Stop α := .error ⟨flaw, bytesOf cs⟩

/-- Stops after the first byte of what is left of the text. -/
def stopIn {α : Type} (flaw : Flaw) (cs : List Char) : Except Stop α :=
  .error ⟨flaw, bytesOf cs - 1⟩

/-- Reads a value from the front of a text. -/
abbrev Reader (α : Type) := List Char → Except Stop (α × List Char)

/-- Reads a whole text, with a reader that leaves nothing. -/
def Reader.parse {α : Type} (read : Reader α) (text : String) : Except Fault α :=
  match read text.toList with
  | .ok (x, _) => .ok x
  | .error s => .error (s.toFault text)

end MediaCatalog.Json
