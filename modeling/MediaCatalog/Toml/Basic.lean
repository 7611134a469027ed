/-!
# TOML documents

A document is a table. A table may be declared by a header once; before that it may already stand
above others, or have been filled by dotted keys, and the latter closes it for headers.
-/

namespace MediaCatalog

namespace Toml

/-- How a table came to be. -/
inductive Standing where
  /-- It has a header, or is the whole document. -/
  | declared
  /-- It stands above a table that has a header. -/
  | implied
  /-- It stands in the middle of a dotted key. -/
  | dotted
deriving DecidableEq

end Toml

inductive Toml where
  | string (s : String)
  | integer (n : Int)
  | boolean
  | float
  | date
  | array (items : List Toml)
  /-- A table in braces, which is closed. -/
  | inline (members : List (String × Toml))
  | table (standing : Toml.Standing) (members : List (String × Toml))
  /-- Tables that share a header, in order. -/
  | tables (items : List (List (String × Toml)))

namespace Toml

abbrev Members := List (String × Toml)

/-- What stands under a key. -/
def get? (key : String) (ms : Members) : Option Toml :=
  (ms.find? (·.1 = key)).map (·.2)

/-- Replaces what stands under a key, or adds it at the end. -/
def change (key : String) (f : Option Toml → Option Toml) : Members → Option Members
  | [] => (f none).map fun v => [(key, v)]
  | (k, v) :: ms =>
    if k = key then (f (some v)).map fun w => (k, w) :: ms
    else (change key f ms).map ((k, v) :: ·)

/-- Changes the last of the tables that share a header. -/
def changeLast (f : Members → Option Members) : List Members → Option (List Members)
  | [] => none
  | [ms] => (f ms).map fun ms => [ms]
  | ms :: rest => (changeLast f rest).map (ms :: ·)

/-- Changes a table that is there, or makes one. -/
def enter (made : Standing) (f : Members → Option Members) : Option Toml → Option Toml
  | none => (f []).map (table made)
  | some (table st ms) => (f ms).map (table st)
  | some (tables items) => (changeLast f items).map tables
  | some _ => none

/-- Puts a value under a dotted key. The tables on the way must not have headers, and the last of
them has only ever been filled by dotted keys. -/
def put (v : Toml) : List String → Members → Option Members
  | [], _ => none
  | [key], ms => change key (fun old => if old.isNone then some v else none) ms
  | key :: path, ms =>
    let closed : Option Toml → Bool
      | some (table st _) => st = .declared || (st = .implied && path.length = 1)
      | some (tables _) => path.length = 1
      | _ => false
    change key (fun old => if closed old then none else enter .dotted (put v path) old) ms

/-- Changes the table at a path of headers. -/
def within (f : Members → Option Members) : List String → Members → Option Members
  | [], ms => f ms
  | key :: path, ms => change key (enter .implied (within f path)) ms

/-- Declares a table by its header. -/
def declare (key : String) : Members → Option Members :=
  change key fun
    | none => some (table .declared [])
    | some (table .implied ms) => some (table .declared ms)
    | some _ => none

/-- Adds a table to those that share a header. -/
def append (key : String) : Members → Option Members :=
  change key fun
    | none => some (tables [[]])
    | some (tables items) => some (tables (items ++ [[]]))
    | some _ => none

/-! ## Statements -/

/-- A line of a document: a header by its path, or a key with a value. -/
inductive Statement where
  | header (path : List String)
  | itemHeader (path : List String)
  | pair (path : List String) (value : Toml)

/-- A document that is being read, and the path of its last header. -/
structure Open where
  path : List String
  root : Members

def Open.empty : Open := ⟨[], []⟩

/-- Changes what the last key of a path names. -/
def atPath (f : String → Members → Option Members) (path : List String) (root : Members) :
    Option Members :=
  path.getLast?.bind fun key => within (f key) path.dropLast root

/-- Adds a statement. -/
def Open.add? (o : Open) : Statement → Option Open
  | .header path => (atPath declare path o.root).map (⟨path, ·⟩)
  | .itemHeader path => (atPath append path o.root).map (⟨path, ·⟩)
  | .pair path v => (within (put v path) o.path o.root).map (⟨o.path, ·⟩)

/-- The table of a list of dotted keys with their values. -/
def ofPairs? (ps : List (List String × Toml)) : Option Members :=
  ps.foldlM (fun ms (path, v) => put v path ms) []

end Toml

end MediaCatalog
