import MediaCatalog.Store.Basic
/-!
# Files and directories

What stands at paths, as far as a command can see it. A path is walked part by part, and every part
but the last has to be a directory. Writing a file makes the directories above it.
-/

namespace MediaCatalog

/-- What stands at a path. -/
inductive Entry where
  | directory
  | text (content : String)
  | database (store : Store)
  /-- A file that is neither text nor a database. -/
  | other

/-- Why the system refuses a path. -/
inductive PathFault where
  | missing
  | occupied
  | notDirectory
  | isDirectory
  | longName
deriving DecidableEq

def PathFault.message : PathFault → String
  | missing => "No such file or directory (os error 2)"
  | occupied => "File exists (os error 17)"
  | notDirectory => "Not a directory (os error 20)"
  | isDirectory => "Is a directory (os error 21)"
  | longName => "File name too long (os error 36)"

/-- A place in the tree: the names that lead to it from the root or, going up first, from the
working directory. -/
structure Address where
  absolute : Bool
  up : Nat
  names : List String
deriving DecidableEq

namespace Address

/-- Where a path starts. -/
def start (path : String) : Address := ⟨path.toList.head? = some '/', 0, []⟩

/-- The place that a part of a path leads to. -/
def step (a : Address) (part : String) : Address :=
  if part = "" || part = "." then a
  else if part ≠ ".." then { a with names := a.names ++ [part] }
  else if a.names ≠ [] then { a with names := a.names.dropLast }
  else if a.absolute then a
  else { a with up := a.up + 1 }

/-- The shortest path to a place. -/
def path (a : Address) : String :=
  let parts := List.replicate a.up ".." ++ a.names
  if a.absolute then "/" ++ "/".intercalate parts
  else if parts.isEmpty then "." else "/".intercalate parts

end Address

/-- The parts of a path between its slashes. -/
def pathParts (path : String) : List String := path.splitOn "/"

/-- The parts of a path that name something. -/
def namedParts (path : String) : List String :=
  (pathParts path).filter fun part => part ≠ "" && part ≠ "."

/-- The places that a path leads through, its own last. -/
def trail (path : String) : List Address :=
  ((pathParts path).foldl (fun (a, seen) part => (a.step part, seen ++ [a.step part]))
    (Address.start path, [Address.start path])).2

/-- The place that a path leads to, whatever stands on the way. -/
def Address.ofPath (path : String) : Address := (pathParts path).foldl step (start path)

/-- What stands where. -/
structure Files where
  entry? : Address → Option Entry

namespace Files

/-- Puts an entry in the place of what stands there. -/
def put (f : Files) (a : Address) (e : Entry) : Files :=
  ⟨fun b => if b = a then some e else f.entry? b⟩

/-- The most bytes of a name. -/
def maxName : Nat := 255

/-- The directory at a place. -/
def directory (f : Files) (a : Address) : Except PathFault Unit :=
  match f.entry? a with
  | some .directory => .ok ()
  | some _ => .error .notDirectory
  | none => .error .missing

/-- Walks parts of a path from a place. -/
def walk (f : Files) (a : Address) : List String → Except PathFault Address
  | [] => .ok a
  | part :: parts => do
    f.directory a
    if maxName < part.utf8ByteSize then throw .longName
    f.walk (a.step part) parts

/-- What stands at a path. -/
def lookup (f : Files) (path : String) : Except PathFault Entry :=
  if path = "" then .error .missing
  else do
    match f.entry? (← f.walk (.start path) (pathParts path)) with
    | some e => return e
    | none => throw .missing

/-! ## Making directories -/

/-- Makes a directory of the last part of a path in the place that the parts before it lead to. One
that is there already will do. -/
def makeOne (f : Files) (start : Address) (before : List String) (part : String) :
    Except PathFault Files := do
  let a ← f.walk start before
  f.directory a
  if maxName < part.utf8ByteSize then throw .longName
  match f.entry? (a.step part) with
  | some .directory => return f
  | some _ => throw .occupied
  | none => return f.put (a.step part) .directory

/-- Makes the directory that some parts lead to, last first, and all that are missing above it. -/
def makeAll (f : Files) (start : Address) : List String → Except PathFault Files
  | [] => .ok f
  | part :: above =>
    match f.makeOne start above.reverse part with
    | .error .missing => do
      let f ← makeAll f start above
      f.makeOne start above.reverse part
    | r => r

/-- Makes the directory above a path. -/
def makeAbove (f : Files) (path : String) : Except PathFault Files :=
  f.makeAll (.start path) (namedParts path).dropLast.reverse

/-! ## Writing -/

/-- Writes a new file at a path in a directory that exists. -/
def create (f : Files) (path : String) (e : Entry) : Except PathFault Files :=
  match (pathParts path).reverse.dropWhile (· = "") with
  | [] => .error .missing
  | part :: above => do
    let a ← f.walk (.start path) above.reverse
    f.directory a
    if part = "." || part = ".." || path.toList.getLast? = some '/' then throw .isDirectory
    if maxName < part.utf8ByteSize then throw .longName
    return f.put (a.step part) e

/-- Writes a new file, with the directories above it. -/
def write (f : Files) (path content : String) : Except PathFault Files := do
  (← f.makeAbove path).create path (.text content)

end Files

end MediaCatalog
