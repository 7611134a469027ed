import MediaCatalog.Toml.Reader
import MediaCatalog.Query.Check
/-!
# Configuration

Where the database is, how deep queries may nest and who asks unless someone is named. The file is
TOML; what it leaves out has a default, and what it holds beside is passed over.
-/

namespace MediaCatalog

/-- The directories that files are looked for in. -/
structure Directories where
  config : String
  data : String

structure Config where
  database : String
  maxDepth : Nat
  defaultUser : Option String
deriving DecidableEq

namespace Config

/-- The directory of the program's own files below another. -/
def folder : String := "photocat"

/-- The path of a file in the program's own directory below another. -/
def pathIn (directory file : String) : String := directory ++ "/" ++ folder ++ "/" ++ file

/-- Where the file is unless another path is given. -/
def defaultPath (d : Directories) : String := pathIn d.config "config.toml"

def default (d : Directories) : Config := ⟨pathIn d.data "photocat.db", defaultMaxDepth, none⟩

/-! ## Reading -/

def text? : Toml → Option String
  | .string s => some s
  | _ => none

def depth? : Toml → Option Nat
  | .integer n => if 0 ≤ n then some n.toNat else none
  | _ => none

/-- A value that may be missing. -/
def orElse {α : Type} (read : Toml → Option α) (default : α) : Option Toml → Option α
  | none => some default
  | some v => read v

/-- Sets how to search, from values that may be missing. -/
def setSearch? (c : Config) (depth user : Option Toml) : Option Config := do
  let depth ← orElse depth? c.maxDepth depth
  let user ← orElse (fun v => (text? v).map some) c.defaultUser user
  return { c with maxDepth := depth, defaultUser := user }

/-- The section on searching: a table, or its values in order. -/
def readSearch? (c : Config) : Toml → Option Config
  | .table _ ms | .inline ms => c.setSearch? (Toml.get? "max_depth" ms) (Toml.get? "default_user" ms)
  | .array xs => c.setSearch? xs[0]? xs[1]?
  | .date => some c
  | _ => none

/-- The configuration of a document. -/
def ofToml? (d : Directories) (ms : Toml.Members) : Option Config := do
  let c := default d
  let database ← orElse text? c.database (Toml.get? "db_path" ms)
  let c := { c with database := database }
  match Toml.get? "search" ms with
  | none => return c
  | some v => c.readSearch? v

/-- Reads a configuration file. -/
def parse? (d : Directories) (text : String) : Option Config :=
  (Toml.parse? text).bind (ofToml? d)

/-! ## Writing -/

/-- The text of a configuration file. -/
def text (c : Config) : String :=
  "db_path = " ++ Toml.writeString c.database ++ "\n\n[search]\nmax_depth = " ++ toString c.maxDepth
    ++ "\n" ++ ((c.defaultUser.map fun u => "default_user = " ++ Toml.writeString u ++ "\n").getD "")

/-- The text of a configuration whose numbers the file can hold. -/
def write (c : Config) : Except String String :=
  if Json.maxInteger < c.maxDepth then .error "out-of-range value for u64 type" else .ok c.text

/-- A configuration and what its file holds after it was loaded. -/
structure Loaded where
  config : Config
  file : String

/-- Loads a configuration from the content of its file; the default is written where there is none.
The error is told of the path. -/
def load (d : Directories) (path : String) : Option String → Except String Loaded
  | none => .ok ⟨default d, (default d).text⟩
  | some content =>
    match parse? d content with
    | some c => .ok ⟨c, content⟩
    | none => .error ("Invalid config " ++ path)

end Config

end MediaCatalog
