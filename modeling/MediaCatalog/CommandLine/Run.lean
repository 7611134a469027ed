import MediaCatalog.CommandLine.Arguments
import MediaCatalog.Config
import MediaCatalog.Files
import MediaCatalog.Json.Complaint
import MediaCatalog.Search.Basic
/-!
# Running a command

A command is run in an environment of files and databases. The configuration is loaded before
anything else, then the database is opened by all commands but a check, and the first step that
fails gives the complaint.
-/

namespace MediaCatalog.CommandLine

structure Environment where
  directories : Directories
  /-- The path of the configuration, where a variable names it. -/
  configPath : Option String
  files : Files

/-! ## Complaints -/

/-- A check's complaint. Of a pattern that is refused it says why. -/
def validationText (e : ValidationError) : String :=
  match e with
  | .invalidPattern _ .unreadable => e.message ++ ": regex parse error:"
  | .invalidPattern _ .tooLarge =>
    e.message ++ ": Compiled regex exceeds size limit of 10485760 bytes."
  | e => e.message

/-- How many columns of a row come before `taken`: those of the item, those of its file, and the
other metadata. -/
def columnsBeforeTaken : Nat := 4 + 11 + (MetadataField.all.filter (· ≠ .taken)).length

/-- The position of a column in a row, in which the zone of `taken` and what the item is linked to
come last. -/
def columnIndex : TextColumn → Nat
  | .created => 2
  | .updated => 3
  | .uploaded => 5
  | .taken => columnsBeforeTaken
  | .people => columnsBeforeTaken + 4

def readFaultText : ReadFault → String
  | .time f => f.message
  | .document f => f.message

def storeText (e : StoreError) : String :=
  (e.message?).getD <|
    match e with
    | .unreadable column cause =>
      "Conversion error from type Text at index: " ++ toString (columnIndex column) ++ ", "
        ++ readFaultText cause
    | .noRow => "Query returned no rows"
    | .nestedTransaction => "cannot start a transaction within a transaction"
    | .longPattern => "LIKE or GLOB pattern too complex"
    | .deepCondition => "Expression tree is too large (maximum depth 1000)"
    | .manyValues => "variable number must be between ?1 and ?32766 in WITH current_file AS ("
    | _ => "invalid predicate"

def searchText : SearchError → String
  | .invalid e => "invalid query: " ++ validationText e
  | .storage e => "database error: " ++ storeText e
  | .corrupt f => "stored query is not valid JSON: " ++ f.message
  | e => (e.message?).getD ""

/-! ## Files -/

/-- The path of the configuration: that of an option, or of a variable, or the default. -/
def configPath (env : Environment) (i : Invocation) : String :=
  (i.config.or env.configPath).getD (Config.defaultPath env.directories)

/-- Loads the configuration of an invocation, and gives what stands where afterwards: where there is
no file, one with the default is written. -/
def load (env : Environment) (i : Invocation) : Except String (Config.Loaded × Files) :=
  let path := configPath env i
  match env.files.lookup path with
  | .ok (.text content) => (Config.load env.directories path (some content)).map (·, env.files)
  | .ok _ => .error ("Failed to read config " ++ path)
  | .error _ => do
    let loaded ← Config.load env.directories path none
    return (loaded, ← (env.files.write path loaded.file).mapError (·.message))

/-- The query in the file at a path. -/
def readQuery (files : Files) (path : String) : Except String Query :=
  match files.lookup path with
  | .ok (.text content) => (Query.parse content).mapError fun _ => "Invalid query JSON in " ++ path
  | _ => .error ("Failed to read query " ++ path)

/-- The path of a database that is kept nowhere. -/
def isTransient (path : String) : Bool := path = "" || path = ":memory:"

/-- No path has a zero byte. -/
def nameFault? (path : String) : Option String :=
  if (namedParts path).dropLast.any (·.contains '\x00') then
    some "file name contained an unexpected NUL byte"
  else if path.contains '\x00' then
    let before := String.ofList (path.toList.takeWhile (· ≠ '\x00'))
    some ("nul byte found in provided data at position: " ++ toString before.utf8ByteSize)
  else none

/-- Opens the database at a path, with the directories above it. One that does not exist, or that is
kept nowhere, is empty, and so is an empty file. -/
def openDatabase (files : Files) (path : String) : Except String (Store × Files) := do
  if let some e := nameFault? path then throw e
  let files ← (files.makeAbove path).mapError (·.message)
  if isTransient path then return (Store.empty, files)
  let a := Address.ofPath path
  let opened (s : Store) := (s, files.put a (.database s))
  let failure := "unable to open database file: " ++ path
  match files.entry? a with
  | some (.database s) => return opened s
  | some (.text "") => return opened Store.empty
  | some .directory => throw failure
  | some _ => throw "file is not a database"
  | none =>
    if a.names.any fun name => Files.maxName < name.utf8ByteSize then throw failure
    else return opened Store.empty

/-! ## Commands -/

/-- The one who asks: given by an option, or else by the configuration. -/
def caller (c : Config) (i : Invocation) : Except String String :=
  match i.user.or c.defaultUser with
  | some user => .ok user
  | none => .error "No caller given: pass --user or set search.default_user"

def rowsJson (rows : List MediaRow) : Json := .array (rows.map MediaRow.toJson)

def sharedJson (x : SharedRows) : Json :=
  .object [("name", .string x.name), ("media", rowsJson x.rows)]

/-- The document that a command prints, or the word of a check. -/
def print (j : Json) : String := j.indented ++ "\n"

/-- Checks the query in a file. -/
def checkQuery (files : Files) (c : Config) (path : String) : Except String String := do
  let q ← readQuery files path
  (q.check false c.maxDepth).mapError validationText
  return "ok\n"

/-- What an invocation prints that looks into a database. -/
def answer (store : Store) (files : Files) (c : Config) (i : Invocation) : Except String String :=
  let service := { SearchService.ofStore store with maxDepth := c.maxDepth }
  let shown (r : Except SearchError (List MediaRow)) :=
    (r.mapError searchText).map fun rows => print (rowsJson rows)
  match i.command with
  | .check path => checkQuery files c path
  | .search catalog path => do
    let q ← readQuery files path
    shown (service.search (← caller c i) catalog q)
  | .shared id => ((service.runShared id).mapError searchText).map fun x => print (sharedJson x)
  | .album id recursive => do shown (service.listAlbum (← caller c i) id recursive)
  | .catalog id => do shown (service.listCatalog (← caller c i) id)

/-- What an invocation prints, with its configuration. A check needs no database. -/
def execute (files : Files) (c : Config) (i : Invocation) : Except String String :=
  match i.command with
  | .check path => checkQuery files c path
  | _ => do
    let (store, files) ← openDatabase files c.database
    answer store files c i

/-- Runs an invocation. -/
def runInvocation (env : Environment) (i : Invocation) : Outcome :=
  match (load env i).bind fun (loaded, files) => execute files loaded.config i with
  | .ok output => ⟨0, output, ""⟩
  | .error e => ⟨1, "", "Error: " ++ e⟩

/-- Runs the program. -/
def run (env : Environment) (args : List String) : Outcome :=
  match parse args with
  | .error outcome => outcome
  | .ok i => runInvocation env i

end MediaCatalog.CommandLine
