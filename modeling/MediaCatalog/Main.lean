import MediaCatalog.CommandLine.Run
import MediaCatalog.Store.Journal
/-!
# The program

The outer layer reads what a command needs and prints what it says. A database is a journal of
operations, an operation a line; one that does not exist is empty.
-/

namespace MediaCatalog.Program

/-- What stands at a path. A file whose lines are operations is a database. -/
def entry? (path : String) : IO (Option Entry) := do
  let place := (← IO.currentDir) / path
  if !(← place.pathExists) then return none
  if ← place.isDir then return some .directory
  try
    let content ← IO.FS.readFile place
    match Operation.parseJournal content with
    | .ok [] => return some (.text content)
    | .ok history => return some (.database (Store.after history))
    | .error _ => return some (.text content)
  catch _ => return some .other

/-- What stands on the way to some paths. -/
def filesOn (paths : List String) : IO Files := do
  let places := (paths.flatMap trail).eraseDups
  let entries ← places.mapM fun a => return (a, ← entry? a.path)
  return ⟨fun a => (entries.find? (·.1 = a)).bind (·.2)⟩

/-- Writes a file, with the directories above it. -/
def writeFile (path text : String) : IO Unit := do
  let above := "/".intercalate (pathParts path).dropLast
  if above ≠ "" then IO.FS.createDirAll above
  IO.FS.writeFile path text

/-- The directory that a variable names by an absolute path, or else one in the home directory. -/
def directory (variableName fallback : String) : IO String := do
  let home := (← IO.getEnv "HOME").map (· ++ "/" ++ fallback)
  let named := (← IO.getEnv variableName).filter (·.toList.head? = some '/')
  return (named.or home).getD "."

/-- The path of the query that a command reads. -/
def queryPath? : CommandLine.Command → Option String
  | .check path | .search _ path => some path
  | _ => none

/-- The environment of an invocation, with all that it may read. A configuration that is missing is
written. -/
def environment (i : CommandLine.Invocation) : IO CommandLine.Environment := do
  let directories := ⟨← directory "XDG_CONFIG_HOME" ".config",
    ← directory "XDG_DATA_HOME" ".local/share"⟩
  let variablePath ← IO.getEnv "PHOTOCAT_CONFIG"
  let path := (i.config.or variablePath).getD (Config.defaultPath directories)
  let paths := path :: (queryPath? i.command).toList
  let env : CommandLine.Environment := ⟨directories, variablePath, ← filesOn paths⟩
  match CommandLine.load env i with
  | .error _ => return env
  | .ok (loaded, _) =>
    if (env.files.lookup path).toOption.isNone then writeFile path loaded.file
    return { env with files := ← filesOn (loaded.config.database :: paths) }

end MediaCatalog.Program

def main (args : List String) : IO UInt32 := do
  let env ←
    match MediaCatalog.CommandLine.parse args with
    | .ok i => MediaCatalog.Program.environment i
    | .error _ => pure ⟨⟨"", ""⟩, none, ⟨fun _ => none⟩⟩
  let outcome := MediaCatalog.CommandLine.run env args
  IO.print outcome.output
  unless outcome.complaint.isEmpty do IO.eprintln outcome.complaint
  return UInt32.ofNat outcome.code
