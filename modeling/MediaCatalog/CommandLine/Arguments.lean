/-!
# Arguments

Options may stand anywhere. They are taken from left to right, and the first that ends the program
does so at once.
-/

namespace MediaCatalog.CommandLine

/-- What the program has printed when it ends, what it has to complain of, and its exit code. -/
structure Outcome where
  code : Nat
  output : String
  complaint : String
deriving DecidableEq

inductive Command where
  | check (query : String)
  | search (catalog query : String)
  | shared (id : String)
  | album (id : String) (recursive : Bool)
  | catalog (id : String)
deriving DecidableEq

/-- A command with the options given. -/
structure Invocation where
  config : Option String
  user : Option String
  command : Command
deriving DecidableEq

def helpText : String :=
"photocat - search a media catalog

USAGE:
    photocat [OPTIONS] <COMMAND>

COMMANDS:
    check <query.json>              Validate a query
    search <catalog> <query.json>   Search a catalog
    shared <search-id>              Run a shared saved search
    album <album-id> [--recursive]  List an album, optionally with sub-albums
    catalog <catalog-id>            List a whole catalog

OPTIONS:
    --config, -c PATH   Path to config file
    --user, -u EMAIL    Caller to authorize as (default: search.default_user)
    --recursive, -r     Include sub-albums when listing an album
    --version, -V       Show version
    --help, -h          Show this help message

ENVIRONMENT:
    PHOTOCAT_CONFIG     Path to config file (overrides default location)
    PHOTOCAT_LOG        Log level (trace, debug, info, warn, error)

Config file location: $XDG_CONFIG_HOME/photocat/config.toml
"

def versionText : String := "photocat 0.1.0\n"

/-- The options and the plain arguments that have been taken. -/
structure Taken where
  config : Option String
  user : Option String
  recursive : Bool
  plain : List String

def Taken.none : Taken := ⟨.none, .none, false, []⟩

/-- The command that the plain arguments name. -/
def Taken.command? (t : Taken) : Option Command :=
  match t.plain with
  | ["check", query] => some (.check query)
  | ["search", catalog, query] => some (.search catalog query)
  | ["shared", id] => some (.shared id)
  | ["album", id] => some (.album id t.recursive)
  | ["catalog", id] => some (.catalog id)
  | _ => .none

/-- The invocation, or else the help. -/
def Taken.finish (t : Taken) : Except Outcome Invocation :=
  match t.command? with
  | some c => .ok ⟨t.config, t.user, c⟩
  | .none => .error ⟨1, helpText, ""⟩

/-- An option without its argument. -/
def lacking (option kind : String) : Outcome :=
  ⟨1, "", "Error: " ++ option ++ " requires " ++ kind ++ " argument"⟩

/-- Takes the arguments that are left. -/
def take (t : Taken) : List String → Except Outcome Invocation
  | [] => t.finish
  | arg :: rest =>
    if arg = "--help" ∨ arg = "-h" then .error ⟨0, helpText, ""⟩
    else if arg = "--version" ∨ arg = "-V" then .error ⟨0, versionText, ""⟩
    else if arg = "--config" ∨ arg = "-c" then
      match rest with
      | path :: rest => take { t with config := some path } rest
      | [] => .error (lacking "--config" "a path")
    else if arg = "--user" ∨ arg = "-u" then
      match rest with
      | email :: rest => take { t with user := some email } rest
      | [] => .error (lacking "--user" "an email")
    else if arg = "--recursive" ∨ arg = "-r" then take { t with recursive := true } rest
    else if arg.toList.head? = some '-' then
      .error ⟨1, helpText, "Unknown argument: " ++ arg⟩
    else take { t with plain := t.plain ++ [arg] } rest

/-- Reads the arguments of the program. -/
def parse (args : List String) : Except Outcome Invocation := take .none args

end MediaCatalog.CommandLine
