import MediaCatalog.Store.Operation
/-!
# Operations as documents

An operation is an object that names it under `do`. Metadata, queries and locations in it are
documents, or texts that hold one.
-/

namespace MediaCatalog

namespace Json

/-- Reads a document, or a text that holds one. -/
def held {α : Type} (parse : String → Except Fault α) (ofJson? : Json → Option α) :
    Json → Except Fault α
  | .string text => parse text
  | j => Fault.orOtherShape (ofJson? j)

/-- A list of texts. -/
def texts? : Json → Option (List String)
  | .array xs => xs.mapM text?
  | _ => none

def wholeNumber? : Json → Option Int
  | .number n => n.integer?
  | _ => none

end Json

/-- The members of a document that tells of an operation. -/
abbrev Details := List (String × Json)

namespace Details

/-- What stands under a key, or null. -/
def get (d : Details) (key : String) : Json := (Json.last? key d).getD .null

/-- A value that has to be there. -/
def need {α : Type} (d : Details) (read : Json → Option α) (key : String) : Except Json.Fault α :=
  Json.Fault.orOtherShape (read (d.get key))

/-- A value that may be missing. -/
def maybe {α : Type} (d : Details) (read : Json → Option α) (key : String) :
    Except Json.Fault (Option α) :=
  d.need (Metadata.orNull? read) key

def text (d : Details) (key : String) : Except Json.Fault String := d.need Json.text? key

/-- A flag, off when it is missing. -/
def flag (d : Details) (key : String) : Except Json.Fault Bool := do
  return (← d.maybe Json.bool? key).getD false

/-- Texts, none when they are missing. -/
def texts (d : Details) (key : String) : Except Json.Fault (List String) := do
  return (← d.maybe Json.texts? key).getD []

def relation (d : Details) : Except Json.Fault Relation :=
  d.need (fun j => j.text?.bind Relation.ofName?) "relation"

def hierarchy (d : Details) : Except Json.Fault Hierarchy :=
  d.need (fun j => (j.text?.bind Relation.ofName?).bind Hierarchy.ofRelation?) "hierarchy"

def query (d : Details) : Except Json.Fault Query :=
  Json.held Query.parse Query.ofJson? (d.get "query")

def metadata (d : Details) : Except Json.Fault Metadata :=
  Json.held Metadata.shape.parse Metadata.shape.ofJson? (d.get "metadata")

def location (d : Details) : Except Json.Fault (Option Location) :=
  Json.held Location.shape.parseOptional Location.shape.ofJsonOptional? (d.get "location")

def uploaded (d : Details) : Except Json.Fault Time.Instant := do
  return (← d.need Json.date? "uploaded").instant

def file (d : Details) : Except Json.Fault FileDetails := do
  let name := fun key => do return (← d.maybe Json.text? key).getD ""
  let size := fun key => do return (← d.maybe Json.wholeNumber? key).getD 0
  let measure := d.maybe Metadata.double?
  return { fileName := ← name "fileName"
           fileSize := ← size "fileSize"
           width := ← size "width"
           height := ← size "height"
           mimetype := ← name "mimetype"
           duration := ← measure "duration"
           frameRate := ← measure "frameRate"
           bitRate := ← measure "bitRate" }

/-- The album, tag or person of a creation. -/
def entity (d : Details) (r : Relation) : Except Json.Fault Entity := do
  let parent ← if r.isHierarchical then d.maybe Json.text? "parent" else pure none
  return ⟨r, ← d.text "id", ← d.text "catalog", parent, ← d.text "name"⟩

/-- The operation with a name, apart from transactions. -/
def operation (d : Details) : String → Except Json.Fault Operation
  | "user" => do return .createUser (← d.text "email") (← d.text "name")
  | "catalog" => do return .createCatalog (← d.text "id") (← d.text "name")
  | "grant" => do return .grant (← d.text "user") (← d.text "catalog") (← d.flag "writable")
  | "album" => do return .createEntity (← d.entity .album)
  | "tag" => do return .createEntity (← d.entity .tag)
  | "person" => do return .createEntity (← d.entity .person)
  | "set_parent" => do
    return .setParent (← d.hierarchy) (← d.text "id") (← d.maybe Json.text? "parent")
  | "media" => do
    return .createMedia (← d.text "id") (← d.text "catalog") (← d.text "at") (← d.metadata)
  | "update_media" => do return .updateMedia (← d.text "media") (← d.text "at") (← d.metadata)
  | "delete_media" => do
    return .deleteMedia (← d.text "media") ((← d.maybe Json.text? "at").getD "")
  | "file" => do
    return .addFile (← d.text "id") (← d.text "media") (← d.uploaded) (← d.file) (← d.metadata)
  | "add_relations" => do
    return .addRelations (← d.relation) (← d.text "catalog") (← d.texts "media")
      (← d.texts "entities")
  | "remove_relations" => do
    return .removeRelations (← d.relation) (← d.texts "media") (← d.texts "entities")
  | "set_relations" => do
    return .setRelations (← d.relation) (← d.text "catalog") (← d.text "media")
      (← d.texts "entities")
  | "set_location" => do
    return .setLocation (← d.text "media") (← d.text "person") (← d.location)
  | "create_saved" => do
    return .createSearch ⟨← d.text "id", ← d.text "catalog", ← d.text "name", ← d.flag "shared",
      ← d.query⟩
  | "raw_saved" => do
    return .insertSearch ⟨← d.text "id", ← d.text "catalog", ← d.text "name", ← d.flag "shared",
      ← d.text "text"⟩
  | "update_saved" => do
    return .updateSearch (← d.text "id") (← d.text "name") (← d.query) (← d.flag "shared")
  | "delete_saved" => do return .deleteSearch (← d.text "id")
  | _ => .error .otherShape

end Details

namespace Operation

mutual

/-- The operation of a document. -/
def ofJson : Json → Except Json.Fault Operation
  | .object ms => do
    let name ← Details.text ms "do"
    if name = "transaction" then
      return .transaction (← partsOf ms) (!(← Details.flag ms "fail"))
    else Details.operation ms name
  | _ => .error .otherShape

/-- The operations under `ops`. -/
def partsOf : List (String × Json) → Except Json.Fault (List Operation)
  | [] => .ok []
  | (k, v) :: ms => if k = "ops" then ofItems v else partsOf ms

def ofItems : Json → Except Json.Fault (List Operation)
  | .array xs => ofList xs
  | _ => .error .otherShape

def ofList : List Json → Except Json.Fault (List Operation)
  | [] => .ok []
  | x :: xs => do
    let op ← ofJson x
    return op :: (← ofList xs)

end

/-- Reads a journal, which holds an operation a line. Empty lines are passed over. -/
def parseJournal (text : String) : Except Json.Fault (List Operation) :=
  ((text.splitOn "\n").filter fun line => !line.isEmpty).mapM fun line => do
    ofJson (← Json.parse line)

end Operation

end MediaCatalog
