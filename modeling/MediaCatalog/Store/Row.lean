import MediaCatalog.Store.View
import MediaCatalog.Store.Links
import MediaCatalog.Predicate.Failure
import MediaCatalog.Sql.Limit
/-!
# Rows that are shown

A row that is shown is a row of the view whose timestamps and locations have been read back, with
all that the media item is linked to.
-/

namespace MediaCatalog

/-- The current file of a media item. -/
structure FileRow where
  id : String
  uploaded : Time.Instant
  version : Nat
  details : FileDetails

/-- A person in a media item, and where. -/
structure Appearance where
  person : Entity
  location : Option Location

structure MediaRow where
  id : String
  catalog : String
  created : Time.Instant
  updated : Time.Instant
  /-- None until a file has been processed. -/
  file : Option FileRow
  metadata : Metadata
  albums : List Entity
  tags : List Entity
  people : List Appearance

/-! ## Reading stored text -/

/-- A stored timestamp. -/
def readInstant (column : TextColumn) (s : String) : Except StoreError Time.Instant :=
  match Time.parse? s with
  | some z => .ok z.instant
  | none => .error (.unreadable column (.time (Time.fault s)))

/-- A value that may be missing. -/
def readOptional {α β : Type} (read : α → Except StoreError β) :
    Option α → Except StoreError (Option β)
  | none => .ok none
  | some x => (read x).map some

/-- A stored location. -/
def readLocation : LocationText → Except StoreError Location
  | .document s => (Location.shape.parse s).mapError fun f => .unreadable .people (.document f)
  | .malformed => .error .malformedDocument

/-- The metadata of a row, with `taken` in the zone it was recorded in. -/
def StoredMetadata.read (m : StoredMetadata) : Except StoreError Metadata := do
  let taken ← readOptional (readInstant .taken) m.taken
  return { text := m.text
           real := fun f => (m.real f).map .number
           integer := m.integer
           taken := taken.map fun t => Time.localize t m.zone
           zone := m.zone }

def MediaFile.read (f : MediaFile) : Except StoreError FileRow := do
  return ⟨f.id, ← readInstant .uploaded f.uploaded, f.version, f.details⟩

/-! ## Linked things -/

namespace Entity

/-- The order in which the things of a row are shown: by name, those of one name by id. -/
def isShownBefore (a b : Entity) : Bool :=
  a.name < b.name || (a.name = b.name && a.id ≤ b.id)

end Entity

namespace Store

/-- The things of a kind that a media item is linked to, with their links, in the order shown. -/
def linked (s : Store) (r : Relation) (media : String) : List (Entity × Link) :=
  let links := s.links.filter fun l => l.relation = r && l.media = media
  (links.filterMap fun l => (s.entity? r l.entity).map (·, l)).mergeSort fun a b =>
    a.1.isShownBefore b.1

/-- A person and the link's location. -/
def readAppearance (x : Entity × Link) : Except StoreError Appearance := do
  return ⟨x.1, ← readOptional readLocation x.2.location⟩

/-- The row that is shown for a row of the view. -/
def readRow (s : Store) (row : ViewRow) : Except StoreError MediaRow := do
  let file ← readOptional MediaFile.read row.file
  let people ← (s.linked .person row.id).mapM readAppearance
  return { id := row.id
           catalog := row.catalog
           created := ← readInstant .created row.created
           updated := ← readInstant .updated row.updated
           file := file
           metadata := ← row.values.read
           albums := (s.linked .album row.id).map (·.1)
           tags := (s.linked .tag row.id).map (·.1)
           people := people }

/-! ## Queries -/

/-- The rows of a view on which a predicate holds, in the order shown. -/
def select (s : Store) (p : Predicate) (rows : List ViewRow) : List ViewRow :=
  (rows.filter (p.holds s)).mergeSort ViewRow.isShownBefore

/-- A link to a person has a location that is no document. The people of all media items are
gathered before any row is tried, whatever the catalog, so that one such link fails every query. -/
def hasMalformed (s : Store) : Bool :=
  s.links.any fun l =>
    l.relation = .person && s.hasEntity .person l.entity && l.location = some .malformed

/-- The rows of a catalog on which a predicate holds. One row that cannot be read back fails the
whole. -/
def queryMedia (s : Store) (catalog : String) (p : Predicate) : Except StoreError (List MediaRow) :=
  let rows := s.view catalog
  if !p.isShallow then .error .deepCondition
  else if !p.isBindable then .error .manyValues
  else if !p.isScoped [] then .error .unknownColumn
  else if s.hasMalformed then .error .malformedDocument
  else
    match p.failure? s catalog with
    | some e => .error e
    | none => (s.select p rows).mapM s.readRow

/-- The predicate that one media item satisfies. -/
def isItem (id : String) : Predicate :=
  .compare ⟨.mediaId, none, .equal, some (.text id), false⟩

/-- The row of one media item. -/
def getMedia (s : Store) (catalog id : String) : Except StoreError (Option MediaRow) :=
  (s.queryMedia catalog (isItem id)).map List.head?

end Store

/-! ## Documents -/

namespace Entity

/-- An album, a tag or a person in documents. People have no parents. -/
def members (e : Entity) : List (String × Json) :=
  [("id", .string e.id), ("catalog", .string e.catalog)]
    ++ (if e.relation.isHierarchical then [("parent", Metadata.ofText e.parent)] else [])
    ++ [("name", .string e.name)]

def toJson (e : Entity) : Json := .object e.members

end Entity

/-- A whole number in documents. -/
def wholeJson (n : Int) : Json := .number (.int n)

/-- A measure in documents. -/
def measureJson (x : Option Double) : Json := (x.map Json.ofDouble).getD .null

namespace FileRow

def toJson (f : FileRow) : Json :=
  .object [("id", .string f.id), ("uploaded", .string f.uploaded.documentText),
    ("version", wholeJson f.version), ("fileName", .string f.details.fileName),
    ("fileSize", wholeJson f.details.fileSize), ("width", wholeJson f.details.width),
    ("height", wholeJson f.details.height), ("mimetype", .string f.details.mimetype),
    ("duration", measureJson f.details.duration), ("frameRate", measureJson f.details.frameRate),
    ("bitRate", measureJson f.details.bitRate)]

end FileRow

namespace Appearance

def toJson (a : Appearance) : Json :=
  .object (a.person.members ++ [("location", (a.location.map Location.toJson).getD .null)])

end Appearance

namespace MediaRow

def toJson (row : MediaRow) : Json :=
  .object ([("id", .string row.id), ("catalog", .string row.catalog),
      ("created", .string row.created.documentText), ("updated", .string row.updated.documentText),
      ("file", (row.file.map FileRow.toJson).getD .null)]
    ++ row.metadata.members
    ++ [("albums", .array (row.albums.map Entity.toJson)),
      ("tags", .array (row.tags.map Entity.toJson)),
      ("people", .array (row.people.map Appearance.toJson))])

end MediaRow

end MediaCatalog
