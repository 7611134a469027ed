import MediaCatalog.Media.Metadata
import MediaCatalog.Store.Error
import MediaCatalog.Query.Basic
/-!
# The store

The rows that are kept, as lists in the order of their creation. Timestamps, locations and saved
queries are kept as text.
-/

namespace MediaCatalog

/-! ## Rows -/

structure User where
  email : String
  name : String
deriving DecidableEq

structure Catalog where
  id : String
  name : String
deriving DecidableEq

/-- The access of a user to a catalog. -/
structure Grant where
  user : String
  catalog : String
  writable : Bool
deriving DecidableEq

/-- An album, a tag or a person. Only albums and tags have parents. -/
structure Entity where
  relation : Relation
  id : String
  catalog : String
  parent : Option String
  name : String
deriving DecidableEq

/-- Metadata as it is kept: timestamps are text in UTC, zeros have no sign, doubles are numbers. -/
structure StoredMetadata where
  text : TextField → Option String
  real : RealField → Option Binary64
  integer : IntegerField → Option Int
  taken : Option String
  zone : Option String

/-- A media item and what its user says of it. -/
structure MediaItem where
  id : String
  catalog : String
  created : String
  updated : String
  deleted : Bool
  values : StoredMetadata

/-- What is recorded of a file beside its metadata. -/
structure FileDetails where
  fileName : String
  fileSize : Int
  width : Int
  height : Int
  mimetype : String
  duration : Option Double
  frameRate : Option Double
  bitRate : Option Double
deriving DecidableEq

/-- A processed file of a media item. Versions count from one. -/
structure MediaFile where
  id : String
  media : String
  uploaded : String
  version : Nat
  details : FileDetails
  values : StoredMetadata

/-- The text of a location as it is kept, told by whether it is a document. One that has another shape
than a location is a document still. -/
inductive LocationText where
  /-- A document, which is all that is read of the text. -/
  | document (text : String)
  /-- A text that is no document. -/
  | malformed
deriving DecidableEq

/-- A link of a media item to an album, a tag or a person; that to a person can have a location. -/
structure Link where
  relation : Relation
  catalog : String
  media : String
  entity : String
  location : Option LocationText
deriving DecidableEq

/-- A saved search whose query is kept as text. -/
structure StoredSearch where
  id : String
  catalog : String
  name : String
  shared : Bool
  query : String
deriving DecidableEq

structure Store where
  users : List User
  catalogs : List Catalog
  grants : List Grant
  entities : List Entity
  items : List MediaItem
  files : List MediaFile
  links : List Link
  searches : List StoredSearch
  /-- A transaction is under way. -/
  inTransaction : Bool

/-! ## Metadata as it is kept -/

namespace Metadata

/-- Metadata as it is kept. -/
def stored (m : Metadata) : StoredMetadata :=
  { text := m.text
    real := fun f => (m.number? f).map Binary64.withoutSignedZero
    integer := m.integer
    taken := m.taken.map (·.instant.stored)
    zone := m.storedZone }

end Metadata

namespace StoredMetadata

def empty : StoredMetadata := ⟨fun _ => none, fun _ => none, fun _ => none, none, none⟩

/-- What an item says, and else what its file says; `taken` and its zone come from one side. -/
def overriding (item file : StoredMetadata) : StoredMetadata :=
  { text := fun f => (item.text f).or (file.text f)
    real := fun f => (item.real f).or (file.real f)
    integer := fun f => (item.integer f).or (file.integer f)
    taken := item.taken.or file.taken
    zone := if item.taken.isSome then item.zone else file.zone }

/-- The cell of a field. -/
def cell (m : StoredMetadata) : MetadataField → Cell
  | .text f => .ofText? (m.text f)
  | .real f => .ofReal? (m.real f)
  | .integer f => .ofInteger? (m.integer f)
  | .taken => .ofText? m.taken

end StoredMetadata

/-- File details as they are kept: zeros have no sign, and a measure that is no number is missing. -/
def FileDetails.stored (d : FileDetails) : FileDetails :=
  { d with
    duration := d.duration.bind Double.kept?
    frameRate := d.frameRate.bind Double.kept?
    bitRate := d.bitRate.bind Double.kept? }

namespace Store

def empty : Store := ⟨[], [], [], [], [], [], [], [], false⟩

/-! ## Looking rows up -/

def hasUser (s : Store) (email : String) : Bool := s.users.any (·.email = email)

def hasCatalog (s : Store) (id : String) : Bool := s.catalogs.any (·.id = id)

def hasItem (s : Store) (id : String) : Bool := s.items.any (·.id = id)

def hasFile (s : Store) (id : String) : Bool := s.files.any (·.id = id)

def hasSearch (s : Store) (id : String) : Bool := s.searches.any (·.id = id)

/-- The album, tag or person with an id. -/
def entity? (s : Store) (r : Relation) (id : String) : Option Entity :=
  s.entities.find? fun e => e.relation = r && e.id = id

def hasEntity (s : Store) (r : Relation) (id : String) : Bool := (s.entity? r id).isSome

/-- The catalog of an album, a tag or a person. -/
def entityCatalog? (s : Store) (r : Relation) (id : String) : Option String :=
  (s.entity? r id).map (·.catalog)

end Store

end MediaCatalog
