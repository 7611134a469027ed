import MediaCatalog.Store.Media
/-!
# The media view

A row of the view is a media item that is not deleted, merged with its current file. What its user
says of the item stands before what its file says.
-/

namespace MediaCatalog

structure ViewRow where
  id : String
  catalog : String
  created : String
  /-- When the item or its current file was last touched. -/
  updated : String
  file : Option MediaFile
  values : StoredMetadata

namespace MediaFile

/-- Another file is the later upload, or the same upload's higher version. -/
def isBefore (f g : MediaFile) : Bool :=
  f.uploaded < g.uploaded || (f.uploaded = g.uploaded && f.version < g.version)

/-- The later of two files. -/
def later (f g : MediaFile) : MediaFile := if f.isBefore g then g else f

end MediaFile

namespace ViewRow

/-- The text that rows are ordered by: when it was taken, or else created. -/
def key (row : ViewRow) : String := row.values.taken.getD row.created

/-- The order in which rows are shown: the latest first, those of one time by id. -/
def isShownBefore (a b : ViewRow) : Bool :=
  b.key < a.key || (a.key = b.key && a.id ≤ b.id)

end ViewRow

namespace Store

/-- The current file of an item. -/
def currentFile? (s : Store) (media : String) : Option MediaFile :=
  (s.filesOf media).foldl (fun best f => some ((best.map (·.later f)).getD f)) none

/-- An item merged with its current file. -/
def viewRow (s : Store) (item : MediaItem) : ViewRow :=
  let file := s.currentFile? item.id
  let uploaded := (file.map (·.uploaded)).getD item.updated
  { id := item.id
    catalog := item.catalog
    created := item.created
    updated := if item.updated < uploaded then uploaded else item.updated
    file := file
    values := item.values.overriding ((file.map (·.values)).getD .empty) }

/-- The rows of the view of a catalog. -/
def view (s : Store) (catalog : String) : List ViewRow :=
  (s.items.filter fun i => !i.deleted && i.catalog = catalog).map s.viewRow

end Store

end MediaCatalog
