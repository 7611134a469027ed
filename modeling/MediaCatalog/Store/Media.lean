import MediaCatalog.Store.Basic
/-!
# Media items and their files
-/

namespace MediaCatalog.Store

/-- Creates a media item in a catalog that exists. -/
def createMedia (s : Store) (id catalog now : String) (m : Metadata) : Except StoreError Store :=
  if s.hasItem id then .error (.notUnique "media_item.id")
  else if s.hasCatalog catalog then
    .ok { s with items := s.items ++ [⟨id, catalog, now, now, false, m.stored⟩] }
  else .error .missingReference

/-- There is an item with the id, and it is not deleted. -/
def isLive (s : Store) (id : String) : Bool := s.items.any fun i => i.id = id && !i.deleted

/-- Changes the item with an id unless it is deleted; tells whether there is one. -/
def changeLive (s : Store) (id : String) (change : MediaItem → MediaItem) : Bool × Store :=
  (s.isLive id,
    { s with items := s.items.map fun i => if i.id = id && !i.deleted then change i else i })

/-- Replaces what the user says of an item. -/
def updateMedia (s : Store) (id now : String) (m : Metadata) : Bool × Store :=
  s.changeLive id fun i => { i with updated := now, values := m.stored }

/-- Hides an item, whose rows stay. -/
def deleteMedia (s : Store) (id now : String) : Bool × Store :=
  s.changeLive id fun i => { i with updated := now, deleted := true }

/-- The files of an item. -/
def filesOf (s : Store) (media : String) : List MediaFile := s.files.filter (·.media = media)

/-- One more than the highest version of the files of an item. -/
def nextVersion (s : Store) (media : String) : Nat :=
  ((s.filesOf media).map (·.version)).foldl max 0 + 1

/-- Records a processed file of an item that exists, deleted or not. -/
def addFile (s : Store) (id media : String) (uploaded : Time.Instant) (details : FileDetails)
    (m : Metadata) : Except StoreError Store :=
  if s.hasFile id then .error (.notUnique "media_file.id")
  else if s.hasItem media then
    .ok { s with files := s.files
      ++ [⟨id, media, uploaded.stored, s.nextVersion media, details.stored, m.stored⟩] }
  else .error .missingReference

end MediaCatalog.Store
