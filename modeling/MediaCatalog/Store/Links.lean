import MediaCatalog.Store.Transaction
import MediaCatalog.Sql.Relations
/-!
# Links between media items and what they relate to

There is at most one link between a media item and a thing of a kind.
-/

namespace MediaCatalog

/-- A rectangle within a media item, as fractions of its width and height. -/
structure Location where
  left : Double
  right : Double
  top : Double
  bottom : Double
deriving DecidableEq

namespace Location

def keys : List String := ["left", "right", "top", "bottom"]

def set? (l : Location) (key : String) (v : Json) : Option Location :=
  (Metadata.double? v).bind fun x =>
    match key with
    | "left" => some { l with left := x }
    | "right" => some { l with right := x }
    | "top" => some { l with top := x }
    | "bottom" => some { l with bottom := x }
    | _ => none

/-- Locations in documents: every key has to be there. -/
def shape : Json.RecordShape Location :=
  let zero := Double.number (.zero false)
  ⟨keys, keys, ⟨zero, zero, zero, zero⟩, set?⟩

def toJson (l : Location) : Json :=
  .object ((keys.zip [l.left, l.right, l.top, l.bottom]).map fun (k, x) => (k, .ofDouble x))

end Location

namespace Store

/-- The link between a media item and a thing of a kind. -/
def link? (s : Store) (r : Relation) (media entity : String) : Option Link :=
  s.links.find? fun l => l.relation = r && l.media = media && l.entity = entity

/-- Links a media item to a thing unless it is linked already. Both have to exist. -/
def addLink (s : Store) (r : Relation) (catalog media entity : String) : Except StoreError Store :=
  if (s.link? r media entity).isSome then .ok s
  else if s.hasItem media && s.hasEntity r entity then
    .ok { s with links := s.links ++ [⟨r, catalog, media, entity, none⟩] }
  else .error .missingReference

/-- Adds links one by one; those before the first that fails stay. -/
def addLinks (s : Store) (r : Relation) (catalog : String) :
    List (String × String) → Except StoreError Unit × Store
  | [] => (.ok (), s)
  | (media, entity) :: rest =>
    match s.addLink r catalog media entity with
    | .ok s' => addLinks s' r catalog rest
    | .error e => (.error e, s)

/-- Every media item with every thing, item by item. -/
def pairs (media entities : List String) : List (String × String) :=
  media.flatMap fun m => entities.map fun e => (m, e)

/-- Links every media item to every thing. -/
def addRelations (s : Store) (r : Relation) (catalog : String) (media entities : List String) :
    Except StoreError Unit × Store :=
  s.addLinks r catalog (pairs media entities)

/-- Removes the links of every media item to every thing. -/
def removeRelations (s : Store) (r : Relation) (media entities : List String) : Store :=
  { s with links := s.links.filter fun l =>
    !(l.relation = r && media.contains l.media && entities.contains l.entity) }

/-- Removes all links of a kind of a media item. -/
def clearRelations (s : Store) (r : Relation) (media : String) : Store :=
  { s with links := s.links.filter fun l => !(l.relation = r && l.media = media) }

/-- Replaces the links of a kind of a media item. -/
def setRelations (s : Store) (r : Relation) (catalog media : String) (entities : List String) :
    Except StoreError Unit × Store :=
  atomically .nestedTransaction
    (fun s => (s.clearRelations r media).addRelations r catalog [media] entities) s

/-- Records where a person appears in a media item; tells whether there is a link to record it in. -/
def setPersonLocation (s : Store) (media person : String) (location : Option Location) :
    Bool × Store :=
  ((s.link? .person media person).isSome,
    { s with links := s.links.map fun l =>
      if l.relation = .person && l.media = media && l.entity = person then
        { l with location := location.map fun x => .document x.toJson.compact }
      else l })

/-- The ids of the things of a kind that a media item is linked to, in ascending order. -/
def relatedIds (s : Store) (r : Relation) (media : String) : List String :=
  ((s.links.filter fun l => l.relation = r && l.media = media).map (·.entity)).mergeSort

end Store

end MediaCatalog
