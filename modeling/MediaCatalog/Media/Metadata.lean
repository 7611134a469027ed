import MediaCatalog.Query.Field
import MediaCatalog.Cell
import MediaCatalog.Json.Record
import MediaCatalog.Json.Writer
import MediaCatalog.Time.Zone
/-!
# Metadata

What is said of a media item: by its user, or by one of its files. Any part of it may be missing.
-/

namespace MediaCatalog

structure Metadata where
  text : TextField → Option String
  real : RealField → Option Double
  integer : IntegerField → Option Int
  taken : Option Time.ZonedInstant
  /-- The zone it was taken in, by default the offset of `taken`. -/
  zone : Option String

namespace Metadata

def empty : Metadata := ⟨fun _ => none, fun _ => none, fun _ => none, none, none⟩

/-- The key of the zone in documents. -/
def zoneKey : String := "takenZone"

/-- The keys of metadata in documents. -/
def keys : List String := MetadataField.all.map (·.name) ++ [zoneKey]

/-- The number in a field. A double that is no number counts as missing. -/
def number? (m : Metadata) (f : RealField) : Option Binary64 := (m.real f).bind Double.number?

/-- The bound value of a field. A timestamp is bound in UTC. -/
def cell (m : Metadata) : MetadataField → Cell
  | .text f => .ofText? (m.text f)
  | .real f => .ofReal? (m.number? f)
  | .integer f => .ofInteger? (m.integer f)
  | .taken => .ofText? (m.taken.map (·.instant.stored))

/-- The zone that is stored: the one given, or else the offset of the timestamp. -/
def storedZone (m : Metadata) : Option String :=
  m.zone.or (m.taken.map fun z => String.ofList (Time.offsetText z.offset))

/-! ## Documents -/

/-- A value that may be null. -/
def orNull? {α : Type} (read : Json → Option α) : Json → Option (Option α)
  | .null => some none
  | j => (read j).map some

def double? : Json → Option Double
  | .number n => n.double?.map .number
  | _ => none

def integer? : Json → Option Int
  | .number n => n.integer?
  | _ => none

def timestamp? : Json → Option Time.ZonedInstant
  | .string s => Time.parseRelaxed? s
  | _ => none

/-- Sets a field to the value of a document. -/
def setField? (m : Metadata) (v : Json) : MetadataField → Option Metadata
  | .text f => (orNull? Json.text? v).map fun x =>
    { m with text := fun g => if g = f then x else m.text g }
  | .real f => (orNull? double? v).map fun x =>
    { m with real := fun g => if g = f then x else m.real g }
  | .integer f => (orNull? integer? v).map fun x =>
    { m with integer := fun g => if g = f then x else m.integer g }
  | .taken => (orNull? timestamp? v).map fun x => { m with taken := x }

/-- Sets what a key names. -/
def set? (m : Metadata) (key : String) (v : Json) : Option Metadata :=
  if key = zoneKey then (orNull? Json.text? v).map fun x => { m with zone := x }
  else (MetadataField.ofName? key).bind (m.setField? v)

/-- Metadata in documents: no key has to be there. -/
def shape : Json.RecordShape Metadata := ⟨keys, [], empty, set?⟩

def ofText (s : Option String) : Json := (s.map Json.string).getD .null

/-- The value of a field in documents. -/
def fieldJson (m : Metadata) : MetadataField → Json
  | .text f => ofText (m.text f)
  | .real f => ((m.real f).map Json.ofDouble).getD .null
  | .integer f => ((m.integer f).map fun n => Json.number (.int n)).getD .null
  | .taken => ofText (m.taken.map (·.documentText))

/-- The members of metadata in documents, every key with a value or null. -/
def members (m : Metadata) : List (String × Json) :=
  MetadataField.all.map (fun f => (f.name, m.fieldJson f)) ++ [(zoneKey, ofText m.zone)]

end Metadata

end MediaCatalog
