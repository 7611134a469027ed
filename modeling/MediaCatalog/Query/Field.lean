import MediaCatalog.Query.Basic
/-!
# Fields

The fields of media items by the type of their values, the fields of albums, tags and people, and
which modifiers and operators each type takes.
-/

namespace MediaCatalog

/-- The type of a field's values. -/
inductive FieldType where
  | text
  | integer
  | real
  | date
deriving DecidableEq

def FieldType.name : FieldType → String
  | .text => "string"
  | .integer => "integer"
  | .real => "float"
  | .date => "date"

/-- The type of the value that an operator compares with. -/
inductive ValueType where
  | text
  | number
  | date
deriving DecidableEq

def ValueType.name : ValueType → String
  | .text => "string"
  | .number => "number"
  | .date => "date"

/-- The modifiers that apply to a type. -/
def FieldType.modifiers : FieldType → List Modifier
  | .text => [.length]
  | .date => [.year, .month]
  | .integer | .real => []

/-- The type of what a modifier computes. -/
def Modifier.resultType : Modifier → FieldType
  | .length | .year | .month => .integer

/-- What an operator takes beside a field: it may be refused, take nothing, or take a value. -/
inductive Operator.Demand where
  | refused
  | nothing
  | value (type : ValueType)
deriving DecidableEq

/-- What an operator on a type takes. -/
def FieldType.demand (t : FieldType) (op : Operator) : Operator.Demand :=
  match t, op with
  | _, .empty => .nothing
  | .text, _ => .value .text
  | .integer, .equal | .integer, .less | .integer, .lessOrEqual => .value .number
  | .real, .equal | .real, .less | .real, .lessOrEqual => .value .number
  | .date, .equal | .date, .less | .date, .lessOrEqual => .value .date
  | _, _ => .refused

/-! ## Fields of media items -/

inductive TextField where
  | filename | title | description | category | label | location | city | state | country
  | make | model | lens | photographer | shutterSpeed
deriving DecidableEq

inductive RealField where
  | latitude | longitude | altitude | aperture | focalLength
deriving DecidableEq

inductive IntegerField where
  | orientation | iso | rating
deriving DecidableEq

/-- A field of the metadata of a media item. -/
inductive MetadataField where
  | text (f : TextField)
  | real (f : RealField)
  | integer (f : IntegerField)
  | taken
deriving DecidableEq

namespace TextField

def all : List TextField :=
  [.filename, .title, .description, .category, .label, .location, .city, .state, .country,
    .make, .model, .lens, .photographer, .shutterSpeed]

def name : TextField → String
  | .filename => "filename"
  | .title => "title"
  | .description => "description"
  | .category => "category"
  | .label => "label"
  | .location => "location"
  | .city => "city"
  | .state => "state"
  | .country => "country"
  | .make => "make"
  | .model => "model"
  | .lens => "lens"
  | .photographer => "photographer"
  | .shutterSpeed => "shutterSpeed"

end TextField

namespace RealField

def all : List RealField := [.latitude, .longitude, .altitude, .aperture, .focalLength]

def name : RealField → String
  | .latitude => "latitude"
  | .longitude => "longitude"
  | .altitude => "altitude"
  | .aperture => "aperture"
  | .focalLength => "focalLength"

end RealField

namespace IntegerField

def all : List IntegerField := [.orientation, .iso, .rating]

def name : IntegerField → String
  | .orientation => "orientation"
  | .iso => "iso"
  | .rating => "rating"

end IntegerField

namespace MetadataField

/-- All fields, in the order in which they are stored and shown. -/
def all : List MetadataField :=
  TextField.all.map .text ++ RealField.all.map .real ++ IntegerField.all.map .integer ++ [.taken]

/-- The name of a field in queries and documents. -/
def name : MetadataField → String
  | .text f => f.name
  | .real f => f.name
  | .integer f => f.name
  | .taken => "taken"

/-- The name of a field's column. -/
def column : MetadataField → String
  | .text .shutterSpeed => "shutter_speed"
  | .real .focalLength => "focal_length"
  | f => f.name

def type : MetadataField → FieldType
  | .text _ => .text
  | .real _ => .real
  | .integer _ => .integer
  | .taken => .date

def ofName? (s : String) : Option MetadataField := all.find? (·.name = s)

end MetadataField

/-! ## Fields of related things -/

/-- A field of an album, a tag or a person. -/
inductive EntityField where
  | id
  | name
deriving DecidableEq

namespace EntityField

def column : EntityField → String
  | .id => "id"
  | .name => "name"

def type (_ : EntityField) : FieldType := .text

def ofName? (s : String) : Option EntityField := [id, name].find? (·.column = s)

end EntityField

/-- A field that a condition names, on a media item or on something related to it. -/
inductive Field where
  | metadata (f : MetadataField)
  | entity (f : EntityField)
deriving DecidableEq

namespace Field

def type : Field → FieldType
  | .metadata f => f.type
  | .entity f => f.type

/-- The field of a name, where related things are spoken of or where they are not. -/
def ofName? (related : Bool) (s : String) : Option Field :=
  if related then (EntityField.ofName? s).map .entity else (MetadataField.ofName? s).map .metadata

end Field

end MediaCatalog
