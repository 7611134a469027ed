import MediaCatalog.Binary64.Decimal
/-!
# JSON documents

An object keeps its members in the order they were read, repeated keys included: which of them
counts is for the reader of the shape to say.
-/

namespace MediaCatalog

/-- A number of a document: whole within 64 bits, or a double. -/
inductive Json.Number where
  | int (n : Int)
  | double (x : Binary64)
deriving DecidableEq

inductive Json where
  | null
  | bool (b : Bool)
  | number (n : Json.Number)
  | string (s : String)
  | array (items : List Json)
  | object (members : List (String × Json))
deriving Inhabited

namespace Json

/-- The largest whole number that is not read as a double. -/
def maxWhole : Nat := 18446744073709551615

/-- The bounds of a stored integer. -/
def minInteger : Int := -9223372036854775808

/-- The largest stored integer. -/
def maxInteger : Int := 9223372036854775807

namespace Number

/-- The number as a stored integer, if it is one. -/
def integer? : Number → Option Int
  | .int n => if minInteger ≤ n ∧ n ≤ maxInteger then some n else none
  | .double _ => none

/-- The double nearest to the number. A whole number past all doubles has the largest one. -/
def nearest : Number → Binary64
  | .int n => (Binary64.ofInt? n).getD (.largest (n < 0))
  | .double x => x

/-- The number as a double, which every number has. -/
def double? (n : Number) : Option Binary64 := some n.nearest

end Number

/-- A double in a document, which has only numbers that are finite. -/
def ofDouble : Double → Json
  | .number x => if x.isFinite then number (.double x) else null
  | .notANumber => null

/-- How many arrays and objects may be open at once. -/
def maxNesting : Nat := 127

/-! ## Members -/

/-- What a key names among the members: nothing, one value, or several. -/
inductive Named where
  | absent
  | once (value : Json)
  | repeated

/-- Looks a key up among members that may repeat it. -/
def named (key : String) : List (String × Json) → Named
  | [] => .absent
  | (k, v) :: ms =>
    if k = key then
      match named key ms with
      | .absent => .once v
      | _ => .repeated
    else named key ms

theorem named_cons (key k : String) (v : Json) (ms : List (String × Json)) :
    named key ((k, v) :: ms) =
      if k = key then
        match named key ms with
        | .absent => .once v
        | _ => .repeated
      else named key ms := rfl

/-- The value of the last member with a key. -/
def last? (key : String) (members : List (String × Json)) : Option Json :=
  (members.filter (·.1 == key)).getLast?.map (·.2)

/-- Puts a member among members in the order of their keys, the new one in place of an old one
of its key. -/
def insertMember (key : String) (value : Json) : List (String × Json) → List (String × Json)
  | [] => [(key, value)]
  | (k, v) :: ms =>
    if key < k then (key, value) :: (k, v) :: ms
    else if key = k then (key, value) :: ms
    else (k, v) :: insertMember key value ms

mutual

/-- The document with the members of every object in the order of their keys, the last of
repeated keys kept. -/
def sorted : Json → Json
  | .array items => .array (sortedItems items)
  | .object members => .object (sortedMembers members [])
  | j => j

def sortedItems : List Json → List Json
  | [] => []
  | j :: js => j.sorted :: sortedItems js

/-- Puts the members one by one, first to last, into those put before. -/
def sortedMembers : List (String × Json) → List (String × Json) → List (String × Json)
  | [], done => done
  | (k, v) :: ms, done => sortedMembers ms (insertMember k v.sorted done)

end

end Json

end MediaCatalog
