import MediaCatalog.Unicode.RangeSet
/-!
# Tables of code points

A set of code points is written as hexadecimal numbers and ranges with blanks between them,
which may be line ends.
-/

namespace MediaCatalog.Unicode

/-- A set of code points and the names it goes by, in lower case without separators. -/
structure Table where
  names : List String
  text : String

def hexDigitValue (c : Char) : Nat :=
  if c.isDigit then c.toNat - '0'.toNat else c.toNat - 'A'.toNat + 10

/-- The range that ends with a number, if one has been read. -/
def rangeTo (first last : Option Nat) : List Range :=
  (last.map fun n => (first.getD n, n)).toList

/-- Reads ranges, given the start of the range whose end is being read and the number so far. -/
def readRanges (first n : Option Nat) : List Char → List Range
  | [] => rangeTo first n
  | c :: cs =>
    if c = ' ' || c = '\n' then rangeTo first n ++ readRanges none none cs
    else if c = '-' then readRanges n none cs
    else readRanges first (some (n.getD 0 * 16 + hexDigitValue c)) cs

/-- The set that a text writes. -/
def setOf (s : String) : RangeSet := .ofRanges (readRanges none none s.toList)

def Table.toSet (t : Table) : RangeSet := setOf t.text

/-- The set that goes by a name. -/
def find? (tables : List Table) (name : String) : Option RangeSet :=
  (tables.find? (·.names.contains name)).map Table.toSet

end MediaCatalog.Unicode
