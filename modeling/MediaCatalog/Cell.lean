import MediaCatalog.Binary64.Column
/-!
# Cells

A cell is what a column of a row holds or a statement binds: nothing, a number or a text.
-/

namespace MediaCatalog

inductive Cell where
  | null
  | integer (n : Int)
  | real (x : Binary64)
  | text (s : String)
deriving DecidableEq

namespace Cell

def ofText? (s : Option String) : Cell := (s.map text).getD null

def ofInteger? (n : Option Int) : Cell := (n.map integer).getD null

def ofReal? (x : Option Binary64) : Cell := (x.map real).getD null

def isNull (c : Cell) : Bool := c = null

/-! ## Order -/

/-- Compares two cells that are there: numbers by value and before any text, texts by code points. -/
def order? : Cell → Cell → Option Ordering
  | null, _ | _, null => none
  | integer m, integer n => some (compare m n)
  | integer m, real y => some (y.compareInt m).swap
  | real x, integer n => some (x.compareInt n)
  | real x, real y => some (x.compare y)
  | text s, text t => some (compare s t)
  | text _, _ => some .gt
  | _, text _ => some .lt

/-- The same value, or both missing. -/
def same (a b : Cell) : Bool :=
  match order? a b with
  | some o => o = .eq
  | none => a.isNull && b.isNull

/-! ## Text -/

/-- The text of a cell. -/
def text? : Cell → Option String
  | null => none
  | integer n => some (toString n)
  | real x => some x.columnText
  | text s => some s

/-- A text up to its first NUL. -/
def untilNul (s : String) : List Char := s.toList.takeWhile (· ≠ '\x00')

/-- A number becomes its text beside a column of text. -/
def besideText (c : Cell) : Cell := ofText? c.text?

/-- The cell of a number. One that is too large for a double is infinite. -/
def ofNumeral (n : Numeral) : Cell :=
  if n.isWhole then integer n.toInt else real (n.toBinary64?.getD (.infinity n.negative))

/-- A text that is a number becomes that number beside a column of numbers. -/
def besideNumber : Cell → Cell
  | text s => ((Numeral.ofText? s.toList).map ofNumeral).getD (text s)
  | c => c

end Cell

end MediaCatalog
