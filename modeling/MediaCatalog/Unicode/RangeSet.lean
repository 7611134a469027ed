/-!
# Sets of code points

A set is a list of ranges. Surrogates are no characters, so the character after `U+D7FF` is
`U+E000`.
-/

namespace MediaCatalog.Unicode

/-- A range of code points, both ends included. -/
abbrev Range := Nat × Nat

def maxCodePoint : Nat := 0x10FFFF

/-- The next character. -/
def after (c : Nat) : Nat := if c = 0xD7FF then 0xE000 else c + 1

/-- The character before. -/
def before (c : Nat) : Nat := if c = 0xE000 then 0xD7FF else c - 1

/-- The range between two code points, whichever comes first. -/
def rangeBetween (a b : Nat) : Range := (min a b, max a b)

/-- Ranges in ascending order, none of which touches the next. -/
structure RangeSet where
  ranges : List Range
deriving DecidableEq

namespace RangeSet

def empty : RangeSet := ⟨[]⟩

def single (c : Nat) : RangeSet := ⟨[(c, c)]⟩

def range (lo hi : Nat) : RangeSet := ⟨[(lo, hi)]⟩

/-- All characters. -/
def all : RangeSet := range 0 maxCodePoint

def ascii : RangeSet := range 0 127

def contains (s : RangeSet) (c : Nat) : Bool := s.ranges.any fun r => r.1 ≤ c && c ≤ r.2

def isEmpty (s : RangeSet) : Bool := s.ranges.isEmpty

/-- No member is outside of ASCII. -/
def isAscii (s : RangeSet) : Bool := s.ranges.all (·.2 < 128)

/-- The only member of a set that has one. -/
def only? (s : RangeSet) : Option Nat :=
  match s.ranges with
  | [(lo, hi)] => if lo = hi then some lo else none
  | _ => none

/-- Joins ranges in ascending order that overlap or touch, given the range that is being built. -/
def join (lo hi : Nat) : List Range → List Range
  | [] => [(lo, hi)]
  | (a, b) :: rest =>
    if a ≤ hi + 1 then join lo (max hi b) rest else (lo, hi) :: join a b rest

/-- The set of the members of some ranges, in any order. -/
def ofRanges (rs : List Range) : RangeSet :=
  match rs.mergeSort fun a b => a.1 ≤ b.1 with
  | [] => empty
  | (lo, hi) :: rest => ⟨join lo hi rest⟩

def union (a b : RangeSet) : RangeSet :=
  if b.isEmpty then a else if a.isEmpty then b else ofRanges (a.ranges ++ b.ranges)

def unions (ss : List RangeSet) : RangeSet := ofRanges (ss.flatMap ranges)

/-- The common parts of two ascending lists; each step drops a range, so the sum of the lengths is
enough fuel. -/
def common : Nat → List Range → List Range → List Range
  | 0, _, _ => []
  | fuel + 1, (a, b) :: xs, (c, d) :: ys =>
    let here := if max a c ≤ min b d then [(max a c, min b d)] else []
    here ++ if b < d then common fuel xs ((c, d) :: ys) else common fuel ((a, b) :: xs) ys
  | _, _, _ => []

def inter (a b : RangeSet) : RangeSet :=
  ⟨common (a.ranges.length + b.ranges.length) a.ranges b.ranges⟩

/-- What lies before, between and after ranges, given the first character not dealt with yet. A gap
of surrogates alone comes out as the characters on both sides of it. -/
def gaps (start : Nat) : List Range → List Range
  | [] => if start ≤ maxCodePoint then [(start, maxCodePoint)] else []
  | (lo, hi) :: rest => rangeBetween start (before lo) :: gaps (after hi) rest

/-- All other characters. -/
def compl (s : RangeSet) : RangeSet :=
  match s.ranges with
  | (0, hi) :: rest => ⟨gaps (after hi) rest⟩
  | rs => ⟨gaps 0 rs⟩

/-- Removes ranges from a list, both ascending; each step drops a range or cuts one, so twice the
sum of the lengths is enough fuel. -/
def remove : Nat → List Range → List Range → List Range
  | 0, _, _ => []
  | _, [], _ => []
  | _, xs, [] => xs
  | fuel + 1, (a, b) :: xs, (c, d) :: ys =>
    if d < a then remove fuel ((a, b) :: xs) ys
    else if b < c then (a, b) :: remove fuel xs ((c, d) :: ys)
    else
      let left := if a < c then [(a, before c)] else []
      left ++ if d < b then remove fuel ((after d, b) :: xs) ys else remove fuel xs ((c, d) :: ys)

def diff (a b : RangeSet) : RangeSet :=
  ⟨remove (2 * (a.ranges.length + b.ranges.length) + 1) a.ranges b.ranges⟩

/-- What is in one of the two, but not in both. -/
def symmDiff (a b : RangeSet) : RangeSet := (a.union b).diff (a.inter b)

end RangeSet

end MediaCatalog.Unicode
