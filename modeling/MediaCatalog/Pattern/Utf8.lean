import MediaCatalog.Unicode.RangeSet
/-!
# Ranges of code points as bytes

A range of code points falls into parts in each of which every byte ranges freely, so that a part is
a sequence of ranges of bytes.
-/

namespace MediaCatalog.Pattern

/-- The bytes of a code point. -/
def utf8 (c : Nat) : List Nat :=
  if c < 0x80 then [c]
  else if c < 0x800 then [0xC0 + c / 64, 0x80 + c % 64]
  else if c < 0x10000 then [0xE0 + c / 4096, 0x80 + c / 64 % 64, 0x80 + c % 64]
  else [0xF0 + c / 262144, 0x80 + c / 4096 % 64, 0x80 + c / 64 % 64, 0x80 + c % 64]

/-- The blocks of code points that share all bytes but the last one, two or three. -/
def blocks : List Nat := [64, 4096, 262144]

/-- Where a range has to be cut: the first code point of the upper part. It must not cross the
surrogates nor change its number of bytes, and where it crosses blocks it must fill them. -/
def cut? (lo hi : Nat) : Option Nat :=
  let steps := [0x80, 0x800, 0x10000].find? fun b => lo < b && b ≤ hi
  steps.or <| if hi < 0x80 then none else
    blocks.findSome? fun n =>
      if lo / n = hi / n then none
      else if lo % n ≠ 0 then some ((lo / n + 1) * n)
      else if hi % n ≠ n - 1 then some (hi / n * n)
      else none

/-- The parts of a range in ascending order. A range is cut at most a dozen times in a row. -/
def byteRangesWithin : Nat → Nat → Nat → List (List Unicode.Range)
  | 0, _, _ => []
  | fuel + 1, lo, hi =>
    if hi < lo then []
    else if lo < 0xE000 && 0xD7FF < hi then
      byteRangesWithin fuel lo 0xD7FF ++ byteRangesWithin fuel 0xE000 hi
    else
      match cut? lo hi with
      | some c => byteRangesWithin fuel lo (c - 1) ++ byteRangesWithin fuel c hi
      | none => [(utf8 lo).zip (utf8 hi)]

def byteRanges (r : Unicode.Range) : List (List Unicode.Range) := byteRangesWithin 24 r.1 r.2

end MediaCatalog.Pattern
