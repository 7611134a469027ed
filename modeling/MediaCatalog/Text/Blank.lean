/-!
# White space

The characters with the White_Space property of Unicode, and those of ASCII among them.
-/

namespace MediaCatalog.Text

/-- A character with the White_Space property. -/
def isBlank (c : Char) : Bool :=
  let n := c.toNat
  (9 ≤ n && n ≤ 13) || n == 32 || n == 0x85 || n == 0xA0 || n == 0x1680
    || (0x2000 ≤ n && n ≤ 0x200A) || n == 0x2028 || n == 0x2029 || n == 0x202F || n == 0x205F
    || n == 0x3000

/-- White space of ASCII. -/
def isAsciiBlank (c : Char) : Bool :=
  isBlank c && c.toNat < 128

def trimStart (cs : List Char) : List Char :=
  cs.dropWhile isBlank

/-- Drops white space at both ends. -/
def trim (cs : List Char) : List Char :=
  (trimStart (trimStart cs).reverse).reverse

end MediaCatalog.Text
