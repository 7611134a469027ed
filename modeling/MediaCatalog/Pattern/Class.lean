import MediaCatalog.Unicode.CaseFold
import MediaCatalog.Unicode.Names
/-!
# Classes of characters

The sets that an escape or a name between colons stands for.
-/

namespace MediaCatalog.Pattern

open Unicode (RangeSet)

/-- Digits, blanks and the characters of words, in all of Unicode. -/
def digit : RangeSet := Unicode.inCategories ["nd"]

def space : RangeSet := Unicode.whiteSpace

def word : RangeSet := Unicode.word

/-- The same within ASCII. -/
def asciiDigit : RangeSet := .range 48 57

def asciiSpace : RangeSet := ⟨[(9, 13), (32, 32)]⟩

def asciiWord : RangeSet := ⟨[(48, 57), (65, 90), (95, 95), (97, 122)]⟩

/-- The classes of ASCII that may stand between colons in brackets. -/
def asciiClass? : String → Option RangeSet
  | "alnum" => some ⟨[(48, 57), (65, 90), (97, 122)]⟩
  | "alpha" => some ⟨[(65, 90), (97, 122)]⟩
  | "ascii" => some .ascii
  | "blank" => some ⟨[(9, 9), (32, 32)]⟩
  | "cntrl" => some ⟨[(0, 31), (127, 127)]⟩
  | "digit" => some asciiDigit
  | "graph" => some (.range 33 126)
  | "lower" => some (.range 97 122)
  | "print" => some (.range 32 126)
  | "punct" => some ⟨[(33, 47), (58, 64), (91, 96), (123, 126)]⟩
  | "space" => some asciiSpace
  | "upper" => some (.range 65 90)
  | "word" => some asciiWord
  | "xdigit" => some ⟨[(48, 57), (65, 70), (97, 102)]⟩
  | _ => none

end MediaCatalog.Pattern
