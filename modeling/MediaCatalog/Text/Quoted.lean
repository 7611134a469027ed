import MediaCatalog.Unicode.Names
/-!
# Quoted text

A text between quotes in a message, in which whatever would not show is written as its code point.
-/

namespace MediaCatalog.Text

/-- The characters that show by themselves: those with a graphic category that do not extend the
character before them, and the blank. -/
def shownCharacters : Unicode.RangeSet :=
  (Unicode.graphicOrSeparator.diff
    ((Unicode.inCategories ["zl", "zp", "zs"]).union Unicode.graphemeExtend)).union (.single 0x20)

/-- The code point of a character, in hexadecimal digits between braces. -/
def codePoint (c : Char) : List Char :=
  ['\\', 'u', '\x7b'] ++ Nat.toDigits 16 c.toNat ++ ['\x7d']

/-- A character of a quoted text. -/
def quotedChar (c : Char) : List Char :=
  match c with
  | '\x00' => ['\\', '0']
  | '\t' => ['\\', 't']
  | '\r' => ['\\', 'r']
  | '\n' => ['\\', 'n']
  | '\\' => ['\\', '\\']
  | '"' => ['\\', '"']
  | c => if shownCharacters.contains c.toNat then [c] else codePoint c

/-- A text between quotes. -/
def quoted (s : String) : String := String.ofList ('"' :: s.toList.flatMap quotedChar ++ ['"'])

end MediaCatalog.Text
