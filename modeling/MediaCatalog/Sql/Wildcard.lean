import MediaCatalog.Cell
/-!
# Wildcard patterns

In a wildcard pattern `%` stands for any text, `_` for any character, and a backslash makes the
character after it stand for itself. Case counts. Patterns and texts are read up to their first NUL,
and their characters `U+FFFE` and `U+FFFF` as `U+FFFD`.
-/

namespace MediaCatalog

inductive Wildcard where
  | anything
  | anyone
  | literal (c : Char)
  /-- Stands for no text. -/
  | nothing
deriving DecidableEq

namespace Wildcard

/-- Reads a pattern. A backslash at its end finds nothing. -/
def ofPattern : List Char → List Wildcard
  | [] => []
  | ['\\'] => [nothing]
  | '\\' :: c :: rest => literal c :: ofPattern rest
  | c :: rest => (if c = '%' then anything else if c = '_' then anyone else literal c) :: ofPattern rest

/-- All ends of a text, from the whole to nothing. -/
def suffixes : List Char → List (List Char)
  | [] => [[]]
  | c :: cs => (c :: cs) :: suffixes cs

/-- The whole text fits the pattern. -/
def fits : List Wildcard → List Char → Bool
  | [], cs => cs.isEmpty
  | anything :: ws, cs => (suffixes cs).any fun rest => fits ws rest
  | anyone :: ws, _ :: cs => fits ws cs
  | literal c :: ws, d :: cs => c = d && fits ws cs
  | _ :: _, _ => false

/-- What a character is read as. -/
def seen (c : Char) : Char :=
  if c = '\uFFFE' ∨ c = '\uFFFF' then '\uFFFD' else c

/-- The characters that are read of a text. -/
def seenText (s : String) : List Char := (Cell.untilNul s).map seen

end Wildcard

end MediaCatalog
