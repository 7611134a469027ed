import MediaCatalog.Toml.Number
/-!
# Strings in TOML

A string is basic, with escapes, or literal, without any; and of one line, or of several between
three quotes.
-/

namespace MediaCatalog.Toml

/-- Reads a value from the front of a text, or fails. -/
abbrev Scanner (α : Type) := List Char → Option (α × List Char)

def isSpace (c : Char) : Bool := c = ' ' || c = '\t'

/-- A character that may stand in a line: no control character but the tab. -/
def isText (c : Char) : Bool := c = '\t' || (' ' ≤ c && c ≠ '\x7f')

/-- Steps over the end of a line. -/
def newline? : List Char → Option (List Char)
  | '\n' :: rest => some rest
  | '\r' :: '\n' :: rest => some rest
  | _ => none

/-- Drops spaces. -/
def skipSpace (cs : List Char) : List Char := cs.dropWhile isSpace

/-! ## Escapes -/

/-- The character of a code of some hexadecimal digits. -/
def readCode (width : Nat) : Scanner Char := fun cs =>
  let ds := cs.take width
  let n := valueOf 16 ds
  if ds.length = width && ds.all isHexDigit && n.isValidChar then
    some (Char.ofNat n, cs.drop width)
  else none

/-- The character of an escape after its backslash. -/
def readEscape : Scanner Char
  | 'b' :: rest => some ('\x08', rest)
  | 't' :: rest => some ('\t', rest)
  | 'n' :: rest => some ('\n', rest)
  | 'f' :: rest => some ('\x0c', rest)
  | 'r' :: rest => some ('\r', rest)
  | '"' :: rest => some ('"', rest)
  | '\\' :: rest => some ('\\', rest)
  | 'u' :: rest => readCode 4 rest
  | 'U' :: rest => readCode 8 rest
  | _ => none

/-- Drops spaces and the ends of lines. -/
def skipBlankLines : List Char → List Char
  | '\r' :: '\n' :: rest => skipBlankLines rest
  | c :: rest => if isSpace c || c = '\n' then skipBlankLines rest else c :: rest
  | [] => []

/-- Steps over the rest of a line and all blank lines after it, from a backslash at its end. -/
def skipFold (cs : List Char) : Option (List Char) := (newline? (skipSpace cs)).map skipBlankLines

/-! ## Strings of one line -/

/-- Reads the rest of a basic string. The fuel is the length of the text. -/
def readBasic : Nat → Scanner (List Char)
  | 0, _ => none
  | fuel + 1, cs =>
    match cs with
    | '"' :: rest => some ([], rest)
    | '\\' :: rest => do
      let (c, rest) ← readEscape rest
      let (s, rest) ← readBasic fuel rest
      return (c :: s, rest)
    | c :: rest =>
      if isText c then (readBasic fuel rest).map fun (s, rest) => (c :: s, rest) else none
    | [] => none

/-- Reads the rest of a literal string. -/
def readLiteral : Scanner (List Char) := fun cs =>
  match cs.dropWhile (· ≠ '\'') with
  | _ :: rest =>
    let s := cs.takeWhile (· ≠ '\'')
    if s.all isText then some (s, rest) else none
  | [] => none

/-! ## Strings of several lines -/

/-- The quotes at the front of a text. Three of them close a string, and up to two before these
belong to it. -/
def closing? (quote : Char) : Scanner (List Char) := fun cs =>
  let n := (cs.takeWhile (· = quote)).length
  if n < 3 then none
  else
    let kept := min (n - 3) 2
    some (List.replicate kept quote, cs.drop (kept + 3))

/-- Reads the rest of a string of several lines, in which a backslash counts if it is basic. -/
def readLines (quote : Char) : Nat → Scanner (List Char)
  | 0, _ => none
  | fuel + 1, cs =>
    let next (c : Char) (rest : List Char) :=
      (readLines quote fuel rest).map fun (s, rest) => (c :: s, rest)
    match closing? quote cs, newline? cs, cs with
    | some found, _, _ => some found
    | none, some rest, _ => next '\n' rest
    | none, none, '\\' :: rest =>
      if quote = '"' then
        match skipFold rest, readEscape rest with
        | some rest, _ => readLines quote fuel rest
        | none, some (c, rest) => next c rest
        | none, none => none
      else next '\\' rest
    | none, none, c :: rest => if isText c then next c rest else none
    | none, none, [] => none

/-- Drops the end of a line right after the quotes that open a string. -/
def openLines (cs : List Char) : List Char := (newline? cs).getD cs

/-- Reads a string of any kind. -/
def readString : Scanner String := fun cs =>
  let found :=
    match cs with
    | '"' :: '"' :: '"' :: rest => readLines '"' cs.length (openLines rest)
    | '\'' :: '\'' :: '\'' :: rest => readLines '\'' cs.length (openLines rest)
    | '"' :: rest => readBasic cs.length rest
    | '\'' :: rest => readLiteral rest
    | _ => none
  found.map fun (s, rest) => (String.ofList s, rest)

/-- Reads a string of one line. -/
def readLineString : Scanner String := fun cs =>
  let found :=
    match cs with
    | '"' :: rest => readBasic cs.length rest
    | '\'' :: rest => readLiteral rest
    | _ => none
  found.map fun (s, rest) => (String.ofList s, rest)

/-! ## Writing -/

/-- The longest run of a character. -/
def longestRun (q : Char) : Nat → List Char → Nat
  | n, [] => n
  | n, c :: cs => if c = q then longestRun q (n + 1) cs else max n (longestRun q 0 cs)

/-- A character that needs an escape in any kind of string. -/
def isControl (c : Char) : Bool := c ≠ '\t' && c ≠ '\n' && !isText c

/-- The escape of a character in a basic string, if it needs one. -/
def escape? (c : Char) : Option (List Char) :=
  if c = '\x08' then some ['\\', 'b']
  else if c = '\t' then some ['\\', 't']
  else if c = '\x0c' then some ['\\', 'f']
  else if c = '\r' then some ['\\', 'r']
  else if c = '\\' then some ['\\', '\\']
  else if isControl c then
    let ds := (Nat.toDigits 16 c.toNat).map Char.toUpper
    some ('\\' :: 'u' :: (List.replicate (4 - ds.length) '0' ++ ds))
  else none

/-- The text of a basic string, in which up to `allowed` quotes may follow each other. -/
def escaped (allowed : Nat) (lines : Bool) : Nat → List Char → List Char
  | _, [] => []
  | run, c :: cs =>
    if c = '"' then
      if run < allowed then '"' :: escaped allowed lines (run + 1) cs
      else '\\' :: '"' :: escaped allowed lines 0 cs
    else if c = '\n' then
      (if lines then ['\n'] else ['\\', 'n']) ++ escaped allowed lines 0 cs
    else (escape? c).getD [c] ++ escaped allowed lines 0 cs

/-- The written form of a string: the first of these that needs no escapes: basic, literal, basic
in several lines, literal in several lines. With escapes it is basic. -/
def writeString (s : String) : String :=
  let cs := s.toList
  let lines := cs.contains '\n'
  let control := cs.any isControl
  let slash := cs.contains '\\'
  let doubles := longestRun '"' 0 cs
  let singles := longestRun '\'' 0 cs
  let firstLine := if lines then ['\n'] else []
  let threeBasic := "\"\"\"".toList ++ firstLine ++ escaped 2 true 0 cs ++ "\"\"\"".toList
  let basic := '"' :: escaped 0 false 0 cs ++ ['"']
  String.ofList <|
    if !control && !slash && doubles = 0 && !lines then basic
    else if !control && singles = 0 && !lines then '\'' :: cs ++ ['\'']
    else if !control && !slash && doubles ≤ 2 then threeBasic
    else if !control && singles ≤ 2 then "'''".toList ++ firstLine ++ cs ++ "'''".toList
    else if lines then threeBasic
    else basic

end MediaCatalog.Toml
