import MediaCatalog.Toml.Text
/-!
# Reading TOML
-/

namespace MediaCatalog.Toml

/-! ## Blanks -/

/-- Steps over a comment, up to the end of its line. -/
def comment? : List Char → Option (List Char)
  | '#' :: rest => some (rest.dropWhile isText)
  | _ => none

/-- Steps over the end of a line, a comment before it, or the end of the text. -/
def lineEnd? (cs : List Char) : Option (List Char) :=
  let cs := skipSpace cs
  match (comment? cs).getD cs with
  | [] => some []
  | cs => newline? cs

/-- Drops spaces, comments and ends of lines, with the text as fuel. -/
def skipLines : List Char → List Char → List Char
  | [], cs => cs
  | _ :: fuel, cs =>
    let cs := skipSpace cs
    match newline? ((comment? cs).getD cs) with
    | some rest => skipLines fuel rest
    | none => cs

/-! ## Keys -/

def isBare (c : Char) : Bool := c.isAlphanum || c = '_' || c = '-'

/-- Reads one part of a key. -/
def readSimpleKey : Scanner String := fun cs =>
  let bare := cs.takeWhile isBare
  if bare.isEmpty then readLineString cs else some (String.ofList bare, cs.drop bare.length)

/-- How deep arrays, tables and dotted keys may nest. -/
def maxDepth : Nat := 79

/-- Reads a key of at most `n` parts with points between them. -/
def readKey : Nat → Scanner (List String)
  | 0, _ => none
  | n + 1, cs => do
    let (k, cs) ← readSimpleKey (skipSpace cs)
    match skipSpace cs with
    | '.' :: rest => (readKey n rest).map fun (ks, rest) => (k :: ks, rest)
    | cs => some ([k], cs)

/-! ## Values -/

/-- Reads the items of a list after its opening bracket, a comma between two of them, with the text
as fuel. With `trailing` there may be a comma before the closing bracket as well. -/
def readItems {α : Type} (item : Scanner α) (skip : List Char → List Char) (close : Char)
    (trailing : Bool) : List Char → Scanner (List α)
  | [], _ => none
  | _ :: fuel, cs => do
    let (x, cs) ← item (skip cs)
    match skip cs with
    | ',' :: rest =>
      match trailing, skip rest with
      | true, c :: more =>
        if c = close then some ([x], more)
        else (readItems item skip close trailing fuel rest).map fun (xs, cs) => (x :: xs, cs)
      | _, _ => (readItems item skip close trailing fuel rest).map fun (xs, cs) => (x :: xs, cs)
    | c :: rest => if c = close then some ([x], rest) else none
    | [] => none

/-- Reads a list after its opening bracket. -/
def readList {α : Type} (item : Scanner α) (skip : List Char → List Char) (close : Char)
    (trailing : Bool) : Scanner (List α) := fun cs =>
  match skip cs with
  | c :: rest =>
    if c = close then some ([], rest) else readItems item skip close trailing cs cs
  | [] => none

/-- Reads a key and its value. -/
def readPair (value : Scanner Toml) : Scanner (List String × Toml) := fun cs => do
  let (key, cs) ← readKey maxDepth cs
  let (v, cs) ← value (skipSpace (← Time.mark '=' cs))
  return ((key, v), cs)

/-- A character of a number, a date or a word. -/
def isPlain (c : Char) : Bool := isBare c || c = '+' || c = '.' || c = ':'

/-- Reads a time that follows a date after a blank. -/
def skipTimeAfter (cs : List Char) : List Char :=
  match cs with
  | ' ' :: rest =>
    if isZonedTime (rest.takeWhile isPlain) then rest.dropWhile isPlain else cs
  | cs => cs

/-- Reads a number, a date or a word. -/
def readPlain : Scanner Toml := fun cs =>
  let word := cs.takeWhile isPlain
  let rest := cs.dropWhile isPlain
  match integer? word with
  | some n => some (.integer n, rest)
  | none =>
    if word = "true".toList ∨ word = "false".toList then some (.boolean, rest)
    else if isDate word then some (.date, if readDate word = some [] then skipTimeAfter rest else rest)
    else if isFloat word then some (.float, rest)
    else none

/-- Reads a value in which as many arrays and tables as given may be open at once. -/
def readValue : Nat → Scanner Toml
  | depth, '[' :: rest =>
    match depth with
    | 0 => none
    | depth + 1 =>
      (readList (readValue depth) (fun cs => skipLines cs cs) ']' true rest).map
        fun (xs, rest) => (.array xs, rest)
  | depth, '\x7b' :: rest =>
    match depth with
    | 0 => none
    | depth + 1 => do
      let (ps, rest) ← readList (readPair (readValue depth)) skipSpace '\x7d' false rest
      return (.inline (← ofPairs? ps), rest)
  | _, cs =>
    match readString cs with
    | some (s, rest) => some (.string s, rest)
    | none => readPlain cs

/-! ## Documents -/

/-- Reads a header after its opening brackets. -/
def readHeader (close : List Char) (cs : List Char) : Option (List String × List Char) := do
  let (path, cs) ← readKey maxDepth cs
  if close.isPrefixOf cs then some (path, cs.drop close.length) else none

/-- Reads a statement. -/
def readStatement : Scanner Statement
  | '[' :: '[' :: rest =>
    (readHeader [']', ']'] rest).map fun (path, rest) => (.itemHeader path, rest)
  | '[' :: rest => (readHeader [']'] rest).map fun (path, rest) => (.header path, rest)
  | cs => (readPair (readValue maxDepth) cs).map fun ((path, v), rest) => (.pair path v, rest)

/-- Reads statements up to the end of the text, each on lines of its own, with the text as fuel. -/
def readStatements : List Char → Open → List Char → Option Open
  | [], o, cs => if cs.isEmpty then some o else none
  | _ :: fuel, o, cs =>
    match skipLines cs cs with
    | [] => some o
    | cs =>
      if comment? cs = some [] then some o
      else do
        let (x, rest) ← readStatement cs
        readStatements fuel (← o.add? x) (← lineEnd? rest)

/-- Drops a byte order mark. -/
def withoutMark : List Char → List Char
  | '\ufeff' :: rest => rest
  | cs => cs

/-- The table of a document. -/
def parse? (text : String) : Option Members :=
  let cs := withoutMark text.toList
  (readStatements cs .empty cs).map (·.root)

end MediaCatalog.Toml
