import MediaCatalog.Pattern.Basic
import MediaCatalog.Pattern.Class
import MediaCatalog.Text.Blank
/-!
# Escapes in patterns

What a backslash introduces: a literal, an assertion, or a class with a name.
-/

namespace MediaCatalog.Pattern

open Unicode (RangeSet)

/-- The settings that a pattern can change as it goes. -/
structure Flags where
  ignoreCase : Bool
  multiLine : Bool
  dotAll : Bool
  swapGreed : Bool
  unicode : Bool
  returns : Bool
  ignoreBlank : Bool
deriving DecidableEq

/-- The settings at the start of a pattern. -/
def Flags.initial : Flags := ⟨false, false, false, false, true, false, false⟩

/-- Changes the setting that a letter names. -/
def Flags.set? (f : Flags) (letter : Char) (on : Bool) : Option Flags :=
  match letter with
  | 'i' => some { f with ignoreCase := on }
  | 'm' => some { f with multiLine := on }
  | 's' => some { f with dotAll := on }
  | 'U' => some { f with swapGreed := on }
  | 'u' => some { f with unicode := on }
  | 'R' => some { f with returns := on }
  | 'x' => some { f with ignoreBlank := on }
  | _ => none

/-- Steps over blanks and comments, which end with their line. -/
def skipFrom (inComment : Bool) : List Char → List Char
  | [] => []
  | c :: cs =>
    if inComment then skipFrom (c ≠ '\n') cs
    else if c = '#' then skipFrom true cs
    else if Text.isBlank c then skipFrom false cs
    else c :: cs

/-- Steps over what is ignored. -/
def Flags.skip (f : Flags) (cs : List Char) : List Char :=
  if f.ignoreBlank then skipFrom false cs else cs

/-! ## Sets under the settings -/

/-- A named or negated set; without Unicode a set must stay within ASCII. -/
def Flags.namedSet? (f : Flags) (wide narrow : RangeSet) (negated : Bool) : Option RangeSet :=
  if f.unicode then some (if negated then wide.compl else wide)
  else if negated then none
  else some narrow

/-- Adds the variants of case to a set, where case is ignored. -/
def Flags.foldSet (f : Flags) (s : RangeSet) : RangeSet :=
  if !f.ignoreCase then s else if f.unicode then s.closeCase else s.closeAsciiCase

/-- A set that was written with a mark of negation or without: case comes first, then the mark.
Without Unicode the outcome must stay within ASCII. -/
def Flags.foldAndNegate? (f : Flags) (s : RangeSet) (negated : Bool) : Option RangeSet :=
  let s := f.foldSet s
  if f.unicode then some (if negated then s.compl else s)
  else if negated then none
  else some s

/-- The pattern of a literal outside of brackets. A byte written as two hexadecimal digits is a
character only with Unicode. -/
def Flags.literal? (f : Flags) (c : Nat) (isByte : Bool) : Option Pattern :=
  if f.unicode || c < 128 then some (.ofSet (f.foldSet (.single c)) (!f.unicode))
  else if isByte then none
  else some (.literal [Char.ofNat c])

/-! ## Reading -/

/-- What one step of a pattern can be, brackets and groups apart. -/
inductive Primitive where
  | literal (c : Nat) (isByte : Bool)
  | look (l : Look)
  | set (s : RangeSet)

/-- The punctuation that has a meaning of its own. -/
def isMeta (c : Char) : Bool := "\\.+*?()|[]\x7b\x7d^$#&-~".toList.contains c

/-- The characters that stand for themselves after a backslash. -/
def isEscapable (c : Char) : Bool :=
  isMeta c || (c.toNat < 128 && !c.isAlphanum && c ≠ '<' && c ≠ '>')

def hexDigit? (c : Char) : Option Nat :=
  if c.isDigit then some (c.toNat - '0'.toNat)
  else if 'a' ≤ c ∧ c ≤ 'f' then some (c.toNat - 'a'.toNat + 10)
  else if 'A' ≤ c ∧ c ≤ 'F' then some (c.toNat - 'A'.toNat + 10)
  else none

/-- A number that is a character. -/
def scalar? (n : Nat) : Option Nat :=
  if n < 0xD800 ∨ (0xDFFF < n ∧ n ≤ Unicode.maxCodePoint) then some n else none

/-- Reads hexadecimal digits up to a closing brace, at least one, with the text as fuel. -/
def readBraced (f : Flags) : List Char → Option Nat → List Char → Option (Nat × List Char)
  | [], _, _ => none
  | _ :: fuel, n, cs =>
    match f.skip cs with
    | [] => none
    | '\x7d' :: rest => n.map (·, f.skip rest)
    | c :: rest => do readBraced f fuel (some (n.getD 0 * 16 + (← hexDigit? c))) rest

/-- Reads exactly `count` more hexadecimal digits. -/
def readHex (f : Flags) : Nat → Nat → List Char → Option (Nat × List Char)
  | 0, n, cs => some (n, f.skip cs)
  | count + 1, n, cs =>
    match f.skip cs with
    | [] => none
    | c :: rest => do readHex f count (n * 16 + (← hexDigit? c)) rest

/-- Reads a code point after its letter: in braces, or in as many digits as the letter says. -/
def readCodePoint (f : Flags) (letter : Char) (cs : List Char) : Option (Primitive × List Char) :=
  match f.skip cs with
  | '\x7b' :: rest => do
    let (n, rest) ← readBraced f rest none rest
    return (.literal (← scalar? n) false, rest)
  | cs => do
    let width := if letter = 'x' then 2 else if letter = 'u' then 4 else 8
    let (n, rest) ← readHex f width 0 cs
    return (.literal (← scalar? n) (letter = 'x'), rest)

/-- Splits a text at the first place where one of the marks stands. -/
def splitAtMark (cs : List Char) (mark : List Char) : Option (List Char × List Char) :=
  match cs with
  | [] => none
  | c :: rest =>
    if mark.isPrefixOf (c :: rest) then some ([], (c :: rest).drop mark.length)
    else (splitAtMark rest mark).map fun (a, b) => (c :: a, b)

/-- The set of a property between braces: a name, or a name and a value. The marks between the two
mean the same, also the one that looks like a negation. -/
def property? (body : List Char) : Option RangeSet :=
  let text := fun cs : List Char => String.ofList cs
  match (splitAtMark body ['!', '=']).or ((splitAtMark body [':']).or (splitAtMark body ['='])) with
  | some (p, v) => Unicode.valued? (text p) (text v)
  | none => Unicode.named? (text body)

/-- Reads the characters of a property up to its closing brace, with the text as fuel. -/
def readBody (f : Flags) : List Char → List Char → Option (List Char × List Char)
  | [], _ => none
  | _ :: fuel, cs =>
    match f.skip cs with
    | [] => none
    | '\x7d' :: rest => some ([], rest)
    | c :: rest => (readBody f fuel rest).map fun (body, rest) => (c :: body, rest)

/-- Reads a property after its letter, a capital letter negating it. -/
def readProperty (f : Flags) (negated : Bool) (cs : List Char) : Option (Primitive × List Char) := do
  let (s, rest) ← match f.skip cs with
    | '\x7b' :: rest => do
      let (body, rest) ← readBody f rest rest
      pure (← property? body, rest)
    | '\\' :: _ => none
    | c :: rest => do pure (← Unicode.named? (String.singleton c), f.skip rest)
    | [] => none
  if f.unicode then return (.set (← f.foldAndNegate? s negated), rest) else none

/-- A special boundary of words. -/
def boundary? (ascii : Bool) : String → Option Look
  | "start" => some (.wordStart ascii)
  | "end" => some (.wordEnd ascii)
  | "start-half" => some (.wordStartHalf ascii)
  | "end-half" => some (.wordEndHalf ascii)
  | _ => none

def isBoundaryChar (c : Char) : Bool := c.isAlpha || c = '-'

/-- Reads the name of a special boundary up to its closing brace, with the text as fuel. -/
def readBoundary (f : Flags) : List Char → List Char → Option (List Char × List Char)
  | [], _ => none
  | _ :: fuel, cs =>
    match f.skip cs with
    | '\x7d' :: rest => some ([], rest)
    | c :: rest =>
      if isBoundaryChar c then (readBoundary f fuel rest).map fun (name, rest) => (c :: name, rest)
      else none
    | [] => none

/-- Reads a word boundary. A brace after it names a special one, unless it begins a count. -/
def readWordBoundary (f : Flags) (cs : List Char) : Option (Primitive × List Char) :=
  match cs with
  | '\x7b' :: rest =>
    match f.skip rest with
    | [] => none
    | c :: more =>
      if isBoundaryChar c then do
        let (name, rest) ← readBoundary f (c :: more) (c :: more)
        return (.look (← boundary? (!f.unicode) (String.ofList name)), rest)
      else some (.look (.wordBoundary (!f.unicode)), cs)
  | cs => some (.look (.wordBoundary (!f.unicode)), cs)

/-- Reads what follows a backslash. -/
def readEscape (f : Flags) (cs : List Char) : Option (Primitive × List Char) :=
  match cs with
  | [] => none
  | c :: rest =>
    let set := fun (wide narrow : RangeSet) (negated : Bool) =>
      (f.namedSet? wide narrow negated).map fun s => (Primitive.set s, rest)
    match c with
    | 'x' | 'u' | 'U' => readCodePoint f c rest
    | 'p' => readProperty f false rest
    | 'P' => readProperty f true rest
    | 'd' => set digit asciiDigit false
    | 'D' => set digit asciiDigit true
    | 's' => set space asciiSpace false
    | 'S' => set space asciiSpace true
    | 'w' => set word asciiWord false
    | 'W' => set word asciiWord true
    | 'a' => some (.literal 7 false, rest)
    | 'f' => some (.literal 12 false, rest)
    | 't' => some (.literal 9 false, rest)
    | 'n' => some (.literal 10 false, rest)
    | 'r' => some (.literal 13 false, rest)
    | 'v' => some (.literal 11 false, rest)
    | 'A' => some (.look .textStart, rest)
    | 'z' => some (.look .textEnd, rest)
    | 'b' => readWordBoundary f rest
    | 'B' => some (.look (.notWordBoundary (!f.unicode)), rest)
    | '<' => some (.look (.wordStart (!f.unicode)), rest)
    | '>' => some (.look (.wordEnd (!f.unicode)), rest)
    | c => if isEscapable c then some (.literal c.toNat false, rest) else none

end MediaCatalog.Pattern
