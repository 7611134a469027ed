import MediaCatalog.Pattern.Bracket
import MediaCatalog.Pattern.Program
/-!
# Reading patterns

A pattern is read from left to right with the groups that are still open on a stack.
-/

namespace MediaCatalog.Pattern

/-- How deep groups, brackets and repetitions may nest. -/
def maxDepth : Nat := 250

/-- A part that has been read: its pattern, how deep it nests, and whether it only changes settings,
so that it cannot be repeated. -/
structure Part where
  pattern : Pattern
  depth : Nat
  isSetting : Bool

def Part.ofPattern (p : Pattern) : Part := ⟨p, 0, false⟩

/-- What an opening parenthesis stands for: a group that is counted, or one that is not. -/
inductive GroupKind where
  | counted (index : Nat)
  | plain

/-- The pattern of a group around a pattern. -/
def GroupKind.wrap (k : GroupKind) (p : Pattern) : Pattern :=
  match k with
  | .counted index => .capture index p
  | .plain => p

/-- A group that is being read: the alternatives before the last bar, the parts since, and the
settings there, both with the latest first. -/
structure OpenGroup where
  kind : GroupKind
  alternatives : List Part
  parts : List Part
  flags : Flags

namespace OpenGroup

def start (kind : GroupKind) (flags : Flags) : OpenGroup := ⟨kind, [], [], flags⟩

def push (g : OpenGroup) (p : Part) : OpenGroup := { g with parts := p :: g.parts }

/-- Parts as one, the latest first, which is a level deeper if there are two or more. -/
def unite (f : List Pattern → Pattern) (ps : List Part) : Part :=
  match ps with
  | [p] => p
  | ps =>
    let depth := (ps.map (·.depth)).foldl max 0
    ⟨f (ps.reverse.map (·.pattern)), if ps.isEmpty then 0 else depth + 1, false⟩

/-- Ends an alternative. -/
def bar (g : OpenGroup) : OpenGroup :=
  { g with alternatives := unite sequence g.parts :: g.alternatives, parts := [] }

/-- The whole inside of a group as one part. -/
def close (g : OpenGroup) : Part := unite choice (unite sequence g.parts :: g.alternatives)

end OpenGroup

/-! ## Groups -/

/-- Letters and numbers. -/
def nameChars : Unicode.RangeSet := Unicode.alphabetic.union (Unicode.inCategories ["n"])

def isNameChar (first : Bool) (c : Char) : Bool :=
  if first then c = '_' || Unicode.alphabetic.contains c.toNat
  else c = '_' || c = '.' || c = '[' || c = ']' || nameChars.contains c.toNat

/-- Reads the name of a group up to its closing angle; a name may be given once. -/
def readName (names : List (List Char)) (cs : List Char) : Option (List Char × List Char) :=
  let name := cs.takeWhile (· ≠ '>')
  match cs.drop name.length, name with
  | '>' :: rest, c :: more =>
    if isNameChar true c && more.all (isNameChar false) && !names.contains name then
      some (name, rest)
    else none
  | _, _ => none

/-- Reads letters of settings up to a colon or a closing parenthesis. The letters after a hyphen
turn settings off; no letter and no hyphen may come twice. -/
def readFlags (f : Flags) (seen : List Char) : List Char → Option (Flags × List Char × List Char)
  | [] => none
  | c :: rest =>
    if c = ':' || c = ')' then
      if seen.head? = some '-' then none else some (f, seen, c :: rest)
    else if seen.contains c then none
    else if c = '-' then readFlags f (c :: seen) rest
    else
      match f.set? c (!seen.contains '-') with
      | some f => readFlags f (c :: seen) rest
      | none => none

/-- What an opening parenthesis begins. -/
inductive Opening where
  | group (flags : Flags) (name : Option (List Char)) (counted : Bool)
  | settings (flags : Flags)

/-- Reads what follows an opening parenthesis. Looking around is not supported. -/
def readOpening (f : Flags) (names : List (List Char)) (cs : List Char) :
    Option (Opening × List Char) :=
  match f.skip cs with
  | '?' :: '=' :: _ | '?' :: '!' :: _ | '?' :: '<' :: '=' :: _ | '?' :: '<' :: '!' :: _ => none
  | '?' :: 'P' :: '<' :: rest | '?' :: '<' :: rest => do
    let (name, rest) ← readName names rest
    return (.group f (some name) true, rest)
  | '?' :: rest => do
    match ← readFlags f [] rest with
    | (flags, seen, ')' :: rest) => if seen.isEmpty then none else some (.settings flags, rest)
    | (flags, _, _ :: rest) => some (.group flags none false, rest)
    | _ => none
  | cs => some (.group f none true, cs)

/-! ## Repetition -/

/-- The largest count that can be written. -/
def maxCount : Nat := 4294967295

/-- Reads the digits of a count, which blanks may surround; `none` inside if there are none. -/
def readCount (f : Flags) (cs : List Char) : Option (Option Nat × List Char) :=
  let cs := cs.dropWhile Text.isBlank
  let rec digits (n : Option Nat) : List Char → List Char → Option Nat × List Char
    | [], cs => (n, cs)
    | _ :: fuel, cs =>
      match cs with
      | c :: rest =>
        if c.isDigit then
          digits (some (n.getD 0 * 10 + (c.toNat - '0'.toNat))) fuel (f.skip rest)
        else (n, cs)
      | [] => (n, cs)
  let (n, rest) := digits none cs cs
  if n.all (· ≤ maxCount) then some (n, f.skip (rest.dropWhile Text.isBlank)) else none

/-- Reads the bounds of a repetition after its opening brace. -/
def readBounds (f : Flags) (cs : List Char) : Option (Nat × Option Nat × List Char) := do
  let (least, cs) ← readCount f (f.skip cs)
  let least ← least
  match cs with
  | '\x7d' :: rest => some (least, some least, rest)
  | ',' :: rest =>
    match f.skip rest with
    | '\x7d' :: rest => some (least, none, rest)
    | cs =>
      let (most, cs) ← readCount f cs
      let most ← most
      match cs with
      | '\x7d' :: rest => if least ≤ most then some (least, some most, rest) else none
      | _ => none
  | _ => none

/-- Repeats the last part of a group. -/
def OpenGroup.repeatLast? (g : OpenGroup) (least : Nat) (most : Option Nat) (reluctant : Bool) :
    Option OpenGroup :=
  match g.parts with
  | p :: ps =>
    if p.isSetting then none
    else
      let greedy := reluctant == g.flags.swapGreed
      some { g with parts := ⟨p.pattern.times least most greedy, p.depth + 1, false⟩ :: ps }
  | [] => none

/-- The mark of a reluctant repetition, and what follows. -/
def readReluctant : List Char → Bool × List Char
  | '?' :: rest => (true, rest)
  | cs => (false, cs)

/-! ## The whole pattern -/

/-- The pattern of a point, which needs Unicode. -/
def Flags.point? (f : Flags) : Option Pattern :=
  if !f.unicode then none
  else if f.dotAll then some (.set .all false)
  else
    let ends : Unicode.RangeSet := if f.returns then ⟨[(10, 10), (13, 13)]⟩ else .single 10
    some (.set ends.compl false)

def Flags.lineStart (f : Flags) : Look :=
  if !f.multiLine then .textStart else if f.returns then .returnLineStart else .lineStart

def Flags.lineEnd (f : Flags) : Look :=
  if !f.multiLine then .textEnd else if f.returns then .returnLineEnd else .lineEnd

/-- The pattern of a primitive. -/
def Flags.primitive? (f : Flags) : Primitive → Option Pattern
  | .literal c isByte => f.literal? c isByte
  | .look l => some (.look l)
  | .set s => some (.ofSet s (!f.unicode))

/-- What was met so far in a pattern: how many groups are counted, and the names given. -/
structure Met where
  count : Nat
  names : List (List Char)

/-- Reads the rest of a pattern, given the group that is being read and the groups around it. Each step
takes a character, so the length of the text is enough fuel. -/
def readGroups : Nat → OpenGroup → List OpenGroup → Met → List Char → Option Part
  | 0, _, _, _, _ => none
  | fuel + 1, g, outer, met, cs =>
    let f := g.flags
    let next := fun (p : Option Pattern) (rest : List Char) => do
      readGroups fuel (g.push (.ofPattern (← p))) outer met rest
    let again := fun (least : Nat) (most : Option Nat) (rest : List Char) => do
      let (reluctant, rest) := readReluctant rest
      readGroups fuel (← g.repeatLast? least most reluctant) outer met rest
    match f.skip cs with
    | [] => if outer.isEmpty then some g.close else none
    | '(' :: rest => do
      match ← readOpening f met.names rest with
      | (.settings flags, rest) =>
        readGroups fuel { g.push ⟨.empty, 0, true⟩ with flags := flags } outer met rest
      | (.group flags name true, rest) =>
        let index := met.count + 1
        readGroups fuel (.start (.counted index) flags) (g :: outer) ⟨index, name.toList ++ met.names⟩
          rest
      | (.group flags _ false, rest) =>
        readGroups fuel (.start .plain flags) (g :: outer) met rest
    | ')' :: rest =>
      match outer with
      | [] => none
      | parent :: outer =>
        let p := g.close
        readGroups fuel (parent.push ⟨g.kind.wrap p.pattern, p.depth + 1, false⟩) outer met rest
    | '|' :: rest => readGroups fuel g.bar outer met rest
    | '[' :: rest => do
      let (s, depth, rest) ← readBrackets f rest
      readGroups fuel (g.push ⟨.ofSet s (!f.unicode), depth, false⟩) outer met rest
    | '?' :: rest => again 0 (some 1) rest
    | '*' :: rest => again 0 none rest
    | '+' :: rest => again 1 none rest
    | '\x7b' :: rest => do
      let (least, most, rest) ← readBounds f rest
      again least most (f.skip rest)
    | '\\' :: rest => do
      let (p, rest) ← readEscape f rest
      next (f.primitive? p) rest
    | '.' :: rest => next f.point? rest
    | '^' :: rest => next (some (.look f.lineStart)) rest
    | '$' :: rest => next (some (.look f.lineEnd)) rest
    | c :: rest => next (f.primitive? (.literal c.toNat false)) rest

/-- Why a text is no pattern. -/
inductive Fault where
  /-- It cannot be read, or nests too deep. -/
  | unreadable
  /-- Its machines would take too much space. -/
  | tooLarge
deriving DecidableEq

/-- Reads a text as a pattern. -/
def read (text : String) : Except Fault Pattern :=
  let cs := text.toList
  match readGroups (cs.length + 1) (.start .plain .initial) [] ⟨0, []⟩ cs with
  | none => .error .unreadable
  | some p =>
    if maxDepth < p.depth then .error .unreadable
    else if p.pattern.fits then .ok p.pattern
    else .error .tooLarge

def parse? (text : String) : Option Pattern := (read text).toOption

/-- The text is a pattern. -/
def isValid (text : String) : Bool := (parse? text).isSome

end MediaCatalog.Pattern
