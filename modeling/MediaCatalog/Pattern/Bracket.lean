import MediaCatalog.Pattern.Escape
/-!
# Sets in brackets

Between brackets stand characters, ranges, classes and further brackets. The operators of
intersection, difference and symmetric difference bind less than standing side by side, and each
applies to all that stands before it.
-/

namespace MediaCatalog.Pattern

open Unicode (RangeSet)

inductive SetOperator where
  | intersection
  | difference
  | symmetricDifference

/-- The items that were read since the last operator, and the depth of the deepest. -/
structure Items where
  sets : List RangeSet
  depth : Nat

namespace Items

def none : Items := ⟨[], 0⟩

/-- Adds an item that nests so deep. -/
def add (i : Items) (s : RangeSet) (depth : Nat) : Items := ⟨s :: i.sets, max i.depth depth⟩

/-- All items as one set. -/
def set (i : Items) : RangeSet := .unions i.sets

/-- Two items or more are one level deeper than each of them. -/
def nesting (i : Items) : Nat := if i.sets.length < 2 then i.depth else i.depth + 1

end Items

/-- A set that is being read: the operand before the last operator with its depth, the operator, and
what was read since. -/
structure OpenSet where
  left : Option (RangeSet × Nat × SetOperator)
  right : Items

namespace OpenSet

def empty : OpenSet := ⟨none, .none⟩

/-- Adds to what was read since the last operator. -/
def add (o : OpenSet) (s : RangeSet) (depth : Nat) : OpenSet :=
  { o with right := o.right.add s depth }

/-- Applies the operator that is waiting, to sets closed under case. -/
def close (f : Flags) (o : OpenSet) : RangeSet × Nat :=
  match o.left with
  | none => (o.right.set, o.right.nesting)
  | some (l, depth, op) =>
    let l := f.foldSet l
    let r := f.foldSet o.right.set
    let s := match op with
      | .intersection => l.inter r
      | .difference => l.diff r
      | .symmetricDifference => l.symmDiff r
    (s, max depth o.right.nesting + 1)

/-- Begins the operand after an operator. -/
def operator (f : Flags) (o : OpenSet) (op : SetOperator) : OpenSet :=
  let (s, depth) := o.close f
  ⟨some (s, depth, op), .none⟩

end OpenSet

/-- Reads an ASCII class between colons, after its opening bracket. The outer answer is `none` if there
is no such class, the inner one if it may not stand here. -/
def readAsciiClass (f : Flags) (cs : List Char) : Option (Option RangeSet × List Char) :=
  match cs with
  | ':' :: rest =>
    let (negated, rest) := match rest with
      | '^' :: rest => (true, rest)
      | rest => (false, rest)
    let name := rest.takeWhile (· ≠ ':')
    match rest.drop name.length with
    | ':' :: ']' :: rest => do
      return (f.foldAndNegate? (← asciiClass? (String.ofList name)) negated, rest)
    | _ => none
  | _ => none

/-- Reads a character or an escape in brackets. -/
def readSetItem (f : Flags) : List Char → Option (Primitive × List Char)
  | '\\' :: rest => readEscape f rest
  | c :: rest => some (.literal c.toNat false, rest)
  | [] => none

/-- A literal in brackets; without Unicode it must be of ASCII. -/
def Flags.setLiteral? (f : Flags) : Primitive → Option Nat
  | .literal c _ => if f.unicode || c < 128 then some c else none
  | _ => none

/-- The character that is seen ahead of a hyphen. Blanks are looked past where they are ignored, but
of a comment only the sign that begins it, so that its first character is the one that is seen. -/
def lookAhead (f : Flags) (cs : List Char) : Option Char :=
  let past := cs.dropWhile Text.isBlank
  let ahead := match past with
    | '#' :: rest => rest.dropWhile Text.isBlank
    | past => past
  if f.ignoreBlank then ahead.head?.or cs.head? else cs.head?

/-- Reads a range, or an item that is not the start of one. -/
def readRange (f : Flags) (cs : List Char) : Option (RangeSet × List Char) := do
  let (first, cs) ← readSetItem f cs
  let alone : Option (RangeSet × List Char) :=
    match first with
    | .set s => some (s, cs)
    | .literal .. => (f.setLiteral? first).map fun c => (.single c, cs)
    | .look _ => none
  match f.skip cs with
  | [] => none
  | '-' :: rest =>
    if lookAhead f rest = some ']' || lookAhead f rest = some '-' then alone
    else
      let (last, cs) ← readSetItem f (f.skip rest)
      let lo ← f.setLiteral? first
      let hi ← f.setLiteral? last
      if lo ≤ hi then some (.range lo hi, cs) else none
  | _ => alone

/-- Hyphens at the start of a set stand for themselves. The text itself is enough fuel. -/
def readHyphens (f : Flags) : List Char → OpenSet → List Char → OpenSet × List Char
  | [], o, cs => (o, cs)
  | _ :: fuel, o, cs =>
    match cs with
    | '-' :: rest => readHyphens f fuel (o.add (.single '-'.toNat) 0) (f.skip rest)
    | cs => (o, cs)

/-- Reads the start of a set after its opening bracket: a negation, hyphens, and a closing bracket
that stands for itself. -/
def readSetStart (f : Flags) (cs : List Char) : Bool × OpenSet × List Char :=
  let (negated, cs) := match f.skip cs with
    | '^' :: rest => (true, f.skip rest)
    | cs => (false, cs)
  let (o, after) := readHyphens f cs .empty cs
  match cs, after with
  | ']' :: rest, _ => (negated, o.add (.single ']'.toNat) 0, rest)
  | _, after => (negated, o, after)

/-- Reads a set up to its closing bracket, with the depth of its brackets. Each step takes a
character, so the text itself is enough fuel. -/
def readSet (f : Flags) :
    List Char → Bool → OpenSet → List Char → Option (RangeSet × Nat × List Char)
  | [], _, _, _ => none
  | _ :: fuel, negated, o, cs =>
    match f.skip cs with
    | [] => none
    | ']' :: rest => do
      let (s, depth) := o.close f
      return (← f.foldAndNegate? s negated, depth + 1, rest)
    | '[' :: rest =>
      match readAsciiClass f rest with
      | some (s, rest) => do readSet f fuel negated (o.add (← s) 0) rest
      | none => do
        let (negated', o', rest) := readSetStart f rest
        let (s, depth, rest) ← readSet f fuel negated' o' rest
        readSet f fuel negated (o.add s depth) rest
    | '&' :: '&' :: rest => readSet f fuel negated (o.operator f .intersection) rest
    | '-' :: '-' :: rest => readSet f fuel negated (o.operator f .difference) rest
    | '~' :: '~' :: rest => readSet f fuel negated (o.operator f .symmetricDifference) rest
    | cs => do
      let (s, rest) ← readRange f cs
      readSet f fuel negated (o.add s 0) rest

/-- Reads a set after its opening bracket. -/
def readBrackets (f : Flags) (cs : List Char) : Option (RangeSet × Nat × List Char) :=
  let (negated, o, rest) := readSetStart f cs
  readSet f rest negated o rest

end MediaCatalog.Pattern
