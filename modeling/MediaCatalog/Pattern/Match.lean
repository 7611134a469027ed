import MediaCatalog.Pattern.Basic
import MediaCatalog.Pattern.Class
/-!
# Matching

A pattern matches a text when some part of the text can be split as the pattern says. Matching
carries the set of all positions that can be reached, so it needs no backtracking and always ends.
-/

namespace MediaCatalog.Pattern

/-- A character of a word. -/
def isWordChar (ascii : Bool) (c : Option Char) : Bool :=
  c.any fun c => (if ascii then asciiWord else word).contains c.toNat

/-- The demand is met between the characters `before` and `after`. -/
def Look.holds (look : Look) (before after : Option Char) : Bool :=
  match look with
  | .textStart => before.isNone
  | .textEnd => after.isNone
  | .lineStart => before.all (· = '\n')
  | .lineEnd => after.all (· = '\n')
  | .returnLineStart => before.all fun c => c = '\n' || (c = '\r' && after ≠ some '\n')
  | .returnLineEnd => after.all fun c => c = '\r' || (c = '\n' && before ≠ some '\r')
  | .wordBoundary ascii => isWordChar ascii before != isWordChar ascii after
  | .notWordBoundary ascii => isWordChar ascii before == isWordChar ascii after
  | .wordStart ascii => !isWordChar ascii before && isWordChar ascii after
  | .wordEnd ascii => isWordChar ascii before && !isWordChar ascii after
  | .wordStartHalf ascii => !isWordChar ascii before
  | .wordEndHalf ascii => !isWordChar ascii after

/-! ## Sets of positions -/

/-- A set of positions in a text: the bits that are set. -/
abbrev Positions := Nat

namespace Positions

/-- Which of the positions from `start` on hold, as many as two to the `k`. -/
def block (f : Nat → Bool) (start : Nat) : Nat → Positions
  | 0 => if f start then 1 else 0
  | k + 1 => block f start k ||| (block f (start + (1 <<< k)) k <<< (1 <<< k))

/-- The positions up to `n` at which `f` holds. -/
def filter (n : Nat) (f : Nat → Bool) : Positions :=
  block (fun i => i ≤ n && f i) 0 (n.log2 + 1)

def without (a b : Positions) : Positions := a ^^^ (a &&& b)

/-- Takes `step` exactly `n` times; a set that it keeps is kept ever after. -/
def iterate (step : Positions → Positions) : Nat → Positions → Positions
  | 0, ps => ps
  | n + 1, ps =>
    let next := step ps
    if next = ps then ps else iterate step n next

/-- Takes `step` up to `n` times from the positions `new`, and adds all that is reached to `ps`. -/
def reach (step : Positions → Positions) : Nat → Positions → Positions → Positions
  | 0, _, ps => ps
  | n + 1, new, ps =>
    let next := without (step new) ps
    if next = 0 then ps else reach step n next (ps ||| next)

end Positions

/-! ## Moves in a text -/

/-- A pattern in a given text: from which positions one can go on, and how far. -/
inductive Move where
  /-- From these positions, by so many characters. -/
  | step (start : Positions) (width : Nat)
  | seq (a b : Move)
  | alt (a b : Move)
  /-- At least `least` times, and up to `more` times beyond that. -/
  | repeated (a : Move) (least more : Nat)

namespace Move

/-- The positions that a move leads to. -/
def ends : Move → Positions → Positions
  | .step start width, ps => (ps &&& start) <<< width
  | .seq a b, ps => b.ends (a.ends ps)
  | .alt a b, ps => a.ends ps ||| b.ends ps
  | .repeated a least more, ps =>
    let start := Positions.iterate a.ends least ps
    Positions.reach a.ends more start start

/-- Repeats a move in a text of `n` characters. There are `n + 1` positions, so more than `n + 1`
times in a row lead nowhere new. What is repeated without bound already needs no second loop. -/
def times (n : Nat) (a : Move) (least : Nat) (most : Option Nat) : Move :=
  let more := match most with
    | none => n + 1
    | some most => min (most - least) (n + 1)
  let plain := .repeated a (min least (n + 1)) more
  match a with
  | .repeated b k unbounded =>
    if unbounded = n + 1 && k ≤ 1 && most ≠ some 0 then
      .repeated b (k * min least (n + 1)) unbounded
    else plain
  | _ => plain

end Move

/-- The characters stand in the text from a position on. -/
def standsAt (text : Array Char) : List Char → Nat → Bool
  | [], _ => true
  | c :: cs, i => text[i]? = some c && standsAt text cs (i + 1)

/-- The moves of a pattern in a text. -/
def moves (text : Array Char) : Pattern → Move
  | .empty => .step (Positions.filter text.size fun _ => true) 0
  | .literal cs => .step (Positions.filter text.size (standsAt text cs)) cs.length
  | .set s _ =>
    .step (Positions.filter text.size fun i => text[i]?.any fun c => s.contains c.toNat) 1
  | .look l =>
    .step (Positions.filter text.size fun i =>
      l.holds (if i = 0 then none else text[i - 1]?) text[i]?) 0
  | .repeated p least most _ => (p.moves text).times text.size least most
  | .capture _ p => p.moves text
  | .seq p rest => .seq (p.moves text) (rest.moves text)
  | .alt p rest => .alt (p.moves text) (rest.moves text)

/-- Some part of the text matches. -/
def isMatch (p : Pattern) (text : String) : Bool :=
  let cs := text.toList.toArray
  (p.moves cs).ends (Positions.filter cs.size fun _ => true) ≠ 0

end MediaCatalog.Pattern
