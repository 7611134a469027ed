import MediaCatalog.Unicode.RangeSet
/-!
# Patterns

What a pattern is made of, and how its parts are put together. Putting together simplifies: literals
side by side become one, alternatives that are sets become one set, and what all alternatives begin
with is taken out of them. The size of a pattern is measured after this.
-/

namespace MediaCatalog

namespace Pattern

/-- What an assertion demands of the characters around a position. -/
inductive Look where
  | textStart
  | textEnd
  | lineStart
  | lineEnd
  /-- Line ends that take a carriage return before a line feed as one. -/
  | returnLineStart
  | returnLineEnd
  | wordBoundary (ascii : Bool)
  | notWordBoundary (ascii : Bool)
  | wordStart (ascii : Bool)
  | wordEnd (ascii : Bool)
  | wordStartHalf (ascii : Bool)
  | wordEndHalf (ascii : Bool)
deriving DecidableEq

end Pattern

open Pattern

inductive Pattern where
  | empty
  /-- These characters one after the other. -/
  | literal (cs : List Char)
  /-- A character of the set. A set of bytes holds single bytes only, so it stays in ASCII. -/
  | set (s : Unicode.RangeSet) (bytes : Bool)
  | look (l : Look)
  /-- At least `least` times, and at most `most` times if that is given. How eagerly matters to
  where a match ends, not to whether there is one. -/
  | repeated (p : Pattern) (least : Nat) (most : Option Nat) (greedy : Bool)
  | capture (index : Nat) (p : Pattern)
  /-- A first part and the rest. -/
  | seq (p rest : Pattern)
  /-- A first alternative and the rest. -/
  | alt (p rest : Pattern)
deriving DecidableEq

namespace Pattern

/-! ## Parts -/

/-- The parts of a sequence. -/
def parts : Pattern → List Pattern
  | .empty => []
  | .seq p rest => p :: rest.parts
  | p => [p]

/-- The alternatives of a choice. -/
def alternatives : Pattern → List Pattern
  | .alt p rest => p :: rest.alternatives
  | p => [p]

/-- The pattern that matches nothing. -/
def never : Pattern := .set .empty true

def chain : List Pattern → Pattern
  | [] => .empty
  | [p] => p
  | p :: ps => .seq p (chain ps)

def branch : List Pattern → Pattern
  | [] => .never
  | [p] => p
  | p :: ps => .alt p (branch ps)

/-- The number of nodes. -/
def size : Pattern → Nat
  | .empty | .literal _ | .set .. | .look _ => 1
  | .repeated p .. => p.size + 1
  | .capture _ p => p.size + 1
  | .seq p rest => p.size + rest.size + 1
  | .alt p rest => p.size + rest.size + 1

/-! ## Lengths -/

/-- How many bytes a code point takes. -/
def byteLength (c : Nat) : Nat :=
  if c < 0x80 then 1 else if c < 0x800 then 2 else if c < 0x10000 then 3 else 4

/-- The length in bytes of the shortest match, unless there is none. -/
def minLength? : Pattern → Option Nat
  | .empty | .look _ => some 0
  | .literal cs => some ((cs.map fun c => byteLength c.toNat).sum)
  | .set s _ => s.ranges.head?.map fun r => byteLength r.1
  | .repeated p least _ _ => p.minLength?.map (· * least)
  | .capture _ p => p.minLength?
  | .seq p rest => do return (← p.minLength?) + (← rest.minLength?)
  | .alt p rest => do return min (← p.minLength?) (← rest.minLength?)

/-- The length in bytes of the longest match, unless there is none or no bound. -/
def maxLength? : Pattern → Option Nat
  | .empty | .look _ => some 0
  | .literal cs => some ((cs.map fun c => byteLength c.toNat).sum)
  | .set s _ => s.ranges.getLast?.map fun r => byteLength r.2
  | .repeated p _ most _ => do return (← p.maxLength?) * (← most)
  | .capture _ p => p.maxLength?
  | .seq p rest => do return (← p.maxLength?) + (← rest.maxLength?)
  | .alt p rest => do return max (← p.maxLength?) (← rest.maxLength?)

/-! ## Anchors -/

/-- Every match begins at the start of the text. -/
def isStartAnchored : Pattern → Bool
  | .look l => l = .textStart
  | .repeated p least _ _ => 0 < least && p.isStartAnchored
  | .capture _ p => p.isStartAnchored
  | .seq p rest => p.isStartAnchored || (p.maxLength? = some 0 && rest.isStartAnchored)
  | .alt p rest => p.isStartAnchored && rest.isStartAnchored
  | _ => false

/-- Every match ends at the end of the text. -/
def isEndAnchored : Pattern → Bool
  | .look l => l = .textEnd
  | .repeated p least _ _ => 0 < least && p.isEndAnchored
  | .capture _ p => p.isEndAnchored
  | .seq p rest => rest.isEndAnchored || (rest.maxLength? = some 0 && p.isEndAnchored)
  | .alt p rest => p.isEndAnchored && rest.isEndAnchored
  | _ => false

/-! ## Putting together -/

/-- A set with one member is a literal. -/
def ofSet (s : Unicode.RangeSet) (bytes : Bool) : Pattern :=
  if s.isEmpty then .never
  else match s.only? with
    | some c => .literal [Char.ofNat c]
    | none => .set s bytes

/-- Joins literals that stand side by side. -/
def joinLiterals : List Pattern → List Pattern
  | [] => []
  | .literal cs :: ps =>
    match joinLiterals ps with
    | .literal ds :: rest => .literal (cs ++ ds) :: rest
    | rest => .literal cs :: rest
  | p :: ps => p :: joinLiterals ps

/-- One pattern after the other. -/
def sequence (ps : List Pattern) : Pattern := chain (joinLiterals (ps.flatMap parts))

/-- The characters of alternatives that are one character each. -/
def singleChars? (ps : List Pattern) : Option (List Char) :=
  ps.mapM fun
    | .literal [c] => some c
    | _ => none

/-- The sets of alternatives that are sets. -/
def sets? (ps : List Pattern) : Option (List Unicode.RangeSet) :=
  ps.mapM fun
    | .set s _ => some s
    | _ => none

/-- The parts that two lists begin with. -/
def commonStart : List Pattern → List Pattern → List Pattern
  | p :: ps, q :: qs => if p = q then p :: commonStart ps qs else []
  | _, _ => []

/-- The parts of a sequence of two or more. -/
def sequenceParts? : Pattern → Option (List Pattern)
  | .seq p rest => some (p :: rest.parts)
  | _ => none

/-- What all alternatives begin with, and what is left of each, if all are sequences that begin with
the same part. -/
def commonParts? (ps : List Pattern) : Option (List Pattern × List (List Pattern)) := do
  match ← ps.mapM sequenceParts? with
  | [] => none
  | first :: others =>
    let start := others.foldl commonStart first
    if start.isEmpty then none
    else some (start, (first :: others).map (·.drop start.length))

/-- One pattern or another. What is left after a common beginning has fewer nodes, so their number is
enough fuel. -/
def choiceWithin : Nat → List Pattern → Pattern
  | 0, ps => branch ps
  | fuel + 1, ps =>
    match ps.flatMap alternatives with
    | [] => .never
    | [p] => p
    | ps =>
      match singleChars? ps with
      | some cs => ofSet (.ofRanges (cs.map fun c => (c.toNat, c.toNat))) false
      | none =>
        match sets? ps with
        | some ss => ofSet (.unions ss) false
        | none =>
          match commonParts? ps with
          | some (start, rests) => sequence (start ++ [choiceWithin fuel (rests.map sequence)])
          | none => branch ps

def choice (ps : List Pattern) : Pattern := choiceWithin (ps.foldl (fun n p => n + p.size) 1) ps

/-- A pattern so many times. What matches empty parts only need not come twice. -/
def times (p : Pattern) (least : Nat) (most : Option Nat) (greedy : Bool) : Pattern :=
  let narrow := p.maxLength? = some 0
  let least := if narrow then min least 1 else least
  let most := if narrow then some (min (most.getD 1) 1) else most
  if least = 0 && most = some 0 then .empty
  else if least = 1 && most = some 1 then p
  else .repeated p least most greedy

end Pattern

end MediaCatalog
