import MediaCatalog.Pattern.Basic
import MediaCatalog.Pattern.Utf8
import Std.Data.HashMap
/-!
# The size of the program of a pattern

A pattern is run as two machines that read bytes, one from the start of a text and one from its end.
Each has a state for every step, and a pattern is refused when a machine would take too much space.
The machines themselves are not needed here, only how many states they have and how many edges the
states keep in lists.
-/

namespace MediaCatalog.Pattern

/-- The space that a machine takes: its states, and the bytes of what they keep in lists. -/
structure Space where
  states : Nat
  listed : Nat

namespace Space

/-- The space that a machine may take, in bytes. -/
def limit : Nat := 10485760

def bytesPerState : Nat := 32

/-- The size of an edge to another state in a list. -/
def bytesPerJump : Nat := 4

/-- The size of an edge in a list that reads a range of bytes. -/
def bytesPerRange : Nat := 8

def bytes (s : Space) : Nat := bytesPerState * s.states + s.listed

/-- Takes more space, within the limit. -/
def take (s : Space) (states listed : Nat) : Option Space :=
  let s : Space := ⟨s.states + states, s.listed + listed⟩
  if s.bytes ≤ limit then some s else none

/-- States without lists. -/
def plain (s : Space) (states : Nat) : Option Space := s.take states 0

/-- Edges to other states. -/
def jumps (s : Space) (n : Nat) : Option Space := s.take 0 (bytesPerJump * n)

/-- A state that reads one of so many ranges of bytes. -/
def reading (s : Space) (ranges : Nat) : Option Space := s.take 1 (bytesPerRange * ranges)

/-- Goes on from a part. One that ends in a fork keeps the way on in a list. -/
def goOn (s : Space) (fork : Bool) : Option Space := if fork then s.jumps 1 else some s

end Space

/-! ## Memories

Equal states of one set are shared as long as they are remembered. A memory has room for a number of
states, and a state is forgotten when another takes its place. -/

/-- Mixes a number into the place of a state. -/
def mix (h : UInt64) (n : Nat) : UInt64 := (h ^^^ n.toUInt64) * 1099511628211

def mixStart : UInt64 := 14695981039346656037

/-- The states that are remembered, by place. -/
structure Memory (α : Type) where
  room : Nat
  places : Std.HashMap Nat (α × Nat)

def Memory.ofRoom {α : Type} (room : Nat) : Memory α := ⟨room, {}⟩

def Memory.find? {α : Type} [BEq α] (m : Memory α) (place : Nat) (key : α) : Option Nat :=
  match m.places[place]? with
  | some (k, id) => if k == key then some id else none
  | none => none

def Memory.put {α : Type} (m : Memory α) (place : Nat) (key : α) (id : Nat) : Memory α :=
  { m with places := m.places.insert place (key, id) }

/-! ## Sets read forwards -/

/-- A range of bytes and the state that it leads to. -/
abbrev Edge := Nat × Nat × Nat

/-- A state that is being built: its edges so far, the latest first, and the range of the one whose
target is not known yet. -/
structure OpenState where
  edges : List Edge
  last : Option Unicode.Range

/-- Ends the last edge of a state. -/
def OpenState.freeze (o : OpenState) (target : Nat) : OpenState :=
  match o.last with
  | some (lo, hi) => ⟨(lo, hi, target) :: o.edges, none⟩
  | none => o

/-- A machine that is growing, with the memory of its states. -/
structure Growth (α : Type) where
  space : Space
  memory : Memory α

/-- The state with these edges: one that is remembered, or a new one. -/
def Growth.state (g : Growth (List Edge)) (edges : List Edge) : Option (Nat × Growth (List Edge)) :=
  let hash := edges.foldl (fun h (lo, hi, target) => mix (mix (mix h lo) hi) target) mixStart
  let place := (hash % g.memory.room.toUInt64).toNat
  match g.memory.find? place edges with
  | some id => some (id, g)
  | none => do
    let space ← g.space.reading edges.length
    return (g.space.states, ⟨space, g.memory.put place edges g.space.states⟩)

/-- Builds open states from the deepest up, and gives the state that the first has become. -/
def Growth.close (final : Nat) (g : Growth (List Edge)) :
    List OpenState → Option (Nat × Growth (List Edge))
  | [] => some (final, g)
  | o :: rest => do
    let (target, g) ← g.close final rest
    g.state (o.freeze target).edges.reverse

/-- Ends the last edge of the first open state, and builds those below it. -/
def Growth.closeBelow (final : Nat) (g : Growth (List Edge)) :
    List OpenState → Option (List OpenState × Growth (List Edge))
  | [] => some ([], g)
  | o :: rest => do
    let (target, g) ← g.close final rest
    return ([o.freeze target], g)

/-- Adds a sequence of ranges after all that came before in ascending order. The open states on its
way stay open. -/
def Growth.insert (final : Nat) (g : Growth (List Edge)) :
    List OpenState → List Unicode.Range → Option (List OpenState × Growth (List Edge))
  | o :: rest, r :: more =>
    if o.last = some r && !rest.isEmpty then do
      let (rest, g) ← g.insert final rest more
      return (o :: rest, g)
    else do
      let (top, g) ← g.closeBelow final (o :: rest)
      return (top.map ({ · with last := some r }) ++ more.map (⟨[], some ·⟩), g)
  | os, _ => some (os, g)

/-- Adds sequences of ranges in ascending order. -/
def Growth.insertAll (final : Nat) (g : Growth (List Edge)) (os : List OpenState) :
    List (List Unicode.Range) → Option (List OpenState × Growth (List Edge))
  | [] => some (os, g)
  | rs :: more => do
    let (os, g) ← g.insert final os rs
    g.insertAll final os more

/-- The states of a set, which share what is alike at their ends. -/
def takeSet (s : Space) (set : Unicode.RangeSet) : Option Space := do
  let final := s.states
  let g : Growth (List Edge) := ⟨← s.plain 1, .ofRoom 10000⟩
  let (os, g) ← g.insertAll final [⟨[], none⟩] (set.ranges.flatMap byteRanges)
  let (_, g) ← g.close final os
  return g.space

/-! ## Sets read backwards -/

/-- Adds a state for each range of a sequence, the last byte being read first, unless it is
remembered. -/
def Growth.prepend (g : Growth Edge) (target : Nat) : List Unicode.Range → Option (Growth Edge)
  | [] => some g
  | (lo, hi) :: more =>
    let hash := mix (mix (mix mixStart target) lo) hi
    let place := (hash % g.memory.room.toUInt64).toNat
    match g.memory.find? place (lo, hi, target) with
    | some id => g.prepend id more
    | none => do
      let space ← g.space.plain 1
      let id := g.space.states
      Growth.prepend ⟨space, g.memory.put place (lo, hi, target) id⟩ id more

def Growth.prependAll (final : Nat) (g : Growth Edge) :
    List (List Unicode.Range) → Option (Growth Edge)
  | [] => some g
  | rs :: more => do
    let g ← g.prepend final rs
    let space ← g.space.jumps 1
    Growth.prependAll final { g with space := space } more

/-- The states of a set that is read from the end: a fork with a way for each sequence. -/
def takeSetBackwards (s : Space) (set : Unicode.RangeSet) : Option Space := do
  let final := s.states + 1
  let g : Growth Edge := ⟨← s.plain 2, .ofRoom 1000⟩
  let g ← g.prependAll final (set.ranges.flatMap byteRanges)
  return g.space

/-! ## Choices of literals -/

/-- Literals by their first bytes. The edges are in groups; a literal that ends here divides those
added before it from those added later, the latest group first. -/
inductive Trie where
  | leaf
  | edge (byte : Nat) (target next : Trie)
  | ending (earlier : Trie)

namespace Trie

def isLeaf : Trie → Bool
  | .edge .. => false
  | .ending earlier => earlier.isLeaf
  | .leaf => true

/-- A new way for some bytes. -/
def ofBytes : List Nat → Trie
  | [] => .ending .leaf
  | b :: bs => .edge b (ofBytes bs) .leaf

/-- Adds a literal. A second literal that ends where no edge begins adds nothing. -/
def insert : Trie → List Nat → Trie
  | .edge b target next, [] => .ending (.edge b target next)
  | .leaf, [] => .ending .leaf
  | .ending earlier, [] => if earlier.isLeaf then .ending earlier else .ending (.ending earlier)
  | .leaf, b :: bs => .edge b (ofBytes bs) .leaf
  | .ending earlier, b :: bs => .edge b (ofBytes bs) (.ending earlier)
  | .edge c target next, b :: bs =>
    if b < c then .edge b (ofBytes bs) (.edge c target next)
    else if b = c then .edge c (insert target bs) next
    else .edge c target (insert next (b :: bs))

/-- The space of a group with so many edges. -/
def takeGroup (s : Space) (edges : Nat) : Option Space :=
  match edges with
  | 0 => some s
  | 1 => s.plain 1
  | n => s.reading n

/-- The space of the states below, given the edges of the group so far and the ways of the fork. -/
def takeWithin (s : Space) (edges ways : Nat) : Trie → Option Space
  | .leaf => do
    let s ← takeGroup s edges
    s.take 1 (Space.bytesPerJump * (ways + if edges = 0 then 0 else 1))
  | .ending earlier => do
    let s ← takeGroup s edges
    takeWithin s 0 (ways + (if edges = 0 then 0 else 1) + 1) earlier
  | .edge _ target next => do
    let s ← if target.isLeaf then some s else takeWithin s 0 0 target
    takeWithin s (edges + 1) ways next

end Trie

/-- The literals of a choice, if all alternatives are literals. -/
def literals? (ps : List Pattern) : Option (List (List Nat)) :=
  ps.mapM fun
    | .literal cs => some (cs.flatMap fun c => utf8 c.toNat)
    | _ => none

/-- The states of a choice of literals, which share their first bytes, or their last. -/
def takeLiterals (backwards : Bool) (s : Space) (ls : List (List Nat)) : Option Space := do
  let trie := ls.foldl (fun t bs => t.insert (if backwards then bs.reverse else bs)) Trie.leaf
  trie.takeWithin (← s.plain 1) 0 0

/-! ## All patterns -/

/-- Takes space `n` times. -/
def takeTimes (f : Space → Option Space) : Nat → Space → Option Space
  | 0, s => some s
  | n + 1, s => do takeTimes f n (← f s)

/-- The space of exactly `n` times a part: whether it ends in a fork too. -/
def takeExactly (f : Space → Option (Space × Bool)) (n : Nat) (s : Space) :
    Option (Space × Bool) :=
  match n with
  | 0 => do return (← s.plain 1, false)
  | n + 1 => do
    let (s, fork) ← f s
    let s ← takeTimes (fun s => do (← f s).1.goOn fork) n s
    return (s, fork)

/-- The space of at least `n` times a part, which ends in a fork. A part that can be empty is made a
loop that is entered or not. -/
def takeAtLeast (f : Space → Option (Space × Bool)) (canBeEmpty : Bool) (n : Nat) (s : Space) :
    Option (Space × Bool) := do
  match n with
  | 0 =>
    if canBeEmpty then
      let (s, fork) ← f s
      let s ← (← s.plain 3).jumps 4
      return (← s.goOn fork, false)
    else
      let (s, fork) ← f (← s.plain 1)
      return (← (← s.goOn fork).jumps 1, true)
  | 1 =>
    let (s, fork) ← f s
    return (← (← (← s.plain 1).goOn fork).jumps 1, true)
  | n + 2 =>
    let (s, fork) ← takeExactly f (n + 1) s
    let (s, _) ← f (← s.goOn fork)
    return (← (← (← s.plain 1).goOn fork).jumps 1, true)

/-- The space of a part that is there or not, so many times more. -/
def takeOptional (f : Space → Option (Space × Bool)) : Nat → Bool → Space → Option Space
  | 0, fork, s => s.goOn fork
  | n + 1, fork, s => do
    let (s, next) ← f (← s.plain 1)
    takeOptional f n next (← (← s.goOn fork).jumps 2)

/-- Where a pattern stands among alternatives. -/
inductive Place where
  | alone
  | second
  | later

/-- The space of a pattern, and whether it ends in a fork. The fork of a choice and the state in which
its alternatives meet come after the second of them. -/
def takePattern (backwards : Bool) : Place → Pattern → Space → Option (Space × Bool)
  | _, .empty, s | _, .look _, s => do return (← s.plain 1, false)
  | _, .literal cs, s => do
    return (← s.plain ((cs.map fun c => byteLength c.toNat).sum), false)
  | _, .set chars bytes, s => do
    if bytes || chars.isAscii then return (← (← s.plain 1).reading chars.ranges.length, false)
    else if backwards then return (← takeSetBackwards s chars, false)
    else return (← takeSet s chars, false)
  | _, .repeated p least most _, s => do
    match most with
    | none =>
      takeAtLeast (takePattern backwards .alone p) (!p.minLength?.any (0 < ·)) least s
    | some most =>
      if least = 0 && most = 1 then
        let (s, fork) ← takePattern backwards .alone p (← s.plain 1)
        return (← (← (← s.plain 1).jumps 2).goOn fork, false)
      else
        let (s, fork) ← takeExactly (takePattern backwards .alone p) least s
        if least = most then return (s, fork)
        else
          let s ← s.plain 1
          return (← takeOptional (takePattern backwards .alone p) (most - least) fork s, false)
  | _, .capture _ p, s => do
    if backwards then takePattern backwards .alone p s
    else
      let (s, fork) ← takePattern backwards .alone p (← s.plain 1)
      return (← (← s.plain 1).goOn fork, false)
  | _, .seq p rest, s => do
    if backwards then
      let (s, fork) ← takePattern backwards .alone rest s
      takePattern backwards .alone p (← s.goOn fork)
    else
      let (s, fork) ← takePattern backwards .alone p s
      takePattern backwards .alone rest (← s.goOn fork)
  | .alone, .alt p rest, s => do
    match literals? (p :: rest.alternatives) with
    | some ls => return (← takeLiterals backwards s ls, false)
    | none =>
      let (s, fork) ← takePattern backwards .alone p s
      let (s, last) ← takePattern backwards .second rest (← s.goOn fork)
      let s ← if rest.alternatives.length = 1 then s.plain 2 else some s
      return (← (← s.jumps 2).goOn last, false)
  | place, .alt p rest, s => do
    let (s, fork) ← takePattern backwards .alone p s
    let s ← match place with
      | .second => s.plain 2
      | _ => some s
    takePattern backwards .later rest (← (← s.jumps 1).goOn fork)

/-- The space of a machine. One that may match anywhere first steps over any bytes; the one that reads
forwards notes where the match begins and ends. -/
def takeMachine (backwards : Bool) (p : Pattern) : Option Space := do
  let start : Space := ⟨0, 0⟩
  let s ← if (if backwards then p.isEndAnchored else p.isStartAnchored) then start.plain 1
    else (← (← start.plain 2).reading 1).jumps 2
  let s ← if backwards then some s else s.plain 1
  let (s, fork) ← takePattern backwards .alone p s
  (← s.plain (if backwards then 1 else 2)).goOn fork

/-- A choice of so many literals is searched for by other means, without a machine. -/
def manyLiterals : Nat := 3000

/-- The machines of a pattern keep within the limit. -/
def fits (p : Pattern) : Bool :=
  let ps := p.alternatives
  ((literals? ps).isSome && manyLiterals ≤ ps.length)
    || ((takeMachine false p).isSome && (takeMachine true p).isSome)

end MediaCatalog.Pattern
