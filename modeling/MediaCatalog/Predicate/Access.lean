import MediaCatalog.Predicate.Test
/-!
# Access to rows

The rows on which tests are tried are found in one of three ways: all of them are gone through, or
the conditions on the key bound them, or they are found by the key in each branch of an alternative
on its own. The cheapest way is taken; a cost is a logarithm, ten to a doubling.
-/

namespace MediaCatalog

/-! ## Costs -/

/-- By how much a cost grows when one that is less by `d` is added. -/
def costMargin (d : Nat) : Nat :=
  [10, 10, 9, 9, 8, 8, 7, 7, 7, 6, 6, 6, 5, 5, 5, 4, 4, 4, 4, 3, 3, 3, 3, 3, 3, 2, 2, 2, 2, 2, 2,
    2].getD d (if d ≤ 49 then 1 else 0)

/-- The cost of two things together. -/
def addCost (a b : Nat) : Nat := max a b + costMargin (max a b - min a b)

/-! ## Bounds -/

/-- What a comparison with a key says of where rows are found. -/
inductive Bound where
  | point
  | missing
  | least
  | most
  | beginning
deriving DecidableEq

/-- The text that a key has to begin with, which ends at the first NUL. -/
def Comparison.beginningText (c : Comparison) : String :=
  String.ofList (Cell.untilNul c.boundText)

/-- The bound that a comparison sets for a key. -/
def Comparison.bound? (key : Column) (c : Comparison) : Option Bound :=
  if c.column ≠ key || c.modifier.isSome then none
  else
    match c.operator, c.inverted with
    | .equal, false => some .point
    | .empty, false => some .missing
    | .less, false | .lessOrEqual, false => some .most
    | .less, true | .lessOrEqual, true => some .least
    | .startsWith, false => if c.beginningText = "" then none else some .beginning
    | _, _ => none

/-- Rows that are found by their key: the conditions that they satisfy, the comparison that need not
be tried on them any more, and the cost. -/
structure KeyAccess where
  conditions : List Predicate
  settles : Option Comparison
  cost : Nat

namespace KeyAccess

/-- A key is not less than the beginning that it has to have. -/
def fromBeginning (c : Comparison) : Predicate :=
  .compare { c with operator := .less, operand := some (.text c.beginningText), inverted := true }

/-- A key is less than every text after those that have the beginning. -/
def toBeginning (c : Comparison) : Predicate :=
  let text := some (Operand.text c.beginningText)
  .any [.compare { c with operator := .less, operand := text }, .compare { c with operand := text }]

/-- The lower end of a range of keys. -/
def lower? (keys : List (Comparison × Bound)) : Option Predicate :=
  ((keys.find? (·.2 = .least)).map fun k => .compare k.1).or
    ((keys.find? (·.2 = .beginning)).map fun k => fromBeginning k.1)

/-- The upper end of a range of keys. -/
def upper? (keys : List (Comparison × Bound)) : Option Predicate :=
  ((keys.find? (·.2 = .most)).map fun k => .compare k.1).or
    ((keys.find? (·.2 = .beginning)).map fun k => toBeginning k.1)

/-- A beginning that alone bounds a range on both sides is settled by it. A text with a NUL in it
is not all of the beginning. -/
def settled? (keys : List (Comparison × Bound)) : Option Comparison :=
  if keys.any fun k => k.2 = .least || k.2 = .most then none
  else
    ((keys.find? (·.2 = .beginning)).map (·.1)).filter fun c => c.beginningText = c.boundText

/-- The cheapest way by the key: one row, those without a key, a range, or half of the rows. -/
def ofKeys? (keys : List (Comparison × Bound)) : Option KeyAccess :=
  match keys.find? (·.2 = .point), keys.find? (·.2 = .missing) with
  | some k, _ => some ⟨[.compare k.1], none, 46⟩
  | none, some k => some ⟨[.compare k.1], none, 49⟩
  | none, none =>
    match lower? keys, upper? keys with
    | some p, some q => some ⟨[p, q], settled? keys, 164⟩
    | some p, none => some ⟨[p], none, 204⟩
    | none, some q => some ⟨[q], none, 204⟩
    | none, none => none

end KeyAccess

/-! ## Sources -/

/-- A row that may be tried, and whether it is one of those that are looked for. -/
structure Candidate where
  subject : Subject
  isAdmitted : Bool

/-- Where the rows come from that tests are tried on. -/
structure Source where
  /-- The column by which single rows are found. -/
  key : Column
  /-- The columns of the rows. -/
  owns : Column → Bool
  /-- The columns that are looked up when all else has been tried on a row. -/
  isLate : Column → Bool
  /-- What is there before any row. -/
  outer : Option Subject
  rows : List Candidate
  /-- The cost of going through all rows. -/
  cost : Nat

namespace Source

/-- A test that asks nothing of a row is tried once, before all rows. -/
def isEarly (src : Source) (t : Test) : Bool :=
  !t.condition.readsAny src.owns && !t.condition.hasFilter && !t.condition.hasWildcard

def isLateTest (src : Source) (t : Test) : Bool := t.condition.readsAny src.isLate

/-- The comparisons with the key, and their bounds. -/
def keys (src : Source) (ts : List Test) : List (Comparison × Bound) :=
  ts.filterMap fun t =>
    match t.condition with
    | .compare c => (c.bound? src.key).map (c, ·)
    | _ => none

def keyAccess? (src : Source) (ts : List Test) : Option KeyAccess :=
  KeyAccess.ofKeys? (src.keys ts)

/-- A test that is tried also within each branch of an alternative. -/
def isShared (src : Source) (t : Test) : Bool :=
  match t.condition with
  | .compare c =>
    match c.operator with
    | .equal => !c.inverted && c.modifier.isNone && !src.isLate c.column
    | .less | .lessOrEqual => c.modifier.isNone && !src.isLate c.column
    | .empty => !c.inverted && c.modifier.isNone && c.column = src.key
    | .contains | .startsWith | .endsWith | .matches => c.inverted
  | .any _ => !t.condition.hasFilter
  | _ => false

/-- The cost of finding the rows of every branch by the key, with the help of other tests. -/
def branchCost? (src : Source) (others : List Test) : List (List Test) → Option Nat
  | [] => none
  | [branch] => (src.keyAccess? (branch ++ others)).map (·.cost)
  | branch :: rest => do
    return addCost (← (src.keyAccess? (branch ++ others)).map (·.cost))
      (← src.branchCost? others rest)

/-- How the rows are found. -/
inductive Route where
  | scan
  | key (access : KeyAccess)
  /-- By the branches of the choice at a place among the tests. -/
  | branches (place : Nat) (branches : List (List Test))

/-- The cost of a choice, one more than that of its branches. -/
def choiceCost? (src : Source) (ts : List Test) (choice : Test) : Option Nat :=
  match choice.disjuncts with
  | [_] => none
  | branches => (src.branchCost? ts (branches.map Test.conjuncts)).map (· + 1)

/-- The cheapest way so far, or the choice at a place if that is cheaper. -/
def orChoice (src : Source) (ts : List Test) (found : Route × Nat) (choice : Test × Nat) :
    Route × Nat :=
  match src.choiceCost? ts choice.1 with
  | some n =>
    if n < found.2 then (.branches choice.2 (choice.1.disjuncts.map Test.conjuncts), n) else found
  | none => found

/-- The cheapest way to the rows. -/
def route (src : Source) (ts : List Test) : Route :=
  let found : Route × Nat :=
    match (src.keyAccess? ts).filter (·.cost < src.cost) with
    | some access => (.key access, access.cost)
    | none => (.scan, src.cost)
  (ts.zipIdx.foldl (src.orChoice ts) found).1

/-! ## Trying rows -/

/-- Tests in the order in which they are tried on a row: what is settled by the key alone, when the
row is found by it, and the rest. Filters that vary come last, except among late tests. -/
def inOrder (src : Source) (byKey : Bool) (ts : List Test) : List Test × List Test :=
  let (late, now) := ts.partition src.isLateTest
  let (varying, fixed) := now.partition (·.condition.varies)
  let (first, second) := fixed.partition fun t =>
    byKey && t.condition.spares fun c => src.owns c && c ≠ src.key
  (first, second ++ varying ++ late)

/-- Tries tests on a row, with those of its key before it is asked whether it is admitted. -/
def attemptRow (src : Source) (s : Store) (byKey : Bool) (ts : List Test) (x : Candidate) : Test.Trial :=
  let (first, second) := src.inOrder byKey ts
  (Test.attemptAll s x.subject first).bind fun _ =>
    if x.isAdmitted then Test.attemptAll s x.subject second else .error none

/-- The rows that satisfy the conditions of an access. -/
def rowsBy (src : Source) (s : Store) (a : KeyAccess) : List Candidate :=
  src.rows.filter fun x => a.conditions.all fun p => (p.eval s x.subject).isYes

/-- The tests that an access leaves to be tried. -/
def remaining (a : KeyAccess) (ts : List Test) : List Test :=
  match a.settles with
  | none => ts
  | some c =>
    ts.filter fun t =>
      match t.condition with
      | .compare d => d ≠ c
      | _ => true

/-- Tries the tests that come before any row. -/
def attemptEarly (src : Source) (s : Store) (ts : List Test) : Test.Trial :=
  match src.outer with
  | some b => Test.attemptAll s b (ts.filter src.isEarly)
  | none => .ok ()

/-- The failure in one branch of a choice: on a row that the branch finds, or, where that passes, in
the tests after it. -/
def branchFailure? (src : Source) (s : Store) (branch after : List Test) : Option StoreError :=
  match src.attemptEarly s branch with
  | .error e => e
  | .ok _ =>
    let ts := branch.filter fun t => !src.isEarly t && !src.isLateTest t
    match src.keyAccess? ts with
    | none => none
    | some a =>
      (src.rowsBy s a).findSome? fun x =>
        Test.Trial.failure? do
          src.attemptRow s true (remaining a ts) x
          src.attemptRow s false after x

/-- The first failure that is met when rows are looked for on which all tests hold. -/
def failure? (src : Source) (s : Store) (ts : List Test) : Option StoreError :=
  match src.attemptEarly s ts with
  | .error e => e
  | .ok _ =>
    let ts := ts.filter fun t => !src.isEarly t
    match src.route ts with
    | .scan =>
      (src.rows.filter (·.isAdmitted)).findSome? fun x => (src.attemptRow s false ts x).failure?
    | .key a =>
      (src.rowsBy s a).findSome? fun x => (src.attemptRow s true (remaining a ts) x).failure?
    | .branches place branches =>
      let others := ts.eraseIdx place
      let after := if ts[place]?.any src.isLateTest then ts else others
      branches.findSome? fun branch =>
        src.branchFailure? s (branch ++ others.filter src.isShared) after

end Source

end MediaCatalog
