import MediaCatalog.Predicate.Meaning
import MediaCatalog.Predicate.Reads
/-!
# Tests

A test is a condition as it is tried on a subject, where trying it may fail. The parts of a group
are tried in order until the outcome is settled. A group of one part is that part.
-/

namespace MediaCatalog

inductive Test where
  /-- A condition, and how it fails where unknown counts as a given outcome. -/
  | single (condition : Predicate) (failure? : Bool → Subject → Option StoreError)
  | all (parts : List Test)
  | any (parts : List Test)

namespace Test

/-- The group of some parts. -/
def group : Join → List Test → Test
  | _, [t] => t
  | .all, ts => all ts
  | .any, ts => any ts

mutual

/-- The condition that is tested. -/
def condition : Test → Predicate
  | single p _ => p
  | all ts => .all (conditions ts)
  | any ts => .any (conditions ts)

def conditions : List Test → List Predicate
  | [] => []
  | t :: ts => t.condition :: conditions ts

end

mutual

/-- The parts that all have to hold, groups of them taken apart. -/
def conjuncts : Test → List Test
  | all ts => conjunctsOf ts
  | t => [t]

def conjunctsOf : List Test → List Test
  | [] => []
  | t :: ts => t.conjuncts ++ conjunctsOf ts

end

mutual

/-- The parts of which one has to hold, groups of them taken apart. -/
def disjuncts : Test → List Test
  | any ts => disjunctsOf ts
  | t => [t]

def disjunctsOf : List Test → List Test
  | [] => []
  | t :: ts => t.disjuncts ++ disjunctsOf ts

end

mutual

/-- The first failure that is met where unknown counts as `other`. -/
def failure? (s : Store) (other : Bool) (b : Subject) : Test → Option StoreError
  | single _ f => f other b
  | all ts =>
    if (Predicate.settledAll? (conditions ts)).isSome then none else failureOfAll s other b ts
  | any ts =>
    if (Predicate.settledAny? (conditions ts)).isSome then none else failureOfAny s other b ts

def failureOfAll (s : Store) (other : Bool) (b : Subject) : List Test → Option StoreError
  | [] => none
  | t :: ts =>
    (t.failure? s other b).or
      (if (t.condition.eval s b).orElse other then failureOfAll s other b ts else none)

def failureOfAny (s : Store) (other : Bool) (b : Subject) : List Test → Option StoreError
  | [] => none
  | t :: ts =>
    (t.failure? s other b).or
      (if (t.condition.eval s b).orElse other then none else failureOfAny s other b ts)

end

/-! ## Trying -/

/-- What comes of trying a subject: it passes, or is refused, or a test fails. -/
abbrev Trial := Except (Option StoreError) Unit

/-- The failure of a trial. -/
def Trial.failure? : Trial → Option StoreError
  | .error e => e
  | .ok _ => none

/-- Tries one test. -/
def attempt (s : Store) (b : Subject) (t : Test) : Trial :=
  match t.failure? s false b with
  | some e => .error (some e)
  | none => if (t.condition.eval s b).isYes then .ok () else .error none

/-- Tries tests in order. -/
def attemptAll (s : Store) (b : Subject) : List Test → Trial
  | [] => .ok ()
  | t :: ts => (t.attempt s b).bind fun _ => attemptAll s b ts

end Test

end MediaCatalog
