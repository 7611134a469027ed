import MediaCatalog.Predicate.Failure
import MediaCatalog.Predicate.Normalize
import MediaCatalog.Query.Compile
import MediaCatalog.Proofs.Kleene
/-!
# Induction over queries and predicates

The parts of a group are a list. Each function that goes over them is a map or a fold of what it does
with one part, so a proof is an induction with a hypothesis for every part.
-/

namespace MediaCatalog

namespace Predicate

/-- Induction with a hypothesis for each part of a group. -/
@[induction_eliminator]
theorem induction {motive : Predicate → Prop} (always : motive .always) (never : motive .never)
    (all : ∀ ps, (∀ p ∈ ps, motive p) → motive (.all ps))
    (any : ∀ ps, (∀ p ∈ ps, motive p) → motive (.any ps))
    (not : ∀ p, motive p → motive (.not p)) (compare : ∀ c, motive (.compare c))
    (linked : ∀ scope filter, motive filter → motive (.linked scope filter)) :
    ∀ p, motive p :=
  Predicate.rec (motive_2 := fun ps => ∀ p ∈ ps, motive p) always never all any not compare linked
    (by simp) (by simp_all)

variable {s : Store} {b : Subject} {negate : Bool} {within : List Relation} {ps : List Predicate}

theorem pushNotAll_eq : pushNotAll negate ps = ps.map (pushNot negate) := by
  induction ps with
  | nil => rfl
  | cons p ps ih => rw [pushNotAll, ih]; rfl

theorem evalAll_eq : evalAll s b ps = Truth.all (ps.map (eval s b)) := by
  induction ps with
  | nil => rfl
  | cons p ps ih => rw [evalAll, ih]; rfl

theorem evalAny_eq : evalAny s b ps = Truth.any (ps.map (eval s b)) := by
  induction ps with
  | nil => rfl
  | cons p ps ih => rw [evalAny, ih]; rfl

theorem areScoped_eq : areScoped within ps = (ps.map (isScoped within)).all id := by
  induction ps with
  | nil => rfl
  | cons p ps ih => rw [areScoped, ih]; rfl

theorem tests_eq : tests s ps = ps.map (test s) := by
  induction ps with
  | nil => rfl
  | cons p ps ih => rw [tests, ih]; rfl

end Predicate

namespace Query

/-- Induction with a hypothesis for each part of a group. -/
@[induction_eliminator]
theorem induction {motive : Query → Prop} (field : ∀ c, motive (.field c))
    (group : ∀ how parts, (∀ q ∈ parts, motive q) → motive (.group how parts)) :
    ∀ q, motive q :=
  Query.rec (motive_2 := fun qs => ∀ q ∈ qs, motive q) field group (by simp) (by simp_all)

end Query

end MediaCatalog
