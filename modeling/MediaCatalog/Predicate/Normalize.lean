import MediaCatalog.Predicate.Basic
/-!
# Normal form

Negations are pushed down to the comparisons. A comparison takes a negation into its own inversion
unless it looks for a pattern: an inverted pattern holds of a missing value, and a negated one does
not.
-/

namespace MediaCatalog

/-- The opposite of a comparison in normal form. -/
def Comparison.negated (c : Comparison) : Predicate :=
  if c.operator.isPattern then .not (.compare c) else .compare c.flipped

namespace Predicate

mutual

/-- The normal form of a predicate, or of its negation. -/
def pushNot (negate : Bool) : Predicate → Predicate
  | .always => if negate then .never else .always
  | .never => if negate then .always else .never
  | .not p => p.pushNot (!negate)
  | .all ps => if negate then .any (pushNotAll negate ps) else .all (pushNotAll negate ps)
  | .any ps => if negate then .all (pushNotAll negate ps) else .any (pushNotAll negate ps)
  | .compare c => if negate then c.negated else .compare c
  | .linked scope filter =>
    .linked { scope with negated := scope.negated != negate } (filter.pushNot false)

def pushNotAll (negate : Bool) : List Predicate → List Predicate
  | [] => []
  | p :: ps => p.pushNot negate :: pushNotAll negate ps

end

def normalize (p : Predicate) : Predicate := p.pushNot false

mutual

/-- Nothing is negated but comparisons with a pattern. -/
def isNormalized : Predicate → Bool
  | .always | .never | .compare _ => true
  | .not (.compare c) => c.operator.isPattern
  | .not _ => false
  | .all ps => allNormalized ps
  | .any ps => allNormalized ps
  | .linked _ filter => filter.isNormalized

def allNormalized : List Predicate → Bool
  | [] => true
  | p :: ps => p.isNormalized && allNormalized ps

end

end Predicate

end MediaCatalog
