/-!
# Three-valued truth

What is asked of a missing value is neither so nor not so. The connectives are those of Kleene.
-/

namespace MediaCatalog

inductive Truth where
  | yes
  | no
  | unknown
deriving DecidableEq

namespace Truth

def ofBool (b : Bool) : Truth := if b then yes else no

def not : Truth → Truth
  | yes => no
  | no => yes
  | unknown => unknown

def and : Truth → Truth → Truth
  | no, _ => no
  | _, no => no
  | yes, yes => yes
  | _, _ => unknown

def or : Truth → Truth → Truth
  | yes, _ => yes
  | _, yes => yes
  | no, no => no
  | _, _ => unknown

/-- Decides a truth, the unknown counting as `other`. -/
def orElse (other : Bool) : Truth → Bool
  | yes => true
  | no => false
  | unknown => other

def isYes (t : Truth) : Bool := t.orElse false

end Truth

end MediaCatalog
