import MediaCatalog.Binary64.Basic
/-!
# Wide numbers

A wide number has a significand of 64 bits, eleven more than a double, and an exponent without
limits. Scaling by powers of ten is done in wide numbers, each product rounded to the nearest.
-/

namespace MediaCatalog

/-- The magnitude `significand` times two to the `exponent`. -/
structure Wide where
  significand : Nat
  exponent : Int
deriving DecidableEq

namespace Wide

/-- The wide number nearest to `m * 2 ^ e`, a half going to the even neighbour. -/
def round (m : Nat) (e : Int) : Wide :=
  let excess := m.log2 - 63
  if excess = 0 then ⟨m, e⟩ else ⟨Binary64.divHalfEven m (Nat.pow 2 excess), e + excess⟩

def ofNat (n : Nat) : Wide := round n 0

/-- The wide number nearest to `1 / n`. -/
def reciprocal (n : Nat) : Wide :=
  let shift := n.log2 + 64
  let quotient := Nat.pow 2 shift / n
  let fits : Int := if quotient.log2 = 63 then shift else shift - 1
  ⟨Binary64.divHalfEven (Nat.pow 2 fits.toNat) n, -fits⟩

def mul (a b : Wide) : Wide :=
  round (a.significand * b.significand) (a.exponent + b.exponent)

/-- The numerator of the value as a fraction. -/
def numerator (a : Wide) : Nat := a.significand * Nat.pow 2 a.exponent.toNat

/-- The denominator of the value as a fraction, a power of two. -/
def denominator (a : Wide) : Nat := Nat.pow 2 (-a.exponent).toNat

def lt (a b : Wide) : Bool :=
  a.numerator * b.denominator < b.numerator * a.denominator

/-- The part before the point. -/
def floor (a : Wide) : Nat := a.numerator / a.denominator

/-- The nearest double, rounded a second time; `none` past the largest. -/
def toBinary64? (negative : Bool) (a : Wide) : Option Binary64 :=
  Binary64.nearest? negative a.numerator a.denominator

/-- The power of ten `10 ^ k`, rounded. -/
def tenPow (k : Int) : Wide :=
  if 0 ≤ k then ofNat (Nat.pow 10 k.toNat) else reciprocal (Nat.pow 10 k.natAbs)

end Wide

/-- The magnitude of a double as a wide number. -/
def Binary64.wide (x : Binary64) : Wide := ⟨x.significand, x.exponent⟩

end MediaCatalog
