/-!
# Doubles

A double is a sign and a code. The code is the number read from the 63 other bits of the standard
encoding, so larger codes are larger magnitudes, and the code after the last number is infinity. All
arithmetic is exact, on naturals and integers, and is rounded once to the nearest code.
-/

namespace MediaCatalog

/-- Two to the power of 52: how many doubles there are from one power of two to the next. -/
def binade : Nat := 4503599627370496

/-- A double that is a number or infinite: its sign, and the exponent and fraction bits read as one
number. -/
structure Binary64 where
  negative : Bool
  code : Nat
  bounded : code ≤ 2047 * binade
deriving DecidableEq

namespace Binary64

/-- A number, and not infinite. -/
def isFinite (x : Binary64) : Bool :=
  x.code < 2047 * binade

/-- The value of a double is its significand times two to its exponent. That of infinity is taken to
be two to the power of 1024, which is past all numbers that it is compared with. -/
def significand (x : Binary64) : Nat :=
  if x.code < binade then x.code else x.code % binade + binade

/-- The power of two that scales the significand. -/
def exponent (x : Binary64) : Int :=
  if x.code < binade then -1074 else (x.code / binade : Nat) - 1075

/-- The absolute value is `numerator / denominator`. -/
def numerator (x : Binary64) : Nat :=
  x.significand * Nat.pow 2 x.exponent.toNat

/-- A power of two, one unless the exponent is negative. -/
def denominator (x : Binary64) : Nat :=
  Nat.pow 2 (-x.exponent).toNat

/-- The numerator with the sign of the double. -/
def signed (x : Binary64) : Int :=
  if x.negative then -(x.numerator : Int) else x.numerator

/-- Zero with either sign. -/
def isZero (x : Binary64) : Bool :=
  x.code == 0

theorem isFinite_of_isZero {x : Binary64} (h : x.isZero = true) : x.isFinite = true := by
  have hcode : x.code = 0 := eq_of_beq h
  rw [isFinite, hcode]
  decide

def zero (negative : Bool) : Binary64 := ⟨negative, 0, by decide⟩

/-- The finite double of the largest magnitude. -/
def largest (negative : Bool) : Binary64 := ⟨negative, 2047 * binade - 1, by decide⟩

def infinity (negative : Bool) : Binary64 := ⟨negative, 2047 * binade, Nat.le_refl _⟩

/-- Zero loses its sign, all else is kept. -/
def withoutSignedZero (x : Binary64) : Binary64 :=
  if x.isZero then zero false else x

/-! ## Rounding -/

/-- The natural nearest to `num / den`, a half going to the even neighbour. -/
def divHalfEven (num den : Nat) : Nat :=
  let q := num / den
  let r := num % den
  if 2 * r < den then q else if den < 2 * r then q + 1 else q + q % 2

/-- The fraction `num / den / 2 ^ e` as a fraction of naturals. -/
def shifted (num den : Nat) (e : Int) : Nat × Nat :=
  (num * Nat.pow 2 (-e).toNat, den * Nat.pow 2 e.toNat)

/-- The exponent of the double nearest to `num / den`, apart from a carry in rounding. -/
def exponentFor (num den : Nat) : Int :=
  if num = 0 then -1074 else
    let e := max (-1074) ((num.log2 : Int) - den.log2 - 53)
    let f := shifted num den e
    if f.1 / f.2 < 2 * binade then e else e + 1

/-- The double nearest to `num / den`, a half going to the even code; `none` past the largest. -/
def nearest? (negative : Bool) (num den : Nat) : Option Binary64 :=
  let e := exponentFor num den
  let f := shifted num den e
  let code := (e + 1074).toNat * binade + divHalfEven f.1 f.2
  if h : code < 2047 * binade then some ⟨negative, code, Nat.le_of_lt h⟩ else none

/-- What is rounded to is a number. -/
theorem isFinite_of_nearest? {negative : Bool} {num den : Nat} {x : Binary64}
    (h : nearest? negative num den = some x) : x.isFinite = true := by
  unfold nearest? at h
  dsimp only at h
  split at h
  next hcode =>
    obtain rfl := Option.some.inj h
    exact decide_eq_true hcode
  next => cases h

/-- The double nearest to an integer; `none` past the largest. -/
def ofInt? (n : Int) : Option Binary64 :=
  nearest? (n < 0) n.natAbs 1

/-! ## Order -/

/-- Compares the values of two doubles, so zeros of both signs are equal. -/
def compare (x y : Binary64) : Ordering :=
  Ord.compare (x.signed * y.denominator) (y.signed * x.denominator)

/-- Compares a double with an integer, exactly. -/
def compareInt (x : Binary64) (n : Int) : Ordering :=
  Ord.compare x.signed (n * x.denominator)

/-- Compares a double with half of an integer, exactly. -/
def compareHalves (x : Binary64) (n : Int) : Ordering :=
  Ord.compare (2 * x.signed) (n * x.denominator)

end Binary64

/-- Any double. -/
inductive Double where
  | number (x : Binary64)
  | notANumber
deriving DecidableEq

namespace Double

def number? : Double → Option Binary64
  | number x => some x
  | notANumber => none

def isFinite : Double → Bool
  | number x => x.isFinite
  | notANumber => false

theorem isFinite_iff {x : Double} : x.isFinite = true ↔ ∃ y, x = number y ∧ y.isFinite = true := by
  cases x with
  | number y => simp [isFinite]
  | notANumber => simp [isFinite]

/-- What is kept of a double: one that is no number is missing, and zero loses its sign. -/
def kept? (x : Double) : Option Double :=
  x.number?.map fun y => number y.withoutSignedZero

end Double

end MediaCatalog
