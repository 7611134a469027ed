import MediaCatalog.Binary64.Basic
/-!
# Doubles and decimals

Reading scales a significand of at most 64 bits by a power of ten, each of the two rounded to a
double and their product or quotient rounded again. Writing takes the fewest digits that lie
nearest to the double.
-/

namespace MediaCatalog

namespace Binary64

/-! ## Reading -/

/-- The double nearest to `10 ^ k`; `none` past the largest. -/
def tenPow? (k : Nat) : Option Binary64 :=
  nearest? false (Nat.pow 10 k) 1

/-- The double nearest to the product of two magnitudes; `none` past the largest. -/
def mul? (x y : Binary64) : Option Binary64 :=
  nearest? x.negative (x.numerator * y.numerator) (x.denominator * y.denominator)

/-- The double nearest to the quotient of two magnitudes; `none` past the largest. -/
def div? (x y : Binary64) : Option Binary64 :=
  nearest? x.negative (x.numerator * y.denominator) (x.denominator * y.numerator)

/-- The largest power of ten that is applied in one step. -/
def largestTenPow : Nat := 308

/-- Scales by `10 ^ e`. An exponent below `-308` is taken off in steps of `308`; after three of
them any 64-bit significand has become zero. -/
def scale? : Nat → Binary64 → Int → Option Binary64
  | 0, x, _ => some (zero x.negative)
  | fuel + 1, x, e =>
    if e.natAbs ≤ largestTenPow then
      (tenPow? e.natAbs).bind fun p => if 0 ≤ e then mul? x p else div? x p
    else if x.isZero then some x
    else if 0 ≤ e then none
    else
      (tenPow? largestTenPow).bind fun p =>
        (div? x p).bind fun y => scale? fuel y (e + largestTenPow)

theorem isFinite_of_scale? {fuel : Nat} {x y : Binary64} {e : Int} (h : scale? fuel x e = some y) :
    y.isFinite = true := by
  induction fuel generalizing x e with
  | zero =>
    obtain rfl := Option.some.inj h
    exact isFinite_of_isZero rfl
  | succ fuel ih =>
    rw [scale?] at h
    split at h
    · obtain ⟨p, -, h⟩ := Option.bind_eq_some_iff.1 h
      split at h
      · exact isFinite_of_nearest? h
      · exact isFinite_of_nearest? h
    · split at h
      next hzero =>
        obtain rfl := Option.some.inj h
        exact isFinite_of_isZero hzero
      next =>
        split at h
        · cases h
        · obtain ⟨p, -, h⟩ := Option.bind_eq_some_iff.1 h
          obtain ⟨z, -, h⟩ := Option.bind_eq_some_iff.1 h
          exact ih h

/-- The double read from `significand` times `10 ^ e`; `none` when it is out of range. -/
def ofDecimal? (negative : Bool) (significand : Nat) (e : Int) : Option Binary64 :=
  (nearest? negative significand 1).bind fun x => scale? 4 x e

/-- What is read is a number. -/
theorem isFinite_of_ofDecimal? {negative : Bool} {significand : Nat} {e : Int} {x : Binary64}
    (h : ofDecimal? negative significand e = some x) : x.isFinite = true := by
  obtain ⟨y, -, h⟩ := Option.bind_eq_some_iff.1 h
  exact isFinite_of_scale? h

/-- The double nearest to `digits` times `10 ^ e`, rounded once; `none` past the largest. Far from
all doubles the power of ten is not computed. -/
def nearestDecimal? (digits : Nat) (e : Int) : Option Binary64 :=
  let magnitude : Int := (Nat.toDigits 10 digits).length + e
  if digits = 0 || magnitude < -400 then some (zero false)
  else if 400 < magnitude then none
  else nearest? false (digits * Nat.pow 10 e.toNat) (Nat.pow 10 (-e).toNat)

/-! ## Writing -/

/-- A positive decimal: the number `digits` times `10 ^ exponent`. -/
structure Decimal where
  digits : Nat
  exponent : Int
deriving DecidableEq

/-- Drops trailing zeros of the digits. -/
def Decimal.trim : Nat → Decimal → Decimal
  | 0, d => d
  | fuel + 1, d =>
    if d.digits ≠ 0 ∧ d.digits % 10 = 0 then Decimal.trim fuel ⟨d.digits / 10, d.exponent + 1⟩ else d

/-- The number of decimal digits, one for zero. -/
def digitCount (n : Nat) : Nat :=
  (Nat.toDigits 10 n).length

/-- The `k` with `10 ^ (k - 1) ≤ num / den < 10 ^ k`, for a positive fraction. -/
def decimalPoint (num den : Nat) : Int :=
  let k : Int := (digitCount num : Int) - digitCount den
  if num * Nat.pow 10 (-k).toNat < den * Nat.pow 10 k.toNat then k else k + 1

/-- The nearer of two neighbours on the grid of `unit.1 / unit.2` among those that round to the
double. Values are counted in quarters of the double's last place: the double is `4 * m`, and the
points that round to it reach from `low` to `high`, ends included when `m` is even. -/
def gridPoint? (m low high : Nat) (unit : Nat × Nat) : Option Nat :=
  let value := 4 * m * unit.2
  let c := value / unit.1
  let inside (d : Nat) : Bool :=
    if m % 2 = 0 then low * unit.2 ≤ d * unit.1 ∧ d * unit.1 ≤ high * unit.2
    else low * unit.2 < d * unit.1 ∧ d * unit.1 < high * unit.2
  let below := value - c * unit.1
  let above := (c + 1) * unit.1 - value
  let first := if below < above ∨ below = above ∧ c % 2 = 0 then c else c + 1
  let second := if first = c then c + 1 else c
  if inside first then some first else if inside second then some second else none

/-- The unit `10 ^ p`, counted in quarters of the last place, `2 ^ (e - 2)`. -/
def gridUnit (p e : Int) : Nat × Nat :=
  (Nat.pow 10 p.toNat * Nat.pow 2 (2 - e).toNat, Nat.pow 10 (-p).toNat * Nat.pow 2 (e - 2).toNat)

/-- Tries ever finer grids, from `n` digits on, until one has a point that reads back. -/
def shortestFrom (m : Nat) (e : Int) (low : Nat) (k : Int) : Nat → Nat → Decimal
  | 0, n => ⟨4 * m * (gridUnit (k - n) e).2 / (gridUnit (k - n) e).1, k - n⟩
  | fuel + 1, n =>
    match gridPoint? m low (4 * m + 2) (gridUnit (k - n) e) with
    | some d => ⟨d, k - n⟩
    | none => shortestFrom m e low k fuel (n + 1)

/-- The decimal with the fewest digits that rounds to the magnitude of `x`, the nearest of these. -/
def shortest (x : Binary64) : Decimal :=
  if x.isZero then ⟨0, 0⟩ else
    let m := x.significand
    let low := if m = binade ∧ -1074 < x.exponent then 4 * m - 1 else 4 * m - 2
    (shortestFrom m x.exponent low (decimalPoint x.numerator x.denominator) 17 1).trim 17

/-! ## Notations -/

/-- How a decimal is written: the exponents of the first digit that are written without a power of
ten, whether a whole number ends in `.0`, and how an exponent is written. -/
structure Style where
  least : Option Int
  most : Option Int
  wholePoint : Bool
  exponentPoint : Bool
  exponentWidth : Nat

/-- The notation of JSON documents. -/
def Style.json : Style := ⟨some (-5), some 15, true, false, 1⟩

/-- Digits only, however many, with a point where there is a fraction. -/
def Style.plain : Style := ⟨none, none, false, false, 1⟩

/-- The notation of numbers that are compared as text. -/
def Style.column : Style := ⟨some (-4), some 14, true, true, 2⟩

private def padLeft (width : Nat) (cs : List Char) : List Char :=
  List.replicate (width - cs.length) '0' ++ cs

/-- Writes a decimal in a style. -/
def Decimal.write (s : Style) (d : Decimal) : List Char :=
  let ds := Nat.toDigits 10 d.digits
  let point : Int := ds.length + d.exponent
  let first := point - 1
  if s.least.all (· ≤ first) && s.most.all (first ≤ ·) then
    if 0 ≤ d.exponent then
      ds ++ List.replicate d.exponent.toNat '0' ++ (if s.wholePoint then ['.', '0'] else [])
    else if 0 < point then
      ds.take point.toNat ++ '.' :: ds.drop point.toNat
    else
      '0' :: '.' :: (List.replicate (-point).toNat '0' ++ ds)
  else
    let fraction := ds.drop 1
    ds.take 1
      ++ (if fraction.isEmpty then (if s.exponentPoint then ['.', '0'] else []) else '.' :: fraction)
      ++ 'e' :: (if first < 0 then '-' else '+') :: padLeft s.exponentWidth (Nat.toDigits 10 first.natAbs)

/-- The sign, then the decimal. -/
def write (s : Style) (x : Binary64) (d : Decimal) : String :=
  String.ofList ((if x.negative then ['-'] else []) ++ d.write s)

/-- Shortest digits, a point or an exponent always shown. Documents have no infinity. -/
def jsonText (x : Binary64) : String :=
  if x.isFinite then x.write .json x.shortest else "null"

/-- Shortest digits, written out in full. -/
def plainText (x : Binary64) : String :=
  if x.isFinite then x.write .plain x.shortest else if x.negative then "-inf" else "inf"

end Binary64

/-- The digits of a number, written out in full. -/
def Double.plainText : Double → String
  | number x => x.plainText
  | notANumber => "NaN"

end MediaCatalog
