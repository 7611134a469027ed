import MediaCatalog.Binary64.Wide
import MediaCatalog.Binary64.Decimal
import MediaCatalog.Text.Blank
/-!
# Numbers in columns

A number is compared as text with fifteen significant digits. A text is compared as a number if all
of it is one. Both ways the scaling by powers of ten goes in steps of hundred, ten and one places,
each rounded to a wide number.
-/

namespace MediaCatalog

/-! ## Writing -/

namespace Wide

/-- Multiplies by `10 ^ step` while the test holds, and keeps count of the places. -/
def scaleWhile (test : Wide → Bool) (step : Int) : Nat → Wide × Int → Wide × Int
  | 0, x => x
  | fuel + 1, (a, places) =>
    if test a then scaleWhile test step fuel (a.mul (tenPow step), places - step) else (a, places)

/-- As many steps as any double needs. -/
def scaleFuel : Nat := 16

/-- Scales a positive number to between `10 ^ 17` and `10 ^ 19`, and gives the places taken off. -/
def toNineteenDigits (a : Wide) : Wide × Int :=
  let atLeast (k : Int) (b : Wide) : Bool := !b.lt (tenPow k)
  let below (k : Int) (b : Wide) : Bool := b.lt (tenPow k)
  if atLeast 19 a then
    scaleWhile (atLeast 19) (-1) scaleFuel <|
      scaleWhile (atLeast 29) (-10) scaleFuel <|
        scaleWhile (atLeast 119) (-100) scaleFuel (a, 0)
  else
    scaleWhile (below 17) 1 scaleFuel <|
      scaleWhile (below 7) 10 scaleFuel <|
        scaleWhile (below (-97)) 100 scaleFuel (a, 0)

end Wide

namespace Binary64

/-- A decimal cut to `n` digits; the first digit that is dropped decides whether it is rounded up. -/
def Decimal.cut (n : Nat) (d : Decimal) : Decimal :=
  let excess := digitCount d.digits - n
  if excess = 0 then d else
    let dropped := Nat.pow 10 (excess - 1)
    ⟨(d.digits / dropped + 5) / 10, d.exponent + excess⟩

/-- Fifteen significant digits of a number that has been scaled to whole digits. -/
def columnDigits (x : Binary64) : Decimal :=
  if x.isZero then ⟨0, 0⟩ else
    let (a, places) := x.wide.toNineteenDigits
    Decimal.cut 15 ⟨a.floor, places⟩

/-- Fifteen significant digits less trailing zeros. Zero has no sign. -/
def columnText (x : Binary64) : String :=
  if x.isFinite then x.withoutSignedZero.write .column (x.columnDigits.trim 20)
  else if x.negative then "-Inf" else "Inf"

end Binary64

/-! ## Reading -/

/-- A text that is a number: its sign, its digits, the power of ten that they are scaled by, and
whether it is written without a point and an exponent. -/
structure Numeral where
  negative : Bool
  digits : List Char
  exponent : Int
  isWhole : Bool

namespace Numeral

def digitValue (d : Char) : Nat := d.toNat - '0'.toNat

/-- A sign that may be in front of digits: whether it is a minus, and what comes after it. -/
def splitSign : List Char → Bool × List Char
  | '-' :: rest => (true, rest)
  | '+' :: rest => (false, rest)
  | cs => (false, cs)

/-- An exponent stops growing at ten thousand, where every number is zero or too large. -/
def powerOf (ds : List Char) : Nat :=
  ds.foldl (fun n d => if n < 10000 then n * 10 + digitValue d else 10000) 0

/-- A point and the digits after it. -/
def splitFraction : List Char → Option (List Char) × List Char
  | '.' :: rest => (some (rest.takeWhile Char.isDigit), rest.dropWhile Char.isDigit)
  | cs => (none, cs)

/-- An exponent, which has a digit; none if there is no letter that begins one. -/
def splitPower : List Char → Option (Option Int × List Char)
  | c :: rest =>
    if c = 'e' || c = 'E' then
      let (below, rest) := splitSign rest
      let ds := rest.takeWhile Char.isDigit
      if ds.isEmpty then none
      else
        some (some (if below then -(powerOf ds : Int) else powerOf ds), rest.dropWhile Char.isDigit)
    else some (none, c :: rest)
  | [] => some (none, [])

/-- Reads a whole text as a number. Blanks may stand around it and a sign in front of it, and there
is a digit before or after the point. -/
def ofText? (cs : List Char) : Option Numeral := do
  let (negative, cs) := splitSign (cs.dropWhile Text.isAsciiBlank)
  let whole := cs.takeWhile Char.isDigit
  let (fraction, cs) := splitFraction (cs.dropWhile Char.isDigit)
  let (power, cs) ← splitPower cs
  let digits := whole ++ fraction.getD []
  if digits.isEmpty || !cs.all Text.isAsciiBlank then none
  else
    some ⟨negative, digits, power.getD 0 - (fraction.getD []).length,
      fraction.isNone && power.isNone⟩

/-- A significand from which on no more digits are taken. -/
def fullSignificand : Nat := 1844674407370955160

/-- The digits that are taken, as a number, and how many are not. -/
def significand (ds : List Char) : Nat × Nat :=
  ds.foldl (fun (s, dropped) d =>
    if s < fullSignificand then (s * 10 + digitValue d, dropped) else (s, dropped + 1)) (0, 0)

/-- Moves places from the exponent into the significand and back while that is exact. -/
def balance : Nat → Nat → Int → Nat × Int
  | 0, s, e => (s, e)
  | fuel + 1, s, e =>
    if 0 < e ∧ s ≤ fullSignificand then balance fuel (s * 10) (e - 1)
    else if e < 0 ∧ s % 10 = 0 then balance fuel (s / 10) (e + 1)
    else (s, e)

/-- Multiplies by ten to the `e`, in steps of hundred, ten and one places. -/
def scale (a : Wide) (e : Int) : Wide :=
  let sign : Int := if e < 0 then -1 else 1
  let steps (count : Nat) (step : Int) (a : Wide) : Wide :=
    Nat.repeat (·.mul (Wide.tenPow (sign * step))) count a
  steps (e.natAbs % 10) 1 <| steps (e.natAbs % 100 / 10) 10 <| steps (e.natAbs / 100) 100 a

/-- The double that a number is taken for; `none` past the largest. -/
def toBinary64? (n : Numeral) : Option Binary64 :=
  let (s, dropped) := significand n.digits
  if s = 0 then some (.zero n.negative) else
    let (s, e) := balance 20 s (n.exponent + dropped)
    (scale (.ofNat s) e).toBinary64? n.negative

/-- The digits of a whole number with its sign. -/
def toInt (n : Numeral) : Int :=
  let value := n.digits.foldl (fun v d => v * 10 + digitValue d) 0
  if n.negative then -(value : Int) else value

end Numeral

end MediaCatalog
