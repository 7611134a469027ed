import MediaCatalog.Binary64.Decimal
import Mathlib.Algebra.Order.Field.Power
import Mathlib.Algebra.Order.Field.Rat
import Mathlib.Tactic.FieldSimp
import Mathlib.Tactic.Linarith
import Mathlib.Tactic.NormNum
import Mathlib.Tactic.Positivity
import Mathlib.Tactic.Ring
/-!
# Rounding

How far a rounded double lies from the fraction that it rounds, and which fractions and decimals do
not exceed the doubles.
-/

namespace MediaCatalog.Binary64

variable {num den n : Nat} {e : Int} {negative : Bool} {x y : Binary64}

/-- A power with an integer exponent as a fraction of naturals. -/
theorem zpow_eq_div {b : Nat} (hb : b ≠ 0) :
    (b : ℚ) ^ e = (b ^ e.toNat : Nat) / (b ^ (-e).toNat : Nat) := by
  have hexponent : e = (e.toNat : Int) - ((-e).toNat : Int) := by omega
  have hbase : (b : ℚ) ≠ 0 := Nat.cast_ne_zero.2 hb
  conv_lhs => rw [hexponent, zpow_sub₀ hbase, zpow_natCast, zpow_natCast]
  push_cast
  rfl

/-- Exponents add up, whether they are integers or naturals. -/
theorem zpow_mul_pow {b : ℚ} {k : Int} (hb : b ≠ 0) (h : e + n = k) : b ^ e * b ^ n = b ^ k := by
  rw [← h, zpow_add₀ hb, zpow_natCast]

theorem zpow_mul_pow_eq_pow {b : ℚ} {m : Nat} (hb : b ≠ 0) (h : e + n = m) :
    b ^ e * b ^ n = b ^ m := by
  rw [zpow_mul_pow hb h, zpow_natCast]

/-! ## Values -/

/-- The absolute value of a double. -/
def magnitude (x : Binary64) : ℚ := x.significand * 2 ^ x.exponent

theorem denominator_pos : 0 < x.denominator := Nat.pow_pos (by decide)

theorem numerator_div_denominator : (x.numerator : ℚ) / x.denominator = x.magnitude := by
  have hpower := @zpow_eq_div x.exponent 2 (by decide)
  rw [magnitude, numerator, denominator, Nat.cast_mul, mul_div_assoc, Nat.pow_eq, Nat.pow_eq, ← hpower,
    Nat.cast_ofNat]

theorem magnitude_nonneg : 0 ≤ x.magnitude := by
  unfold magnitude
  positivity

/-- The value of a code that counts `m` on from the start of a binade. -/
theorem magnitude_of_code {k m : Nat} (hcode : x.code = k * binade + m) (hm : m ≤ 2 * binade)
    (hk : k = 0 ∨ binade ≤ m) : x.magnitude = m * 2 ^ ((k : Int) - 1074) := by
  rcases Nat.lt_or_ge x.code binade with hsmall | hlarge
  · have hzero : k = 0 := by
      rcases hk with hk | hk
      · exact hk
      · omega
    have hsignificand : x.significand = m := by
      rw [significand, if_pos hsmall, hcode, hzero, Nat.zero_mul, Nat.zero_add]
    rw [magnitude, exponent, if_pos hsmall, hsignificand, hzero]
    norm_num
  · have hbinade : 0 < binade := by decide
    rcases Nat.lt_or_ge m (2 * binade) with hlt | hge
    · have hm₁ : binade ≤ m := by
        rcases hk with rfl | hk
        · omega
        · exact hk
      have hcode' : x.code = (m - binade) + (k + 1) * binade := by rw [hcode, Nat.succ_mul]; omega
      have hmod : x.code % binade = m - binade := by
        rw [hcode', Nat.add_mul_mod_self_right, Nat.mod_eq_of_lt (by omega)]
      have hdiv : x.code / binade = k + 1 := by
        rw [hcode', Nat.add_mul_div_right _ _ hbinade, Nat.div_eq_of_lt (by omega), Nat.zero_add]
      rw [magnitude, significand, exponent, if_neg (by omega), if_neg (by omega), hmod, hdiv,
        Nat.sub_add_cancel hm₁]
      congr 2
      omega
    · have hm₂ : m = 2 * binade := by omega
      have hcode' : x.code = (k + 2) * binade := by rw [hcode, hm₂, ← Nat.add_mul]
      have hmod : x.code % binade = 0 := by rw [hcode', Nat.mul_mod_left]
      have hdiv : x.code / binade = k + 2 := by rw [hcode', Nat.mul_div_left _ hbinade]
      have hpower : (2 : ℚ) ^ ((k : Int) - 1073) = 2 ^ ((k : Int) - 1074) * 2 := by
        rw [← zpow_add_one₀ (by norm_num)]
        congr 1
        omega
      have hexponent : ((k + 2 : Nat) : Int) - 1075 = (k : Int) - 1073 := by omega
      rw [magnitude, significand, exponent, if_neg (by omega), if_neg (by omega), hmod, hdiv, hm₂,
        hexponent, hpower]
      push_cast
      ring

/-! ## Rounding to a natural -/

theorem divHalfEven_le (hden : 0 < den) : 2 * (divHalfEven num den * den) ≤ 2 * num + den := by
  have hdivision := Nat.div_add_mod num den
  have hmod := Nat.mod_lt num hden
  have hquotient : num / den * den = den * (num / den) := Nat.mul_comm _ _
  unfold divHalfEven
  dsimp only
  split
  · omega
  · split
    · rw [Nat.add_mul, Nat.one_mul]
      omega
    · have heven : num / den % 2 * den ≤ 1 * den := Nat.mul_le_mul_right den (by omega)
      rw [Nat.add_mul]
      omega

theorem le_divHalfEven : num / den ≤ divHalfEven num den := by
  unfold divHalfEven
  dsimp only
  split
  · exact Nat.le_refl _
  · split <;> omega

theorem divHalfEven_le_of_lt (hden : 0 < den) (h : num < n * den) : divHalfEven num den ≤ n := by
  have hquotient : num / den < n := (Nat.div_lt_iff_lt_mul hden).2 h
  unfold divHalfEven
  dsimp only
  split
  · omega
  · split <;> omega

/-! ## Rounding to a double -/

theorem shifted_div : ((shifted num den e).1 : ℚ) / (shifted num den e).2 = num / den / 2 ^ e := by
  have hpower := @zpow_eq_div e 2 (by decide)
  rw [Nat.cast_ofNat] at hpower
  rw [shifted, hpower, Nat.cast_mul, Nat.cast_mul, Nat.pow_eq, Nat.pow_eq]
  field_simp

theorem shifted_pos (hden : 0 < den) : 0 < (shifted num den e).2 :=
  Nat.mul_pos hden (Nat.pow_pos (by decide))

theorem cast_div_lt (hden : 0 < den) : (num : ℚ) / den < n ↔ num < n * den := by
  rw [div_lt_iff₀ (by exact_mod_cast hden)]
  exact_mod_cast Iff.rfl

/-- A fraction lies between the powers of two that its logarithms tell. -/
theorem zpow_log2 (hnum : num ≠ 0) (hden : den ≠ 0) :
    (2 : ℚ) ^ ((num.log2 : Int) - den.log2 - 1) ≤ num / den ∧
      (num : ℚ) / den < 2 ^ ((num.log2 : Int) - den.log2 + 1) := by
  have hden₀ : (0 : ℚ) < den := by exact_mod_cast Nat.pos_of_ne_zero hden
  have hnum₁ : (2 : ℚ) ^ num.log2 ≤ num := by exact_mod_cast Nat.log2_self_le hnum
  have hnum₂ : (num : ℚ) < 2 ^ (num.log2 + 1) := by exact_mod_cast Nat.lt_log2_self
  have hden₁ : (2 : ℚ) ^ den.log2 ≤ den := by exact_mod_cast Nat.log2_self_le hden
  have hden₂ : (den : ℚ) < 2 ^ (den.log2 + 1) := by exact_mod_cast Nat.lt_log2_self
  constructor
  · rw [le_div_iff₀ hden₀]
    calc (2 : ℚ) ^ ((num.log2 : Int) - den.log2 - 1) * den
        ≤ 2 ^ ((num.log2 : Int) - den.log2 - 1) * 2 ^ (den.log2 + 1) := by gcongr
      _ = 2 ^ num.log2 := zpow_mul_pow_eq_pow (by norm_num) (by omega)
      _ ≤ num := hnum₁
  · rw [div_lt_iff₀ hden₀]
    calc (num : ℚ) < 2 ^ (num.log2 + 1) := hnum₂
      _ = 2 ^ ((num.log2 : Int) - den.log2 + 1) * 2 ^ den.log2 :=
        (zpow_mul_pow_eq_pow (by norm_num) (by omega)).symm
      _ ≤ 2 ^ ((num.log2 : Int) - den.log2 + 1) * den := by gcongr

/-- Scaled by its exponent a fraction lies within a binade, or below the first. -/
theorem exponentFor_spec (hden : 0 < den) : -1074 ≤ exponentFor num den ∧
    (num : ℚ) / den < 2 ^ 53 * 2 ^ exponentFor num den ∧
      (exponentFor num den ≠ -1074 → 2 ^ 52 * 2 ^ exponentFor num den ≤ (num : ℚ) / den) := by
  unfold exponentFor
  split
  next hzero =>
    rw [hzero, Nat.cast_zero, zero_div]
    exact ⟨Int.le_refl _, by positivity, fun h => absurd rfl h⟩
  next hnum =>
    obtain ⟨hlow, hhigh⟩ := zpow_log2 hnum (Nat.pos_iff_ne_zero.1 hden)
    obtain ⟨e, he⟩ : ∃ e, e = max (-1074) ((num.log2 : Int) - den.log2 - 53) := ⟨_, rfl⟩
    have hsmall : (shifted num den e).1 / (shifted num den e).2 < 2 * binade ↔
        (num : ℚ) / den < 2 ^ 53 * 2 ^ e := by
      rw [Nat.div_lt_iff_lt_mul (shifted_pos hden), ← cast_div_lt (shifted_pos hden), shifted_div,
        div_lt_iff₀ (by positivity)]
      norm_num [binade]
    rw [← he]
    dsimp only
    split
    next h =>
      refine ⟨by omega, hsmall.1 h, fun hne => ?_⟩
      calc (2 : ℚ) ^ 52 * 2 ^ e = 2 ^ ((num.log2 : Int) - den.log2 - 1) := by
            rw [mul_comm]
            exact zpow_mul_pow (by norm_num) (by omega)
        _ ≤ num / den := hlow
    next h =>
      have hlarge : 2 ^ 53 * 2 ^ e ≤ (num : ℚ) / den := not_lt.1 fun hlt => h (hsmall.2 hlt)
      have hnext : (2 : ℚ) ^ (e + 1) = 2 ^ e * 2 := zpow_add_one₀ (by norm_num) e
      refine ⟨by omega, ?_, fun _ => by linarith⟩
      calc (num : ℚ) / den < 2 ^ ((num.log2 : Int) - den.log2 + 1) := hhigh
        _ ≤ 2 ^ (53 + (e + 1)) := zpow_le_zpow_right₀ (by norm_num) (by omega)
        _ = 2 ^ 53 * 2 ^ (e + 1) := by
          rw [zpow_add₀ (by norm_num)]
          rfl

/-- What a fraction is rounded to at its exponent: its distance from the fraction, and its bounds. -/
theorem divHalfEven_shifted (hden : 0 < den) {q : Nat}
    (hq : q = divHalfEven (shifted num den (exponentFor num den)).1
      (shifted num den (exponentFor num den)).2) :
    (q : ℚ) ≤ num / den / 2 ^ exponentFor num den + 1 / 2 ∧ q ≤ 2 * binade ∧
      (exponentFor num den = -1074 ∨ binade ≤ q) := by
  obtain ⟨-, hhigh, hlow⟩ := @exponentFor_spec num den hden
  have hpos := @shifted_pos num den (exponentFor num den) hden
  have hpos' : (0 : ℚ) < (shifted num den (exponentFor num den)).2 := by exact_mod_cast hpos
  rw [← div_lt_iff₀ (by positivity), ← shifted_div] at hhigh
  rw [← le_div_iff₀ (by positivity), ← shifted_div] at hlow
  refine ⟨?_, ?_, ?_⟩
  · have hle := @divHalfEven_le (shifted num den (exponentFor num den)).1 _ hpos
    rw [← hq] at hle
    have hle' : 2 * ((q : ℚ) * (shifted num den (exponentFor num den)).2) ≤
        2 * (shifted num den (exponentFor num den)).1 + (shifted num den (exponentFor num den)).2 := by
      exact_mod_cast hle
    rw [← shifted_div, ← sub_le_iff_le_add, le_div_iff₀ hpos']
    linarith
  · rw [hq]
    refine divHalfEven_le_of_lt hpos ((cast_div_lt hpos).1 ?_)
    have htwo : ((2 * binade : Nat) : ℚ) = 2 ^ 53 := by norm_num [binade]
    rw [htwo]
    exact hhigh
  · refine (eq_or_ne (exponentFor num den) (-1074)).imp id fun hne => ?_
    have hone : ((binade : Nat) : ℚ) = 2 ^ 52 := by norm_num [binade]
    have hbinade := hlow hne
    rw [← hone, le_div_iff₀ hpos'] at hbinade
    rw [hq]
    exact Nat.le_trans ((Nat.le_div_iff_mul_le hpos).2 (by exact_mod_cast hbinade)) le_divHalfEven

/-- A rounded fraction is a whole number of steps of its exponent. -/
theorem nearest?_eq_some (hden : 0 < den) (h : nearest? negative num den = some x) :
    x.magnitude = divHalfEven (shifted num den (exponentFor num den)).1
      (shifted num den (exponentFor num den)).2 * 2 ^ exponentFor num den := by
  obtain ⟨hleast, -, -⟩ := @exponentFor_spec num den hden
  obtain ⟨-, hq, hbinade⟩ := @divHalfEven_shifted num den hden _ rfl
  unfold nearest? at h
  dsimp only at h
  split at h
  · obtain rfl := Option.some.inj h
    rw [magnitude_of_code rfl hq]
    · congr 2
      omega
    · refine hbinade.imp (fun h => ?_) id
      rw [h]
      rfl
  · cases h

/-- A fraction at least one lies in a full binade. -/
theorem exponentFor_ne (hden : 0 < den) (hone : den ≤ num) : exponentFor num den ≠ -1074 := by
  obtain ⟨-, hhigh, -⟩ := @exponentFor_spec num den hden
  intro he
  have hvalue : 1 ≤ (num : ℚ) / den := by
    rw [one_le_div₀ (by exact_mod_cast hden)]
    exact_mod_cast hone
  have hsmall : (2 : ℚ) ^ 53 * 2 ^ exponentFor num den ≤ 1 := by
    rw [he, ← zpow_natCast, ← zpow_add₀ (by norm_num)]
    exact zpow_le_one_of_nonpos₀ (by norm_num) (by decide)
  linarith

/-- A fraction at least one is rounded up by no more than its share of `2 ^ -53`. -/
theorem magnitude_nearest?_le (hden : 0 < den) (hone : den ≤ num)
    (h : nearest? negative num den = some x) : x.magnitude ≤ num / den * (1 + 1 / 2 ^ 53) := by
  obtain ⟨-, -, hlow⟩ := @exponentFor_spec num den hden
  obtain ⟨hq, -, -⟩ := @divHalfEven_shifted num den hden _ rfl
  have hstep := hlow (exponentFor_ne hden hone)
  have hpower : (0 : ℚ) < 2 ^ exponentFor num den := by positivity
  rw [nearest?_eq_some hden h]
  calc _ ≤ ((num : ℚ) / den / 2 ^ exponentFor num den + 1 / 2) * 2 ^ exponentFor num den := by gcongr
    _ = num / den + 1 / 2 * 2 ^ exponentFor num den := by field_simp
    _ ≤ num / den * (1 + 1 / 2 ^ 53) := by linarith

/-- A fraction at least one is rounded down to no less than its half. -/
theorem le_magnitude_nearest? (hden : 0 < den) (hone : den ≤ num)
    (h : nearest? negative num den = some x) : num / den ≤ 2 * x.magnitude := by
  obtain ⟨-, hhigh, -⟩ := @exponentFor_spec num den hden
  obtain ⟨-, -, hq⟩ := @divHalfEven_shifted num den hden _ rfl
  have hbinade := hq.resolve_left (exponentFor_ne hden hone)
  have hbinade' : (2 : ℚ) ^ 52 ≤ (divHalfEven (shifted num den (exponentFor num den)).1
      (shifted num den (exponentFor num den)).2 : ℚ) := by
    calc (2 : ℚ) ^ 52 = (binade : ℚ) := by norm_num [binade]
      _ ≤ _ := by exact_mod_cast hbinade
  have hpower : (0 : ℚ) < 2 ^ exponentFor num den := by positivity
  have hvalue := mul_le_mul_of_nonneg_right hbinade' hpower.le
  rw [nearest?_eq_some hden h]
  linarith

/-- Half the step of the last binade, of which all doubles are whole multiples there. -/
def halfStep : ℚ := 2 ^ (970 : Int)

theorem halfStep_pos : 0 < halfStep := by
  unfold halfStep
  positivity

theorem zpow_971 : (2 : ℚ) ^ (971 : Int) = 2 * halfStep := by
  rw [halfStep, mul_comm, ← zpow_add_one₀ (by norm_num)]
  rfl

/-- Half past the largest double. -/
def overflow : ℚ := (2 ^ 54 - 1) * halfStep

theorem halfStep_eq : halfStep = (2 ^ 970 : Nat) := by
  rw [Nat.cast_pow, ← zpow_natCast]
  rfl

theorem natCast_lt_overflow {m : Nat} (h : m < (2 ^ 54 - 1) * 2 ^ 970) : (m : ℚ) < overflow := by
  have hcast : (((2 ^ 54 - 1) * 2 ^ 970 : Nat) : ℚ) = overflow := by
    have hfactor : ((2 ^ 54 - 1 : Nat) : ℚ) = 2 ^ 54 - 1 := by norm_num
    rw [Nat.cast_mul, ← halfStep_eq, hfactor, overflow]
  rw [← hcast]
  exact Nat.cast_lt.2 h

/-- A fraction that is not half past the largest double has a nearest double. -/
theorem exists_nearest? (hden : 0 < den) (h : (num : ℚ) / den < overflow) :
    ∃ x, nearest? negative num den = some x := by
  obtain ⟨hleast, -, hlow⟩ := @exponentFor_spec num den hden
  obtain ⟨hq, hq₂, -⟩ := @divHalfEven_shifted num den hden _ rfl
  unfold overflow at h
  have hpos := halfStep_pos
  -- A fraction with a larger exponent would be past the last binade.
  have hmost : exponentFor num den ≤ 971 := by
    by_contra hlarge
    have hpower : halfStep * 2 ^ 2 ≤ 2 ^ exponentFor num den := by
      rw [halfStep, ← zpow_natCast, ← zpow_add₀ (by norm_num)]
      exact zpow_le_zpow_right₀ (by norm_num) (by omega)
    have := hlow (by omega)
    linarith
  refine ⟨_, dif_pos (Nat.lt_of_not_le fun hcode => ?_)⟩
  -- Before the last binade every significand is in range; in the last one the rounded significand has
  -- to stay below the next.
  rcases (by omega : exponentFor num den ≤ 970 ∨ exponentFor num den = 971) with hlast | hlast
  · have hbound : (exponentFor num den + 1074).toNat * binade ≤ 2044 * binade :=
      Nat.mul_le_mul_right binade (by omega)
    have hbinade : 0 < binade := by decide
    omega
  · rw [hlast, zpow_971] at hq
    have hround : (num : ℚ) / den / (2 * halfStep) < (2 ^ 54 - 1) / 2 := by
      rw [div_lt_iff₀ (by positivity)]
      linarith
    have hlt : divHalfEven (shifted num den (exponentFor num den)).1
        (shifted num den (exponentFor num den)).2 < 2 * binade := by
      have : ((divHalfEven (shifted num den (exponentFor num den)).1
          (shifted num den (exponentFor num den)).2 : Nat) : ℚ) < (2 * binade : Nat) := by
        rw [hlast]
        calc _ ≤ _ := hq
          _ < (2 ^ 54 - 1) / 2 + 1 / 2 := by linarith
          _ = (2 * binade : Nat) := by norm_num [binade]
      exact_mod_cast this
    rw [hlast] at hcode hlt
    have hbound : ((971 : Int) + 1074).toNat * binade = 2045 * binade := rfl
    omega

/-! ## Products and quotients -/

/-- No double lies past infinity, which is the end of the last binade. -/
theorem magnitude_le : x.magnitude ≤ 2 ^ 54 * halfStep := by
  have hbinade : ((2 * binade : Nat) : ℚ) = 2 ^ 53 := by norm_num [binade]
  have hlast : 2 ^ 54 * halfStep = 2 ^ 53 * 2 ^ (971 : Int) := by
    rw [zpow_971]
    ring
  rw [hlast]
  rcases Nat.lt_or_eq_of_le x.bounded with hfinite | hinfinite
  · have hsignificand : x.significand ≤ 2 * binade := by
      unfold significand
      have hmod := Nat.mod_lt x.code (show 0 < binade by decide)
      split <;> omega
    have hexponent : x.exponent ≤ 971 := by
      have hcode : x.code / binade < 2047 := (Nat.div_lt_iff_lt_mul (by decide)).2 hfinite
      unfold exponent
      split <;> omega
    have hsignificand' : (x.significand : ℚ) ≤ 2 ^ 53 := by
      rw [← hbinade]
      exact_mod_cast hsignificand
    calc x.magnitude ≤ x.significand * 2 ^ (971 : Int) := by
          unfold magnitude
          gcongr
          norm_num
      _ ≤ 2 ^ 53 * 2 ^ (971 : Int) := by gcongr
  · have hcode : x.code = 2045 * binade + 2 * binade := by rw [hinfinite, ← Nat.add_mul]
    rw [magnitude_of_code hcode (Nat.le_refl _) (.inr (by decide)), hbinade]
    norm_num

theorem exists_mul? (h : x.magnitude * y.magnitude < overflow) : ∃ z, mul? x y = some z := by
  refine exists_nearest? (Nat.mul_pos denominator_pos denominator_pos) ?_
  rw [Nat.cast_mul, Nat.cast_mul, mul_div_mul_comm, numerator_div_denominator,
    numerator_div_denominator]
  exact h

theorem exists_div? (hy : 0 < y.magnitude) (h : x.magnitude / y.magnitude < overflow) :
    ∃ z, div? x y = some z := by
  have hnumerator : y.numerator ≠ 0 := by
    intro hzero
    rw [← numerator_div_denominator, hzero] at hy
    simp at hy
  refine exists_nearest? (Nat.mul_pos denominator_pos (Nat.pos_of_ne_zero hnumerator)) ?_
  rw [Nat.cast_mul, Nat.cast_mul, ← div_div_div_eq, numerator_div_denominator,
    numerator_div_denominator]
  exact h

/-! ## Decimals that are read -/

theorem exists_tenPow? (h : n ≤ largestTenPow) : ∃ p, tenPow? n = some p := by
  refine exists_nearest? Nat.one_pos ?_
  have hpower : 10 ^ n ≤ 10 ^ largestTenPow := Nat.pow_le_pow_right (by decide) h
  have hlimit : 10 ^ largestTenPow < (2 ^ 54 - 1) * 2 ^ 970 := by decide +kernel
  rw [Nat.cast_one, div_one, Nat.pow_eq]
  exact natCast_lt_overflow (Nat.lt_of_le_of_lt hpower hlimit)

theorem le_tenPow? {p : Binary64} (h : tenPow? n = some p) :
    (10 : ℚ) ^ n ≤ 2 * p.magnitude ∧ p.magnitude ≤ 10 ^ n * (1 + 1 / 2 ^ 53) := by
  have hone : 1 ≤ Nat.pow 10 n := Nat.pow_pos (by decide)
  have hlow := le_magnitude_nearest? Nat.one_pos hone h
  have hhigh := magnitude_nearest?_le Nat.one_pos hone h
  rw [Nat.cast_one, div_one, Nat.pow_eq] at hlow hhigh
  exact ⟨by exact_mod_cast hlow, by exact_mod_cast hhigh⟩

/-- A double can be divided by a positive power of ten. -/
theorem exists_div?_tenPow {p : Binary64} (hn : 0 < n) (h : tenPow? n = some p) :
    ∃ y, div? x p = some y := by
  obtain ⟨hlow, -⟩ := le_tenPow? h
  have hten : (10 : ℚ) ^ 1 ≤ 10 ^ n := pow_le_pow_right₀ (by norm_num) hn
  have hpos := halfStep_pos
  have hp : 5 ≤ p.magnitude := by linarith
  refine exists_div? (by linarith) ?_
  rw [div_lt_iff₀ (by linarith), overflow]
  calc x.magnitude ≤ 2 ^ 54 * halfStep := magnitude_le
    _ < (2 ^ 54 - 1) * halfStep * 5 := by linarith
    _ ≤ (2 ^ 54 - 1) * halfStep * p.magnitude :=
      mul_le_mul_of_nonneg_left hp (by linarith)

/-- Scaling down does not run out of range. -/
theorem exists_scale?_of_neg {fuel : Nat} (he : e < 0) : ∃ y, scale? fuel x e = some y := by
  induction fuel generalizing x e with
  | zero => exact ⟨_, rfl⟩
  | succ fuel ih =>
    have hnonneg : ¬0 ≤ e := by omega
    rw [scale?]
    split
    next hfits =>
      obtain ⟨p, hp⟩ := exists_tenPow? hfits
      rw [hp, Option.bind_some]
      exact exists_div?_tenPow (by omega) hp
    next hfits =>
      split
      · exact ⟨x, rfl⟩
      · obtain ⟨p, hp⟩ := exists_tenPow? (Nat.le_refl largestTenPow)
        obtain ⟨y, hy⟩ := @exists_div?_tenPow _ x p (by decide) hp
        have he' : e + largestTenPow < 0 := by omega
        rw [hp, Option.bind_some, hy, Option.bind_some]
        exact ih he'

theorem exists_nearest?_whole (hn : n < 2 ^ 64) : ∃ x, nearest? negative n 1 = some x := by
  refine exists_nearest? Nat.one_pos ?_
  rw [Nat.cast_one, div_one]
  exact natCast_lt_overflow (Nat.lt_trans hn (by decide +kernel))

/-- A decimal of at most 64 bits that is scaled down is in range. -/
theorem exists_ofDecimal?_of_neg (hn : n < 2 ^ 64) (he : e < 0) :
    ∃ y, ofDecimal? negative n e = some y := by
  obtain ⟨x, hx⟩ := @exists_nearest?_whole n negative hn
  rw [ofDecimal?, hx, Option.bind_some]
  exact exists_scale?_of_neg he

/-- A decimal of at most 64 bits is in range if it lies two steps below the largest double. -/
theorem exists_ofDecimal? (hpos : 0 < n) (hn : n < 2 ^ 64)
    (hvalue : 0 ≤ e → (n : ℚ) * 10 ^ e.toNat ≤ (2 ^ 54 - 6) * halfStep) :
    ∃ y, ofDecimal? negative n e = some y := by
  rcases Int.lt_or_le e 0 with he | he
  · exact exists_ofDecimal?_of_neg hn he
  have hvalue := hvalue he
  obtain ⟨x, hx⟩ := @exists_nearest?_whole n negative hn
  rw [ofDecimal?, hx, Option.bind_some]
  have hhalf := halfStep_pos
  have hn₁ : (1 : ℚ) ≤ n := by exact_mod_cast hpos
  have htens : (0 : ℚ) < 10 ^ e.toNat := by positivity
  have hexponent : e.toNat ≤ largestTenPow := by
    by_contra hlarge
    have hlimit : 2 ^ 54 * halfStep < 10 ^ e.toNat := by
      have hpower : 10 ^ (largestTenPow + 1) ≤ 10 ^ e.toNat :=
        Nat.pow_le_pow_right (by decide) (by omega)
      have hlarge : 2 ^ 54 * 2 ^ 970 < 10 ^ (largestTenPow + 1) := by decide +kernel
      have hcast := (Nat.cast_lt (α := ℚ)).2 (Nat.lt_of_lt_of_le hlarge hpower)
      rwa [Nat.cast_mul, ← halfStep_eq, Nat.cast_pow, Nat.cast_pow, Nat.cast_ofNat, Nat.cast_ofNat] at hcast
    have := mul_le_mul_of_nonneg_right hn₁ htens.le
    linarith
  obtain ⟨p, hp⟩ := exists_tenPow? hexponent
  have hx₁ : x.magnitude ≤ n * (1 + 1 / 2 ^ 53) := by
    have := magnitude_nearest?_le Nat.one_pos hpos hx
    rwa [Nat.cast_one, div_one] at this
  obtain ⟨-, hp₁⟩ := le_tenPow? hp
  have habs : e.natAbs = e.toNat := by omega
  rw [scale?, if_pos (habs ▸ hexponent), habs, hp, Option.bind_some, if_pos he]
  -- The number and the power of ten are both rounded, which together stays below two steps.
  refine exists_mul? ?_
  calc x.magnitude * p.magnitude
      ≤ n * (1 + 1 / 2 ^ 53) * (10 ^ e.toNat * (1 + 1 / 2 ^ 53)) :=
        mul_le_mul hx₁ hp₁ magnitude_nonneg (by positivity)
    _ = n * 10 ^ e.toNat * (1 + 1 / 2 ^ 53) ^ 2 := by ring
    _ ≤ (2 ^ 54 - 6) * halfStep * (1 + 1 / 2 ^ 53) ^ 2 := by gcongr
    _ < overflow := by
      unfold overflow
      linarith

end MediaCatalog.Binary64
