import MediaCatalog.Proofs.Rounding
/-!
# The shortest decimal of a double

It has no more than eighteen digits and lies no further above the double than half a step, so reading
it does not run out of range.
-/

namespace MediaCatalog.Binary64

variable {d : Decimal} {c fuel num den n m low high : Nat} {e k p : Int} {unit : Nat × Nat}
  {x : Binary64}

/-- The value of a decimal. -/
def Decimal.value (d : Decimal) : ℚ := d.digits * 10 ^ d.exponent

/-! ## Trailing zeros -/

theorem Decimal.trim_spec : (d.trim fuel).value = d.value ∧
    (0 < d.digits → 0 < (d.trim fuel).digits) ∧ (d.trim fuel).digits ≤ d.digits := by
  induction fuel generalizing d with
  | zero => exact ⟨rfl, id, Nat.le_refl _⟩
  | succ fuel ih =>
    rw [trim]
    split
    next h =>
      obtain ⟨hvalue, hpos, hle⟩ := @ih ⟨d.digits / 10, d.exponent + 1⟩
      have hdigits : (d.digits : ℚ) = (d.digits / 10 : Nat) * 10 := by
        exact_mod_cast (Nat.div_mul_cancel (Nat.dvd_of_mod_eq_zero h.2)).symm
      refine ⟨?_, fun _ => hpos ?_, Nat.le_trans hle (Nat.div_le_self _ _)⟩
      · rw [hvalue, value, value, hdigits, zpow_add_one₀ (by norm_num)]
        ring
      · show 0 < d.digits / 10
        omega
    next => exact ⟨rfl, id, Nat.le_refl _⟩

/-! ## The place of the point -/

theorem lt_pow_digitCount : n < 10 ^ digitCount n :=
  (Nat.length_toDigits_le_iff (by decide) Nat.length_toDigits_pos).1 (Nat.le_refl _)

theorem pow_digitCount_le (h : 0 < n) : 10 ^ (digitCount n - 1) ≤ n := by
  by_contra hlt
  rcases Nat.eq_zero_or_pos (digitCount n - 1) with hzero | hpos
  · rw [hzero] at hlt
    omega
  · have hlength := (Nat.length_toDigits_le_iff (by decide) hpos).2 (Nat.not_le.1 hlt)
    have hcount : (Nat.toDigits 10 n).length = digitCount n := rfl
    omega

theorem decimalPoint_spec (hnum : 0 < num) (hden : 0 < den) :
    (10 : ℚ) ^ (decimalPoint num den - 1) ≤ num / den ∧
      (num : ℚ) / den < 10 ^ decimalPoint num den := by
  have hden₀ : (0 : ℚ) < den := by exact_mod_cast hden
  have hnum₁ : (10 : ℚ) ^ (digitCount num - 1) ≤ num := by exact_mod_cast pow_digitCount_le hnum
  have hnum₂ : (num : ℚ) < 10 ^ digitCount num := by exact_mod_cast lt_pow_digitCount
  have hden₁ : (10 : ℚ) ^ (digitCount den - 1) ≤ den := by exact_mod_cast pow_digitCount_le hden
  have hden₂ : (den : ℚ) < 10 ^ digitCount den := by exact_mod_cast lt_pow_digitCount
  have hnum₃ : 0 < digitCount num := Nat.length_toDigits_pos
  have hden₃ : 0 < digitCount den := Nat.length_toDigits_pos
  obtain ⟨k, hk⟩ : ∃ k : Int, k = (digitCount num : Int) - digitCount den := ⟨_, rfl⟩
  have hlow : (10 : ℚ) ^ (k - 1) ≤ num / den := by
    rw [le_div_iff₀ hden₀]
    calc (10 : ℚ) ^ (k - 1) * den ≤ 10 ^ (k - 1) * 10 ^ digitCount den := by gcongr
      _ = 10 ^ (digitCount num - 1) := zpow_mul_pow_eq_pow (by norm_num) (by omega)
      _ ≤ num := hnum₁
  have hhigh : (num : ℚ) / den < 10 ^ (k + 1) := by
    rw [div_lt_iff₀ hden₀]
    calc (num : ℚ) < 10 ^ digitCount num := hnum₂
      _ = 10 ^ (k + 1) * 10 ^ (digitCount den - 1) :=
        (zpow_mul_pow_eq_pow (by norm_num) (by omega)).symm
      _ ≤ 10 ^ (k + 1) * den := by gcongr
  have hsmall : num * Nat.pow 10 (-k).toNat < den * Nat.pow 10 k.toNat ↔ (num : ℚ) / den < 10 ^ k := by
    have hpower := @zpow_eq_div k 10 (by decide)
    rw [Nat.cast_ofNat] at hpower
    rw [hpower, div_lt_div_iff₀ hden₀ (by positivity), Nat.pow_eq, Nat.pow_eq, Nat.mul_comm den]
    exact_mod_cast Iff.rfl
  unfold decimalPoint
  dsimp only
  rw [← hk]
  split
  next h => exact ⟨hlow, hsmall.1 h⟩
  next h => exact ⟨by rw [add_sub_cancel_right]; exact not_lt.1 fun hlt => h (hsmall.2 hlt), hhigh⟩

/-! ## Grids -/

theorem gridUnit_pos : 0 < (gridUnit p e).1 ∧ 0 < (gridUnit p e).2 :=
  ⟨Nat.mul_pos (Nat.pow_pos (by decide)) (Nat.pow_pos (by decide)),
    Nat.mul_pos (Nat.pow_pos (by decide)) (Nat.pow_pos (by decide))⟩

theorem gridUnit_div : ((gridUnit p e).1 : ℚ) / (gridUnit p e).2 = 10 ^ p / 2 ^ (e - 2) := by
  have hten := @zpow_eq_div p 10 (by decide)
  have htwo := @zpow_eq_div (e - 2) 2 (by decide)
  rw [Nat.cast_ofNat] at hten htwo
  rw [neg_sub] at htwo
  rw [gridUnit, hten, htwo, Nat.cast_mul, Nat.cast_mul, Nat.pow_eq, Nat.pow_eq, Nat.pow_eq, Nat.pow_eq]
  field_simp

/-- A point of a grid is one of the two about the double, and not above what rounds to it. -/
theorem gridPoint?_spec {g : Nat} (h : gridPoint? m low high unit = some g) :
    4 * m * unit.2 / unit.1 ≤ g ∧ g ≤ 4 * m * unit.2 / unit.1 + 1 ∧ g * unit.1 ≤ high * unit.2 := by
  unfold gridPoint? at h
  extract_lets value c inside below above first second at h
  have hinside : ∀ g, inside g = true → g * unit.1 ≤ high * unit.2 := by
    intro g hg
    simp only [inside] at hg
    split at hg
    · exact (of_decide_eq_true hg).2
    · exact Nat.le_of_lt (of_decide_eq_true hg).2
  have hfirst : c ≤ first ∧ first ≤ c + 1 := by
    simp only [first]
    split <;> omega
  have hsecond : c ≤ second ∧ second ≤ c + 1 := by
    simp only [second]
    split <;> omega
  split at h
  next hin =>
    obtain rfl := Option.some.inj h
    exact ⟨hfirst.1, hfirst.2, hinside _ hin⟩
  next =>
    split at h
    next hin =>
      obtain rfl := Option.some.inj h
      exact ⟨hsecond.1, hsecond.2, hinside _ hin⟩
    next => cases h

/-- Counts of grid units and of quarter steps are compared by their values. -/
theorem mul_gridUnit_le {g t : Nat} :
    g * (gridUnit p e).1 ≤ t * (gridUnit p e).2 ↔ (g : ℚ) * 10 ^ p ≤ t * 2 ^ (e - 2) := by
  obtain ⟨hfirst, hsecond⟩ := @gridUnit_pos e p
  have hfirst' : (0 : ℚ) < (gridUnit p e).1 := by exact_mod_cast hfirst
  have hsecond' : (0 : ℚ) < (gridUnit p e).2 := by exact_mod_cast hsecond
  have hstep : (0 : ℚ) < 2 ^ (e - 2) := by positivity
  rw [← div_le_iff₀ hstep, mul_div_assoc, ← gridUnit_div, ← mul_div_assoc, div_le_iff₀ hsecond']
  exact_mod_cast Iff.rfl

/-- A number of quarter steps. -/
theorem quarter_steps : ((4 * m : Nat) : ℚ) * 2 ^ (e - 2) = m * 2 ^ e := by
  rw [zpow_sub₀ (by norm_num)]
  push_cast
  ring

theorem gridQuotient_bounds (hn : 0 < n) (hlow : (10 : ℚ) ^ (k - 1) ≤ m * 2 ^ e)
    (hhigh : (m : ℚ) * 2 ^ e < 10 ^ k) :
    0 < 4 * m * (gridUnit (k - n) e).2 / (gridUnit (k - n) e).1 ∧
      4 * m * (gridUnit (k - n) e).2 / (gridUnit (k - n) e).1 < 10 ^ n := by
  obtain ⟨hfirst, -⟩ := @gridUnit_pos e (k - n)
  constructor
  · refine (Nat.le_div_iff_mul_le hfirst).2 (mul_gridUnit_le.2 ?_)
    rw [quarter_steps, Nat.cast_one, one_mul]
    exact le_trans (zpow_le_zpow_right₀ (by norm_num) (by omega)) hlow
  · refine (Nat.div_lt_iff_lt_mul hfirst).2 (Nat.lt_of_not_le fun hle => ?_)
    have hle' := mul_gridUnit_le.1 hle
    have hten : ((10 ^ n : Nat) : ℚ) * 10 ^ (k - n) = 10 ^ k := by
      rw [Nat.cast_pow, Nat.cast_ofNat, mul_comm]
      exact zpow_mul_pow (by norm_num) (by omega)
    rw [hten, quarter_steps] at hle'
    linarith

/-- What is known of the digits that are found for `m` steps of `2 ^ e`. -/
structure Decimal.IsNear (d : Decimal) (m : Nat) (e : Int) : Prop where
  pos : 0 < d.digits
  le : d.digits ≤ 10 ^ 18
  value : d.value ≤ (m + 1 / 2) * 2 ^ e

theorem shortestFrom_isNear (hn : 0 < n) (hfuel : n + fuel = 18)
    (hlow : (10 : ℚ) ^ (k - 1) ≤ m * 2 ^ e) (hhigh : (m : ℚ) * 2 ^ e < 10 ^ k) :
    (shortestFrom m e low k fuel n).IsNear m e := by
  have hstep : (0 : ℚ) < 2 ^ e := by positivity
  induction fuel generalizing n with
  -- Without a grid that has a point in reach, the digits are cut off, which stays below the double.
  | zero =>
    obtain ⟨hpos, hlt⟩ := gridQuotient_bounds hn hlow hhigh
    have hvalue := mul_gridUnit_le.1 (Nat.div_mul_le_self (4 * m * (gridUnit (k - n) e).2)
      (gridUnit (k - n) e).1)
    rw [quarter_steps] at hvalue
    refine ⟨hpos, ?_, ?_⟩
    · exact Nat.le_trans (Nat.le_of_lt hlt) (Nat.pow_le_pow_right (by decide) (by omega))
    · calc _ ≤ (m : ℚ) * 2 ^ e := hvalue
        _ ≤ (m + 1 / 2) * 2 ^ e := by linarith
  | succ fuel ih =>
    rw [shortestFrom]
    split
    next g hg =>
      obtain ⟨hpos, hlt⟩ := gridQuotient_bounds hn hlow hhigh
      obtain ⟨hleast, hmost, hvalue⟩ := gridPoint?_spec hg
      refine ⟨Nat.lt_of_lt_of_le hpos hleast, ?_, ?_⟩
      · have hpower : 10 ^ n ≤ 10 ^ 18 := Nat.pow_le_pow_right (by decide) (by omega)
        show g ≤ 10 ^ 18
        omega
      · calc _ ≤ ((4 * m + 2 : Nat) : ℚ) * 2 ^ (e - 2) := mul_gridUnit_le.1 hvalue
          _ = (m + 1 / 2) * 2 ^ e := by
            rw [zpow_sub₀ (by norm_num)]
            push_cast
            ring
    next => exact ih (Nat.succ_pos n) (by omega)

/-! ## Doubles -/

theorem significand_pos (h : x.isZero = false) : 0 < x.significand := by
  have hcode : x.code ≠ 0 := by
    intro hzero
    rw [isZero, hzero] at h
    cases h
  unfold significand
  split
  · omega
  · have hbinade : 0 < binade := by decide
    omega

/-- The shortest decimal is near the double. -/
theorem shortest_isNear (h : x.isZero = false) : x.shortest.IsNear x.significand x.exponent := by
  have hsignificand := significand_pos h
  have hnumerator : 0 < x.numerator := Nat.mul_pos hsignificand (Nat.pow_pos (by decide))
  obtain ⟨hlow, hhigh⟩ := decimalPoint_spec hnumerator (@denominator_pos x)
  rw [numerator_div_denominator, magnitude] at hlow hhigh
  obtain ⟨htrim, hpos, hle⟩ := Decimal.trim_spec
  obtain ⟨hpos', hle', hvalue⟩ :=
    shortestFrom_isNear Nat.one_pos (show 1 + 17 = 18 by decide) hlow hhigh
  rw [shortest, h]
  exact ⟨hpos hpos', Nat.le_trans hle hle', htrim.trans_le hvalue⟩

/-- The shortest decimal is that of the magnitude. -/
theorem shortest_congr {y : Binary64} (h : x.code = y.code) : x.shortest = y.shortest := by
  cases x
  cases y
  cases h
  rfl

/-- The three largest numbers, from the largest on. -/
def top (i : Fin 3) : Binary64 := ⟨false, 2047 * binade - 1 - i.val, by omega⟩

/-- The decimals of the largest doubles are in range. What holds of all others by their distance from
the end of the range is computed for these. -/
theorem ofDecimal?_shortest_top : ∀ negative : Bool, ∀ i : Fin 3,
    (ofDecimal? negative (top i).shortest.digits (top i).shortest.exponent).isSome = true := by
  decide +kernel

/-- Half a step above any other double lies below the end of the range. -/
theorem half_past_le (h : x.code + 3 < 2047 * binade) :
    ((x.significand : ℚ) + 1 / 2) * 2 ^ x.exponent ≤ (2 ^ 54 - 6) * halfStep := by
  have hhalf := halfStep_pos
  have hdivision := Nat.div_add_mod x.code binade
  have hmod := Nat.mod_lt x.code (show 0 < binade by decide)
  rcases Int.lt_or_le x.exponent 971 with hexponent | hexponent
  · have hsignificand : x.significand + 1 ≤ 2 * binade := by
      unfold significand
      split <;> omega
    have hbinade : ((2 * binade : Nat) : ℚ) = 2 ^ 53 := by norm_num [binade]
    have hsignificand' : (x.significand : ℚ) + 1 ≤ 2 ^ 53 := by
      rw [← hbinade]
      exact_mod_cast hsignificand
    have hpower : (2 : ℚ) ^ x.exponent ≤ halfStep := by
      rw [halfStep]
      exact zpow_le_zpow_right₀ (by norm_num) (by omega)
    calc ((x.significand : ℚ) + 1 / 2) * 2 ^ x.exponent
        ≤ 2 ^ 53 * halfStep := by
          refine mul_le_mul (by linarith) hpower (by positivity) (by positivity)
      _ ≤ (2 ^ 54 - 6) * halfStep := by linarith
  · have hlast : x.exponent = 971 ∧ x.significand + 4 ≤ 2 * binade := by
      unfold exponent at *
      split at hexponent
      · omega
      · have hquotient : x.code / binade < 2047 := (Nat.div_lt_iff_lt_mul (by decide)).2 (by omega)
        have hlast : x.code / binade = 2046 := by omega
        rw [hlast] at hdivision ⊢
        rw [if_neg ‹_›, significand, if_neg ‹_›]
        omega
    have hbinade : ((2 * binade : Nat) : ℚ) = 2 ^ 53 := by norm_num [binade]
    have hsignificand : (x.significand : ℚ) + 4 ≤ 2 ^ 53 := by
      rw [← hbinade]
      exact_mod_cast hlast.2
    rw [hlast.1, zpow_971]
    calc ((x.significand : ℚ) + 1 / 2) * (2 * halfStep)
        ≤ (2 ^ 53 - 4 + 1 / 2) * (2 * halfStep) := by
          refine mul_le_mul_of_nonneg_right (by linarith) (by linarith)
      _ ≤ (2 ^ 54 - 6) * halfStep := by linarith

/-- Reading the shortest decimal of a number does not run out of range. -/
theorem exists_ofDecimal?_shortest {negative : Bool} (hfinite : x.isFinite = true)
    (h : x.isZero = false) :
    ∃ y, ofDecimal? negative x.shortest.digits x.shortest.exponent = some y := by
  obtain ⟨hpos, hle, hvalue⟩ := shortest_isNear h
  rcases Nat.lt_or_ge (x.code + 3) (2047 * binade) with hcode | hcode
  · refine exists_ofDecimal? hpos (Nat.lt_of_le_of_lt hle (by decide)) ?_
    intro hexponent
    have hpower : (10 : ℚ) ^ x.shortest.exponent = 10 ^ x.shortest.exponent.toNat := by
      rw [← zpow_natCast, Int.toNat_of_nonneg hexponent]
    rw [Decimal.value, hpower] at hvalue
    exact le_trans hvalue (half_past_le hcode)
  · have hindex : 2047 * binade - 1 - x.code < 3 := by omega
    have hbound : x.code < 2047 * binade := of_decide_eq_true hfinite
    have htop : x.shortest = (top ⟨2047 * binade - 1 - x.code, hindex⟩).shortest :=
      shortest_congr (by simp only [top]; omega)
    rw [htop]
    exact Option.isSome_iff_exists.1 (ofDecimal?_shortest_top negative _)

end MediaCatalog.Binary64
