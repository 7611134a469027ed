import MediaCatalog.Time.Instant
import Mathlib.Tactic.IntervalCases
import Mathlib.Tactic.Linarith
/-!
# The calendar

Every day number has a date, which exists and has that number.
-/

namespace MediaCatalog.Time

variable {d e y n : Int}

/-! ## Years

A year of an era ends with February, so the leap day is its last day. -/

/-- The days of an era before one of its years. -/
def yearStart (y : Int) : Int := 365 * y + y / 4 - y / 100

/-- The year of an era that a day of the era lies in. -/
def yearOfEra (d : Int) : Int := (d - d / 1460 + d / 36524 - d / 146096) / 365

/-- A day of an era is counted by centuries, then by spans of four years, then by years. -/
theorem exists_spans (h₀ : 0 ≤ d) (h₁ : d < 146097) : ∃ c q k r : Int,
    d = 36524 * c + 1461 * q + 365 * k + r ∧ 0 ≤ c ∧ c ≤ 3 ∧ 0 ≤ q ∧ q ≤ 24 ∧ 0 ≤ k ∧ k ≤ 3 ∧
      0 ≤ r ∧ r ≤ 365 ∧ (r = 365 → k = 3 ∧ (q = 24 → c = 3)) := by
  obtain ⟨c, hc⟩ : ∃ c, c = min 3 (d / 36524) := ⟨_, rfl⟩
  obtain ⟨q, hq⟩ : ∃ q, q = (d - 36524 * c) / 1461 := ⟨_, rfl⟩
  obtain ⟨k, hk⟩ : ∃ k, k = min 3 ((d - 36524 * c - 1461 * q) / 365) := ⟨_, rfl⟩
  refine ⟨c, q, k, d - 36524 * c - 1461 * q - 365 * k, ?_⟩
  omega

theorem yearOfEra_spec (h₀ : 0 ≤ d) (h₁ : d < 146097) :
    0 ≤ yearOfEra d ∧ yearOfEra d < 400 ∧ 0 ≤ d - yearStart (yearOfEra d) ∧
      d - yearStart (yearOfEra d) ≤ 365 ∧
        (d - yearStart (yearOfEra d) = 365 → ∀ era, isLeap (yearOfEra d + era * 400 + 1) = true) := by
  obtain ⟨c, q, k, r, hd, hc₀, hc₁, hq₀, hq₁, hk₀, hk₁, hr₀, hr₁, hlast⟩ := exists_spans h₀ h₁
  have hcenturies : d / 36524 - d / 146096 = c := by
    rcases (by omega : 1461 * q + 365 * k + r ≤ 36523 ∨ d = 146096) with h | h
    · rw [show d / 36524 = c by omega, show d / 146096 = 0 by omega, sub_zero]
    · rw [show c = 3 by omega, h]
      rfl
  -- The span's leap day is the day that the division by 1460 counts once too often.
  obtain ⟨carry, hspans, hcarry₀, hcarry₁⟩ :
      ∃ carry, d / 1460 = 25 * c + q + carry ∧ 0 ≤ r - carry ∧ r - carry ≤ 364 := by
    by_cases h : 24 * c + q + 365 * k + r < 1460
    · exact ⟨0, by omega, by omega, by omega⟩
    · exact ⟨1, by omega, by omega, by omega⟩
  have hyear : yearOfEra d = 100 * c + 4 * q + k := by
    have hdays : d - d / 1460 + d / 36524 - d / 146096 =
        365 * (100 * c + 4 * q + k) + (r - carry) := by
      linarith
    have hlast : r - carry < 365 := Int.lt_add_one_of_le hcarry₁
    rw [yearOfEra, hdays, Int.mul_add_ediv_left _ _ (by decide),
      Int.ediv_eq_zero_of_lt hcarry₀ hlast, add_zero]
  have hquarter : (100 * c + 4 * q + k) / 4 = 25 * c + q := by omega
  have hhundredth : (100 * c + 4 * q + k) / 100 = c := by omega
  have hstart : d - yearStart (yearOfEra d) = r := by
    rw [hyear]
    unfold yearStart
    omega
  rw [hstart, hyear]
  refine ⟨by omega, by omega, hr₀, hr₁, fun hr era => ?_⟩
  simp only [isLeap, Bool.and_eq_true, Bool.or_eq_true, decide_eq_true_eq]
  omega

/-! ## Dates -/

theorem monthLength_le {year : Int} {month : Nat} : monthLength year month ≤ 31 := by
  unfold monthLength
  split
  · split <;> decide
  · split <;> decide

/-- The date of the day `r` of the year `y` that begins in March. -/
def Date.ofMarch (y r : Int) : Date :=
  let m := (5 * r + 2) / 153
  let month := if m < 10 then (m + 3).toNat else (m - 9).toNat
  ⟨if month ≤ 2 then y + 1 else y, month, (r - (153 * m + 2) / 5 + 1).toNat⟩

theorem Date.ofDays_eq : ofDays n =
    ofMarch (yearOfEra ((n + 719468) % 146097) + (n + 719468) / 146097 * 400)
      ((n + 719468) % 146097 - yearStart (yearOfEra ((n + 719468) % 146097))) :=
  rfl

theorem Date.isValid_ofMarch {r : Int} (h₀ : 0 ≤ r) (h₁ : r ≤ 365)
    (hleap : r = 365 → isLeap (y + 1) = true) : (ofMarch y r).isValid = true := by
  by_cases hr : r = 365
  · have hlength : monthLength (y + 1) 2 = 29 := by
      rw [monthLength, if_pos rfl, if_pos (hleap hr)]
    subst hr
    simp [ofMarch, isValid, hlength]
  · have hlength : 28 ≤ monthLength (y + 1) 2 := by
      rw [monthLength, if_pos rfl]
      split <;> decide
    obtain ⟨m, hm⟩ : ∃ m, m = (5 * r + 2) / 153 := ⟨_, rfl⟩
    have hm₀ : 0 ≤ m := by omega
    have hm₁ : m ≤ 11 := by omega
    simp only [ofMarch, ← hm, isValid, Bool.and_eq_true, decide_eq_true_eq]
    -- In each month the days of the year are an interval, which has the length of the month.
    interval_cases m <;> simp [monthLength] at hlength ⊢ <;> omega

theorem Date.toDays_ofMarch {r : Int} (h₀ : 0 ≤ r) (h₁ : r ≤ 365) :
    (ofMarch y r).toDays = y / 400 * 146097 + (yearStart (y % 400) + r) - 719468 := by
  obtain ⟨m, hm⟩ : ∃ m, m = (5 * r + 2) / 153 := ⟨_, rfl⟩
  have hm₀ : 0 ≤ m := by omega
  have hm₁ : m ≤ 11 := by omega
  simp only [ofMarch, ← hm, toDays, yearStart]
  interval_cases m <;> simp <;> omega

variable (n)

/-- The day that is shown as a date is the date's day. -/
theorem Date.toDays_ofDays : (ofDays n).toDays = n := by
  obtain ⟨hyear₀, hyear₁, hday₀, hday₁, -⟩ :=
    @yearOfEra_spec ((n + 719468) % 146097) (by omega) (by omega)
  rw [ofDays_eq, toDays_ofMarch hday₀ hday₁, Int.add_mul_ediv_right _ _ (by decide),
    Int.add_mul_emod_self_right, Int.ediv_eq_zero_of_lt hyear₀ hyear₁, Int.emod_eq_of_lt hyear₀ hyear₁]
  omega

theorem Date.isValid_ofDays : (ofDays n).isValid = true := by
  obtain ⟨-, -, hday₀, hday₁, hleap⟩ :=
    @yearOfEra_spec ((n + 719468) % 146097) (by omega) (by omega)
  exact isValid_ofMarch hday₀ hday₁ fun h => hleap h _

end MediaCatalog.Time
