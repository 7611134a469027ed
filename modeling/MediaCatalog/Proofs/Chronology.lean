import Mathlib.Tactic.IntervalCases
import Mathlib.Tactic.Ring
import MediaCatalog.Proofs.StoredTime
/-!
# Chronology

Instants in years of four digits, cut to milliseconds, stand in the order of their stored texts: days in
that of their dates, times of day in that of what a clock shows, and numbers of one width in that of
their digits.
-/

namespace MediaCatalog.Time

/-! ## Dates -/

namespace Date

variable {d e : Date}

/-- The earlier year, or the earlier month of one year, or the earlier day of one month. -/
def Before (d e : Date) : Prop :=
  d.year < e.year ∨ (d.year = e.year ∧ (d.month < e.month ∨ (d.month = e.month ∧ d.day < e.day)))

/-- The months of all years, counted on. -/
def monthNumber (d : Date) : Int := 12 * d.year + d.month - 3

/-- The day number before the first day of a month. Twelve months from March on make a year. -/
def monthStart (k : Int) : Int :=
  365 * (k / 12) + k / 12 / 4 - k / 12 / 100 + k / 12 / 400 + (153 * (k % 12) + 2) / 5 - 719469

theorem isValid_iff : d.isValid = true ↔
    1 ≤ d.month ∧ d.month ≤ 12 ∧ 1 ≤ d.day ∧ d.day ≤ monthLength d.year d.month := by
  simp [isValid, and_assoc]

theorem toDays_eq (h : d.isValid = true) : d.toDays = monthStart d.monthNumber + d.day := by
  obtain ⟨hm₀, hm₁, -, -⟩ := isValid_iff.1 h
  have hyear : d.monthNumber / 12 = if d.month ≤ 2 then d.year - 1 else d.year := by
    unfold monthNumber
    split <;> omega
  have hmonth : d.monthNumber % 12 = ((d.month + 9) % 12 : Nat) := by
    unfold monthNumber
    omega
  rw [monthStart, hyear, hmonth]
  simp only [toDays]
  omega

/-- A month begins when the one before it is over. -/
theorem monthStart_succ (h : d.isValid = true) :
    monthStart (d.monthNumber + 1) = monthStart d.monthNumber + monthLength d.year d.month := by
  obtain ⟨hm₀, hm₁, -, -⟩ := isValid_iff.1 h
  obtain ⟨year, month, day⟩ := d
  simp only [monthStart, monthNumber, monthLength, isLeap] at *
  interval_cases month <;> simp <;> omega

theorem monthStart_lt_succ (k : Int) : monthStart k < monthStart (k + 1) := by
  unfold monthStart
  omega

theorem monthStart_le {j k : Int} (h : j ≤ k) : monthStart j ≤ monthStart k := by
  obtain ⟨n, rfl⟩ := Int.le.dest h
  induction n with
  | zero => rw [Int.natCast_zero, Int.add_zero]
  | succ n ih =>
    have hnext := monthStart_lt_succ (j + n)
    rw [Int.natCast_succ, ← Int.add_assoc]
    exact Int.le_trans (ih (Int.le_add_of_nonneg_right (Int.natCast_nonneg n))) (Int.le_of_lt hnext)

/-- The earlier of two dates has the smaller day number. -/
theorem Before.toDays_lt (h : d.Before e) (hd : d.isValid = true) (he : e.isValid = true) :
    d.toDays < e.toDays := by
  obtain ⟨hm₀, hm₁, hday₀, hday₁⟩ := isValid_iff.1 hd
  obtain ⟨hm₀', hm₁', hday₀', hday₁'⟩ := isValid_iff.1 he
  have hnext := monthStart_succ hd
  rw [toDays_eq hd, toDays_eq he]
  by_cases hmonth : d.monthNumber = e.monthNumber
  · unfold Before at h
    unfold monthNumber at hmonth
    have hday : d.day < e.day := by omega
    rw [show d.monthNumber = e.monthNumber from hmonth]
    omega
  · have hlater : d.monthNumber + 1 ≤ e.monthNumber := by
      unfold Before at h
      unfold monthNumber at hmonth ⊢
      omega
    have hstart := monthStart_le hlater
    omega

theorem eq_iff : d = e ↔ d.year = e.year ∧ d.month = e.month ∧ d.day = e.day := by
  cases d
  cases e
  rw [mk.injEq]

theorem before_trichotomy (d e : Date) : d.Before e ∨ d = e ∨ e.Before d := by
  obtain ⟨y, m, day⟩ := d
  obtain ⟨y', m', day'⟩ := e
  simp only [Before, Date.mk.injEq]
  omega

/-- Days stand in the order of their dates. -/
theorem before_ofDays {m n : Int} : (ofDays m).Before (ofDays n) ↔ m < n := by
  have hlt := fun {m n : Int} (h : (ofDays m).Before (ofDays n)) =>
    h.toDays_lt (isValid_ofDays m) (isValid_ofDays n)
  simp only [toDays_ofDays] at hlt
  refine ⟨hlt, fun hmn => ?_⟩
  rcases before_trichotomy (ofDays m) (ofDays n) with h | h | h
  · exact h
  · have hsame := congrArg toDays h
    rw [toDays_ofDays, toDays_ofDays] at hsame
    exact absurd hmn (hsame ▸ Int.lt_irrefl m)
  · exact absurd (hlt h) (Int.not_lt.2 (Int.le_of_lt hmn))

theorem ofDays_inj {m n : Int} : ofDays m = ofDays n ↔ m = n := by
  refine ⟨fun h => ?_, congrArg ofDays⟩
  rw [← toDays_ofDays m, h, toDays_ofDays]

end Date

/-! ## Digits -/

section Digits

variable {as bs xs ys ds es : List Char} {width m n : Nat}

/-- Of two texts that begin with parts of one length, these decide first. -/
theorem append_lt_append_iff (h : as.length = bs.length) :
    as ++ xs < bs ++ ys ↔ as < bs ∨ (as = bs ∧ xs < ys) := by
  induction as generalizing bs with
  | nil =>
    obtain rfl := List.eq_nil_of_length_eq_zero h.symm
    simp
  | cons a as ih =>
    cases bs with
    | nil => cases h
    | cons b bs =>
      rw [List.cons_append, List.cons_append, List.cons_lt_cons_iff, List.cons_lt_cons_iff,
        ih (Nat.succ.inj h), List.cons.injEq]
      tauto

theorem ofDigitChars_eq (init : Nat) :
    Nat.ofDigitChars 10 ds init = init * 10 ^ ds.length + Nat.ofDigitChars 10 ds 0 := by
  induction ds generalizing init with
  | nil => simp
  | cons d ds ih =>
    rw [Nat.ofDigitChars_cons, Nat.ofDigitChars_cons, ih, ih (10 * 0 + _), List.length_cons, pow_succ]
    ring

theorem digitsValue_cons {d : Char} :
    digitsValue (d :: ds) = (d.toNat - '0'.toNat) * 10 ^ ds.length + digitsValue ds := by
  rw [digitsValue_eq, digitsValue_eq, Nat.ofDigitChars_cons, ofDigitChars_eq]
  simp

theorem digitsValue_lt (h : ∀ c ∈ ds, c.isDigit = true) : digitsValue ds < 10 ^ ds.length := by
  induction ds with
  | nil => decide
  | cons d ds ih =>
    have hrest := ih fun c hc => h c (List.mem_cons_of_mem d hc)
    have hdigit := Char.isDigit_iff_toNat.1 (h d List.mem_cons_self)
    have hbounds : '0'.toNat = 48 ∧ '9'.toNat = 57 := ⟨rfl, rfl⟩
    rw [digitsValue_cons, List.length_cons, pow_succ]
    have hbound : (d.toNat - '0'.toNat) * 10 ^ ds.length ≤ 9 * 10 ^ ds.length :=
      Nat.mul_le_mul_right _ (by omega)
    omega

/-- What stands above a place decides before what stands below it. -/
theorem mul_add_lt_iff {a b v w p : Nat} (hv : v < p) (hw : w < p) :
    a * p + v < b * p + w ↔ a < b ∨ (a = b ∧ v < w) := by
  rcases Nat.lt_trichotomy a b with hab | rfl | hba
  · have hplaces := Nat.mul_le_mul_right p (Nat.succ_le_of_lt hab)
    rw [Nat.succ_mul] at hplaces
    exact iff_of_true (by omega) (.inl hab)
  · omega
  · have hplaces := Nat.mul_le_mul_right p (Nat.succ_le_of_lt hba)
    rw [Nat.succ_mul] at hplaces
    exact iff_of_false (by omega) (by omega)

/-- Texts of as many digits stand in the order of their numbers. -/
theorem digits_lt_iff (hds : ∀ c ∈ ds, c.isDigit = true) (hes : ∀ c ∈ es, c.isDigit = true)
    (hlength : ds.length = es.length) : ds < es ↔ digitsValue ds < digitsValue es := by
  induction ds generalizing es with
  | nil =>
    obtain rfl := List.eq_nil_of_length_eq_zero hlength.symm
    simp
  | cons d ds ih =>
    cases es with
    | nil => cases hlength
    | cons e es =>
      have hlength := Nat.succ.inj hlength
      obtain ⟨hd, hds⟩ := List.forall_mem_cons.1 hds
      obtain ⟨he, hes⟩ := List.forall_mem_cons.1 hes
      have hvalue := digitsValue_lt hds
      rw [hlength] at hvalue
      rw [Char.isDigit_iff_toNat] at hd he
      have hzero : '0'.toNat = 48 := rfl
      have hless : d < e ↔ d.toNat - '0'.toNat < e.toNat - '0'.toNat := by
        rw [show d < e ↔ d.toNat < e.toNat from Iff.rfl]
        omega
      have hsame : d = e ↔ d.toNat - '0'.toNat = e.toNat - '0'.toNat := by
        rw [← Char.toNat_inj]
        omega
      rw [List.cons_lt_cons_iff, ih hds hes hlength, digitsValue_cons, digitsValue_cons, hlength,
        mul_add_lt_iff hvalue (digitsValue_lt hes), hless, hsame]

variable (hm : m < 10 ^ width) (hn : n < 10 ^ width) (hwidth : 0 < width)
include hm hn hwidth

theorem padded_lt_iff : padded width m < padded width n ↔ m < n := by
  rw [digits_lt_iff isDigit_of_mem_padded isDigit_of_mem_padded
    ((length_padded hwidth hm).trans (length_padded hwidth hn).symm), digitsValue_padded,
    digitsValue_padded]

/-- Of two texts that begin with numbers of one width, these decide first. -/
theorem padded_append_lt_iff :
    padded width m ++ xs < padded width n ++ ys ↔ m < n ∨ (m = n ∧ xs < ys) := by
  have hsame : padded width m = padded width n ↔ m = n := by
    refine ⟨fun h => ?_, congrArg _⟩
    have hvalue := congrArg digitsValue h
    rwa [digitsValue_padded, digitsValue_padded] at hvalue
  rw [append_lt_append_iff ((length_padded hwidth hm).trans (length_padded hwidth hn).symm),
    padded_lt_iff hm hn hwidth, hsame]

end Digits

/-! ## Clocks -/

namespace WallClock

variable {w v : WallClock}

/-- The earlier hour, or the earlier minute of one hour, and so on to the milliseconds. -/
def HasEarlierTime (w v : WallClock) : Prop :=
  w.hour < v.hour ∨ (w.hour = v.hour ∧
    (w.minute < v.minute ∨ (w.minute = v.minute ∧
      (w.second < v.second ∨ (w.second = v.second ∧ w.nanos / 1000000 < v.nanos / 1000000)))))

/-- The earlier date, or the earlier time of one date. -/
def Before (w v : WallClock) : Prop :=
  w.date.Before v.date ∨ (w.date = v.date ∧ w.HasEarlierTime v)

end WallClock

/-! ## Instants -/

namespace Instant

variable {t u : Instant}

/-- To the millisecond the instant is earlier than another. A leap second is later than all of the
second that it belongs to, and earlier than the next. -/
def Before (t u : Instant) : Prop :=
  t.truncated.seconds < u.truncated.seconds ∨
    (t.truncated.seconds = u.truncated.seconds ∧ t.truncated.nanos < u.truncated.nanos)

instance : Decidable (t.Before u) := inferInstanceAs (Decidable (_ ∨ _))

/-- What is cut off is not stored. -/
theorem stored_truncated : t.truncated.stored = t.stored := by
  simp only [stored, wallClock_truncated, Date.text, WallClock.timeText,
    Nat.mul_div_cancel _ (show 0 < 1000000 by decide)]

variable (ht : t.HasClock) (hu : u.HasClock)
include ht hu

theorem hasEarlierTime_wallClock (hday : t.seconds / 86400 = u.seconds / 86400) :
    (t.wallClock 0).HasEarlierTime (u.wallClock 0) ↔ t.Before u := by
  obtain ⟨ht, htleap⟩ := ht
  obtain ⟨hu, huleap⟩ := hu
  simp only [nanosPerSecond] at ht htleap hu huleap
  simp only [WallClock.HasEarlierTime, Before, truncated, wallClock, nanosPerSecond]
  omega

/-- Clocks show instants in their order. -/
theorem before_wallClock : (t.wallClock 0).Before (u.wallClock 0) ↔ t.Before u := by
  have hdate : ∀ t : Instant, (t.wallClock 0).date = Date.ofDays (t.seconds / 86400) := by
    simp [wallClock]
  rw [WallClock.Before, hdate, hdate, Date.before_ofDays, Date.ofDays_inj]
  rcases Int.lt_trichotomy (t.seconds / 86400) (u.seconds / 86400) with hday | hday | hday
  · exact iff_of_true (.inl hday) (.inl (by simp only [truncated]; omega))
  · simp only [hday, Int.lt_irrefl, false_or, true_and]
    exact hasEarlierTime_wallClock ht hu hday
  · refine iff_of_false (by omega) ?_
    simp only [Before, truncated]
    omega

/-- The sixtieth second of a minute is later than all before it, and earlier than the next minute. -/
theorem before_of_leap (hleap : (t.wallClock 0).second = 60) :
    ((u.wallClock 0).second < 60 → u.seconds / 60 = t.seconds / 60 → u.Before t) ∧
      (t.seconds / 60 < u.seconds / 60 → t.Before u) := by
  obtain ⟨ht, htleap⟩ := ht
  obtain ⟨hu, huleap⟩ := hu
  simp only [nanosPerSecond] at ht htleap hu huleap
  simp only [wallClock, nanosPerSecond] at hleap ⊢
  simp only [Before, truncated]
  omega

variable (htyear : t.HasPlainYear) (huyear : u.HasPlainYear)
include htyear huyear

/-- Stored texts stand in the order of what their clocks show. -/
theorem stored_lt_iff_wallClock : t.stored < u.stored ↔ (t.wallClock 0).Before (u.wallClock 0) := by
  obtain ⟨hmonth, hday, hhour, hminute, hsecond, hmillis⟩ := ht.wallClock_bounds
  obtain ⟨hmonth', hday', hhour', hminute', hsecond', hmillis'⟩ := hu.wallClock_bounds
  have htext := htyear.toList_stored
  have hutext := huyear.toList_stored
  unfold HasPlainYear year at htyear huyear
  have hyear : (t.wallClock 0).date.year.toNat < 10 ^ 4 := by omega
  have hyear' : (u.wallClock 0).date.year.toNat < 10 ^ 4 := by omega
  rw [String.lt_iff, htext, hutext]
  -- Each part in turn decides what those after it do not.
  rw [padded_append_lt_iff hyear hyear' (by decide), List.cons_lt_cons_self,
    padded_append_lt_iff hmonth hmonth' (by decide), List.cons_lt_cons_self,
    padded_append_lt_iff hday hday' (by decide), List.cons_lt_cons_self,
    padded_append_lt_iff hhour hhour' (by decide), List.cons_lt_cons_self,
    padded_append_lt_iff hminute hminute' (by decide), List.cons_lt_cons_self,
    padded_append_lt_iff hsecond hsecond' (by decide), List.cons_lt_cons_self,
    padded_append_lt_iff hmillis hmillis' (by decide)]
  have hless : (t.wallClock 0).date.year.toNat < (u.wallClock 0).date.year.toNat ↔
      (t.wallClock 0).date.year < (u.wallClock 0).date.year := by omega
  have hsame : (t.wallClock 0).date.year.toNat = (u.wallClock 0).date.year.toNat ↔
      (t.wallClock 0).date.year = (u.wallClock 0).date.year := by omega
  have hends : ¬['Z'] < ['Z'] := List.lt_irrefl _
  simp only [hless, hsame, hends, WallClock.Before, WallClock.HasEarlierTime, Date.Before, Date.eq_iff,
    and_or_left, or_assoc, and_assoc, and_false, or_false]

/-- Stored texts stand in the order of their instants. -/
theorem stored_lt_stored : t.stored < u.stored ↔ t.Before u :=
  (stored_lt_iff_wallClock ht hu htyear huyear).trans (before_wallClock ht hu)

/-- Stored texts are the same when the instants are, to the millisecond. -/
theorem stored_eq_stored : t.stored = u.stored ↔ t.truncated = u.truncated := by
  constructor
  · intro h
    have hparsed := parse?_stored ht htyear
    rw [h, parse?_stored hu huyear] at hparsed
    exact (ZonedInstant.mk.inj (Option.some.inj hparsed)).1.symm
  · intro h
    rw [← stored_truncated, h, stored_truncated]

end Instant

end MediaCatalog.Time
