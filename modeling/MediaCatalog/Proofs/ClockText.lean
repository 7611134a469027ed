import MediaCatalog.Predicate.Meaning
import MediaCatalog.Proofs.Chronology
import MediaCatalog.Proofs.Zones
/-!
# Clocks as texts

What a clock shows is written as a date and a time. The day of such a text is the date that the clock
shows, except in a leap second, of which no day is read.
-/

namespace MediaCatalog.Time

/-! ## Julian days

A date is counted in the Julian calendar and shifted by the leap days that the Gregorian one leaves out.
Years begin in March. -/

namespace JulianTime

variable {d : Date} {y n : Int} {ms : Nat}

/-- The year of a date. January and February belong to the year before. -/
def marchYear (d : Date) : Int := if d.month ≤ 2 then d.year - 1 else d.year

/-- The month of a date. January and February are the last of their year. -/
def marchMonth (d : Date) : Int := if d.month ≤ 2 then d.month + 12 else d.month

/-- The days before a year. -/
def yearStart (y : Int) : Int := 36525 * (y + 4716) / 100

/-- The days before a month, counted from the November before its year. -/
def monthStart (m : Int) : Int := 306001 * (m + 1) / 10000

/-- The day of the year of a date, counted like the months. -/
def dayOfYear (d : Date) : Int := monthStart (marchMonth d) + d.day

/-- From the year -1 on it makes no difference how a century is rounded. -/
theorem leapDays_eq (hy : -1 ≤ y) :
    2 - y.tdiv 100 + (y.tdiv 100).tdiv 4 = 2 - y / 100 + y / 100 / 4 := by
  rcases Int.lt_or_le y 0 with hneg | hpos
  · obtain rfl : y = -1 := by omega
    decide
  · rw [Int.tdiv_eq_ediv_of_nonneg hpos, Int.tdiv_eq_ediv_of_nonneg (by omega)]

theorem millis_ofDate (h : -1 ≤ marchYear d) : (ofDate d).millis =
    (yearStart (marchYear d) + dayOfYear d + (2 - marchYear d / 100 + marchYear d / 100 / 4)) *
      millisPerDay - 3049 * (millisPerDay / 2) := by
  rw [← leapDays_eq h]
  unfold yearStart dayOfYear marchMonth monthStart marchYear
  simp only [ofDate, Int.add_assoc]

/-- Only a leap year has the last day of February. -/
theorem dayOfYear_bounds (h : d.isValid = true) : 123 ≤ dayOfYear d ∧
    (dayOfYear d ≤ 487 ∨ (dayOfYear d ≤ 488 ∧ isLeap (marchYear d + 1) = true)) := by
  obtain ⟨hm₀, hm₁, hday₀, hday₁⟩ := Date.isValid_iff.1 h
  obtain ⟨year, month, day⟩ := d
  simp only [dayOfYear, monthStart, marchMonth, marchYear, monthLength] at *
  cases hleap : isLeap year <;> rw [hleap] at hday₁ <;> interval_cases month <;>
    simp [hleap] at hday₁ ⊢ <;> omega

section

variable (hfirst : 123 ≤ n) (hlast : n ≤ 487 ∨ (n ≤ 488 ∧ isLeap (y + 1) = true))
include hfirst hlast

/-- The century of a day is told from its number. -/
theorem century_eq :
    (4 * (yearStart y + n + (2 - y / 100 + y / 100 / 4) - 1524) + 128179) / 146097 - 52 =
      y / 100 - 4 := by
  simp only [isLeap, Bool.and_eq_true, Bool.or_eq_true, decide_eq_true_eq] at hlast
  have hstart : yearStart y = 365 * (y + 4716) + (y / 4 + 1179) := by
    unfold yearStart
    omega
  have hcentury : y / 100 = y / 4 / 25 := by omega
  rw [hstart, hcentury]
  -- The last four years of a century come closest to the next.
  have hspan : y / 4 % 25 < 24 ∨ y / 4 % 25 = 24 := by omega
  have hyear : y % 4 = 0 ∨ y % 4 = 1 ∨ y % 4 = 2 ∨ y % 4 = 3 := by omega
  rcases hyear with h | h | h | h <;> rcases hspan with h' | h' <;> omega

/-- The year is told from the number in the Julian calendar. -/
theorem year_eq : (20 * (yearStart y + n) - 2442) / 7305 = y + 4716 := by
  simp only [isLeap, Bool.and_eq_true, Bool.or_eq_true, decide_eq_true_eq] at hlast
  unfold yearStart
  omega

end

/-- The month is told from the day of the year. -/
theorem month_eq (h : d.isValid = true) : 10000 * dayOfYear d / 306001 = marchMonth d + 1 := by
  obtain ⟨hm₀, hm₁, hday₀, hday₁⟩ := Date.isValid_iff.1 h
  obtain ⟨year, month, day⟩ := d
  simp only [dayOfYear, monthStart, marchMonth, monthLength] at *
  cases hleap : isLeap year <;> rw [hleap] at hday₁ <;> interval_cases month <;>
    simp at hday₁ ⊢ <;> omega

variable (h : d.isValid = true) (hyear : 0 ≤ d.year) (hms : ms < 86400000)
include h hyear hms

/-- A date is told from any time of it. -/
theorem date_add : (⟨(ofDate d).millis + ms⟩ : JulianTime).date = d := by
  have hy : -1 ≤ marchYear d := by
    unfold marchYear
    split <;> omega
  obtain ⟨hfirst, hlast⟩ := dayOfYear_bounds h
  have hcentury := century_eq hfirst hlast
  have hyears := year_eq hfirst hlast
  have hz : ((ofDate d).millis + ms + millisPerDay / 2) / millisPerDay =
      yearStart (marchYear d) + dayOfYear d +
        (2 - marchYear d / 100 + marchYear d / 100 / 4) - 1524 := by
    rw [millis_ofDate hy]
    unfold millisPerDay
    omega
  have hb : yearStart (marchYear d) + dayOfYear d +
      (2 - marchYear d / 100 + marchYear d / 100 / 4) - 1524 + 1 + (marchYear d / 100 - 4) -
        (marchYear d / 100 - 4 + 100) / 4 + 25 + 1524 = yearStart (marchYear d) + dayOfYear d := by
    omega
  have hstart : 36525 * (marchYear d + 4716) / 100 = yearStart (marchYear d) := rfl
  have hmonths : dayOfYear d - 306001 * (marchMonth d + 1) / 10000 = d.day :=
    add_sub_cancel_left _ _
  have hmonth : (if marchMonth d + 1 < 14 then marchMonth d + 1 - 1 else marchMonth d + 1 - 13) =
      d.month := by
    obtain ⟨hm₀, hm₁, -, -⟩ := Date.isValid_iff.1 h
    unfold marchMonth
    split <;> split <;> omega
  simp only [date, hz, hcentury, hb, hyears, hstart, add_sub_cancel_left, month_eq h, hmonths, hmonth]
  refine Date.eq_iff.2 ⟨?_, rfl, rfl⟩
  simp only [marchYear]
  split <;> split <;> omega

/-- The days of years of four digits are counted. -/
theorem isCounted_add (hmost : d.year ≤ 9999) :
    (⟨(ofDate d).millis + ms⟩ : JulianTime).isCounted = true := by
  obtain ⟨hm₀, hm₁, -, -⟩ := Date.isValid_iff.1 h
  obtain ⟨hfirst, hlast⟩ := dayOfYear_bounds h
  have hy : -1 ≤ marchYear d := by
    unfold marchYear
    split <;> omega
  have hdays : yearStart (marchYear d) + dayOfYear d +
      (2 - marchYear d / 100 + marchYear d / 100 / 4) ≤ 5375008 := by
    rcases (by unfold marchYear; split <;> omega : marchYear d ≤ 9998 ∨ marchYear d = 9999)
      with hbefore | hlastyear
    · unfold yearStart
      omega
    · -- The last year that is counted ends with December.
      have hmonth : marchMonth d ≤ 12 := by
        unfold marchYear at hlastyear
        unfold marchMonth
        split <;> omega
      have hday := (Date.isValid_iff.1 h).2.2.2.trans monthLength_le
      rw [hlastyear]
      unfold dayOfYear monthStart yearStart
      omega
  simp only [isCounted, latest, Bool.and_eq_true, decide_eq_true_eq, millis_ofDate hy, millisPerDay]
  unfold yearStart at *
  omega

end JulianTime

/-! ## Texts -/

variable {w : WallClock} {rest : List Char} {most n : Nat}

theorem twoDigits_padded (hn : n < 100) (hmost : n ≤ most) :
    twoDigits most (padded 2 n ++ rest) = some (n, rest) := by
  rw [twoDigits, number_padded (by decide) hn]
  simp [Option.filter, hmost]

/-- The milliseconds of the time of day that a clock shows. -/
def WallClock.dayMillis (w : WallClock) : Nat := (w.hour * 60 + w.minute) * 60000 + w.second * 1000

/-- A time of day is read, but for a leap second. -/
theorem dayTime?_timeText (hw : w.isValid = true) :
    dayTime? w.timeText = if w.second < 60 then some ⟨w.dayMillis, 0⟩ else none := by
  simp only [WallClock.isValid, Bool.and_eq_true, decide_eq_true_eq] at hw
  obtain ⟨⟨⟨⟨-, hhour⟩, hminute⟩, hsecond⟩, -⟩ := hw
  have htext : w.timeText =
      padded 2 w.hour ++ ':' :: (padded 2 w.minute ++ ':' :: (padded 2 w.second ++ [])) := by
    simp [WallClock.timeText]
  have hminutes : hourMinute 24 w.timeText =
      some (w.hour * 60 + w.minute, ':' :: (padded 2 w.second ++ [])) := by
    rw [htext]
    exact bind_eq_some.2 ⟨_, twoDigits_padded (by omega) (by omega), bind_eq_some.2 ⟨_, mark_self,
      bind_eq_some.2 ⟨_, twoDigits_padded (by omega) (by omega), rfl⟩⟩⟩
  split
  next hplain =>
    have hmillis : secondMillis (':' :: (padded 2 w.second ++ [])) = some (w.second * 1000, []) :=
      bind_eq_some.2 ⟨_, twoDigits_padded (by omega) (by omega), rfl⟩
    exact bind_eq_some.2 ⟨_, hminutes, bind_eq_some.2 ⟨_, hmillis, rfl⟩⟩
  next hleap =>
    have hmillis : secondMillis (':' :: (padded 2 w.second ++ [])) = none := by
      have hnone : twoDigits 59 (padded 2 w.second ++ []) = none := by
        rw [twoDigits, number_padded (by decide) (by omega)]
        simp [Option.filter]
        omega
      rw [secondMillis, hnone]
      rfl
    simp only [dayTime?, hminutes, hmillis, Option.bind_eq_bind, Option.bind_some, Option.bind_none]

/-- The date and the time that a clock shows, with a blank between them. -/
def WallClock.text (w : WallClock) : List Char := w.date.text ++ ' ' :: w.timeText

/-- What stands between the two is dropped. -/
theorem dropWhile_timeText : (' ' :: w.timeText).dropWhile (fun c => Text.isAsciiBlank c || c = 'T') =
    w.timeText := by
  rw [List.dropWhile_cons_of_pos (by decide), WallClock.timeText]
  cases hhour : padded 2 w.hour with
  | nil => exact absurd hhour padded_ne_nil
  | cons c cs =>
    have hdigit : c.isDigit = true := isDigit_of_mem_padded c (hhour ▸ List.mem_cons_self)
    have hletter : c ≠ 'T' := by
      rintro rfl
      exact absurd hdigit (by decide)
    exact List.dropWhile_cons_of_neg (by simp [Text.isAsciiBlank, isBlank_of_isDigit hdigit, hletter])

/-- Two digits before a third are no hours. -/
theorem hourMinute_none {a b c : Char} (ha : a.isDigit = true) (hb : b.isDigit = true)
    (hc : c.isDigit = true) : hourMinute most (a :: b :: c :: rest) = none := by
  have hcolon : c ≠ ':' := by
    rintro rfl
    exact absurd hc (by decide)
  have hnumber : number 2 2 (a :: b :: c :: rest) = some (digitsValue [a, b], c :: rest) := by
    simp [number, ha, hb]
  rw [hourMinute, twoDigits, hnumber]
  cases hmost : decide (digitsValue [a, b] ≤ most) <;> simp [Option.filter, hmost, mark, hcolon]

section

variable (hleast : 0 ≤ w.date.year) (hmost : w.date.year ≤ 9999)
include hleast hmost

theorem WallClock.text_eq : w.text = padded 4 w.date.year.toNat ++ '-' ::
    (padded 2 w.date.month ++ '-' :: (padded 2 w.date.day ++ ' ' :: w.timeText)) := by
  simp [text, Date.text, yearText, hleast, hmost]

theorem WallClock.exists_text_eq_cons : ∃ c cs, c.isDigit = true ∧ w.text = c :: cs := by
  rw [text_eq hleast hmost]
  cases hyear : padded 4 w.date.year.toNat with
  | nil => exact absurd hyear padded_ne_nil
  | cons c cs => exact ⟨c, _, isDigit_of_mem_padded c (hyear ▸ List.mem_cons_self), rfl⟩

/-- The text by itself is no time of day. -/
theorem dayTime?_text : dayTime? w.text = none := by
  have hlength : (padded 4 w.date.year.toNat).length = 4 := length_padded (by decide) (by omega)
  have hdigits := @isDigit_of_mem_padded w.date.year.toNat 4
  have htext := WallClock.text_eq hleast hmost
  obtain ⟨a, b, c, d, hyear⟩ := List.length_eq_four.1 hlength
  rw [hyear] at hdigits htext
  have hnone : hourMinute 24 w.text = none := by
    rw [htext]
    exact hourMinute_none (hdigits a (by simp)) (hdigits b (by simp)) (hdigits c (by simp))
  rw [dayTime?, hnone]
  rfl

theorem untilNul_text : Cell.untilNul (String.ofList w.text) = w.text := by
  rw [Cell.untilNul, String.toList_ofList, List.takeWhile_eq_self_iff]
  intro c hc
  have hmark : ∀ d : Char, d.isDigit = true → d ≠ '\x00' := by
    rintro d hd rfl
    exact absurd hd (by decide)
  simp only [WallClock.text_eq hleast hmost, WallClock.timeText, List.mem_append,
    List.mem_cons] at hc
  refine decide_eq_true ?_
  rcases hc with h | rfl | h | rfl | h | rfl | (h | rfl | h) | rfl | h
  all_goals first | decide | exact hmark c (isDigit_of_mem_padded c h)

/-- The text is no number, which ends with its digits. -/
theorem ofText?_text : Numeral.ofText? w.text = none := by
  obtain ⟨c, more, hc, htext⟩ := WallClock.exists_text_eq_cons hleast hmost
  have hstart : w.text.dropWhile Text.isAsciiBlank = w.text := by
    rw [htext]
    exact List.dropWhile_cons_of_neg (by simp [Text.isAsciiBlank, isBlank_of_isDigit hc])
  have hsign : Numeral.splitSign w.text = (false, w.text) := by
    rw [htext, Numeral.splitSign]
    all_goals
      intro rest hcons
      rw [(List.cons.inj hcons).1] at hc
      exact absurd hc (by decide)
  have hrest : w.text.dropWhile Char.isDigit = '-' :: (padded 2 w.date.month ++ '-' ::
      (padded 2 w.date.day ++ ' ' :: w.timeText)) := by
    rw [WallClock.text_eq hleast hmost, List.dropWhile_append_of_pos isDigit_of_mem_padded]
    rfl
  have hdash : Text.isAsciiBlank '-' = false := by decide
  simp [Numeral.ofText?, hstart, hsign, hrest, Numeral.splitFraction, Numeral.splitPower, hdash]

variable (hw : w.isValid = true)
include hw

/-- A date and a time are read, but for a leap second. -/
theorem dateTime?_text :
    dateTime? w.text = if w.second < 60 then some (w.date, some ⟨w.dayMillis, 0⟩) else none := by
  have hdate : w.date.isValid = true := by
    simp only [WallClock.isValid, Bool.and_eq_true] at hw
    exact hw.1.1.1.1
  obtain ⟨hmonth, hmonth', hday, hday'⟩ := Date.isValid_iff.1 hdate
  have hlength := hday'.trans monthLength_le
  have htext := WallClock.text_eq hleast hmost
  have hbefore : w.text.head? ≠ some '-' := by
    obtain ⟨c, cs, hc, hcons⟩ := WallClock.exists_text_eq_cons hleast hmost
    rw [hcons]
    rintro hhead
    rw [Option.some.inj hhead] at hc
    exact absurd hc (by decide)
  have hyear : number 4 4 w.text = some (w.date.year.toNat, _) :=
    htext ▸ number_padded (by decide) (by omega)
  have hparts : (decide (w.date.month = 0) || decide (w.date.day = 0)) = false := by
    simp only [Bool.or_eq_false_iff, decide_eq_false_iff_not]
    omega
  simp only [dateTime?, hbefore, if_false, hyear, Option.bind_eq_bind, Option.bind_some, mark_self,
    twoDigits_padded (show w.date.month < 100 by omega) hmonth',
    twoDigits_padded (show w.date.day < 100 by omega) hlength, hparts, Bool.false_eq_true,
    dropWhile_timeText, dayTime?_timeText hw, Int.toNat_of_nonneg hleast]
  by_cases hplain : w.second < 60
  · simp only [if_pos hplain]
  · have htime : w.timeText.isEmpty = false := by
      simp [WallClock.timeText]
    simp only [if_neg hplain, htime, Bool.false_eq_true, if_false]

/-- The day of the text is the date that the clock shows, but for a leap second. -/
theorem dayOfText?_text : dayOfText? w.text = Modifier.dayOf w := by
  have hdate : w.date.isValid = true := by
    simp only [WallClock.isValid, Bool.and_eq_true] at hw
    exact hw.1.1.1.1
  rw [dayOfText?, dateTime?_text hleast hmost hw, Modifier.dayOf]
  by_cases hplain : w.second < 60
  · have hmillis : w.dayMillis < 86400000 := by
      simp only [WallClock.isValid, Bool.and_eq_true, decide_eq_true_eq] at hw
      unfold WallClock.dayMillis
      omega
    have hof : JulianTime.of w.date ⟨w.dayMillis, 0⟩ =
        ⟨(JulianTime.ofDate w.date).millis + w.dayMillis⟩ := by
      simp [JulianTime.of]
    have hcounted := JulianTime.isCounted_add hdate hleast hmillis hmost
    have hsame := JulianTime.date_add hdate hleast hmillis
    have hyear : ¬w.date.year < -4713 := by omega
    rw [if_pos hplain, if_pos ⟨hplain, hmost⟩]
    simp only [Option.getD_some, hof, hcounted, hsame, hyear, decide_false, Bool.not_true,
      Bool.or_self, Bool.false_eq_true, if_false, ite_self]
  · rw [if_neg hplain, if_neg fun h => hplain h.1]
    simp only [dayTime?_text hleast hmost, Option.bind_none]

/-- So it is where the text is kept in a cell. -/
theorem day?_text : (Cell.text (String.ofList w.text)).day? = Modifier.dayOf w := by
  have hday : (Cell.text (String.ofList w.text)).day? =
      (dayOfText? (Cell.untilNul (String.ofList w.text))).or
        (((Numeral.ofText? (Cell.untilNul (String.ofList w.text))).map Cell.ofNumeral).bind fun c =>
          c.toBinary64?.bind dayOfNumber?) := rfl
  rw [hday, untilNul_text hleast hmost, dayOfText?_text hleast hmost hw, ofText?_text hleast hmost]
  exact Option.or_none

end

end MediaCatalog.Time
