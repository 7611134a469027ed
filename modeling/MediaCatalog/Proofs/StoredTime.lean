import Mathlib.Data.List.TakeWhile
import MediaCatalog.Proofs.Calendar
import MediaCatalog.Proofs.Readable
/-!
# Stored timestamps

The stored text of an instant is a timestamp exactly when the instant lies in a year of four digits.
Every timestamp that is read, in either form, is an instant that a clock can show.
-/

namespace MediaCatalog.Time

/-! ## Numbers -/

variable {ds rest : List Char} {least most n width : Nat}

theorem digitsValue_eq : digitsValue ds = Nat.ofDigitChars 10 ds 0 := by
  simp only [digitsValue, Nat.ofDigitChars_eq_foldl, Nat.mul_comm]

theorem digitsValue_padded : digitsValue (padded width n) = n := by
  rw [digitsValue_eq, padded, Nat.ofDigitChars_append, Nat.ofDigitChars_replicate_zero, Nat.mul_zero,
    Nat.ofDigitChars_ten_toDigits]

theorem isDigit_of_mem_padded : ∀ c ∈ padded width n, c.isDigit = true := by
  intro c hc
  rcases List.mem_append.1 hc with hc | hc
  · rw [List.eq_of_mem_replicate hc]
    decide
  · exact Nat.isDigit_of_mem_toDigits (by decide) (by decide) hc

theorem length_padded (hwidth : 0 < width) (h : n < 10 ^ width) : (padded width n).length = width := by
  have hlength : (Nat.toDigits 10 n).length ≤ width :=
    (Nat.length_toDigits_le_iff (by decide) hwidth).2 h
  rw [padded, List.length_append, List.length_replicate]
  omega

/-- Digits of full width are read as their number. -/
theorem number_padded (hwidth : 0 < width) (h : n < 10 ^ width) :
    number width width (padded width n ++ rest) = some (n, rest) := by
  have hlength := length_padded hwidth h
  have hdigits : ((padded width n ++ rest).take width).takeWhile Char.isDigit = padded width n := by
    rw [List.take_left' hlength, List.takeWhile_eq_self_iff]
    exact isDigit_of_mem_padded
  simp only [number, hdigits, hlength, Nat.lt_irrefl, if_false, digitsValue_padded,
    List.drop_left' hlength]

theorem number_none {c : Char} (h : c.isDigit = false) (hleast : 0 < least) :
    number least most (c :: rest) = none := by
  cases most with
  | zero => simp [number, hleast]
  | succ most => simp [number, h, hleast]

theorem mark_self {c : Char} : mark c (c :: rest) = some rest := if_pos rfl

theorem fraction_padded (h : n < 1000) :
    fraction ('.' :: (padded 3 n ++ ['Z'])) = some (n * 1000000, ['Z']) := by
  have hlength : (padded 3 n).length = 3 := length_padded (by decide) h
  have hdigits : (padded 3 n ++ ['Z']).takeWhile Char.isDigit = padded 3 n := by
    rw [List.takeWhile_append_of_pos isDigit_of_mem_padded]
    simp
  have htake : (padded 3 n).take 9 = padded 3 n := List.take_of_length_le (by omega)
  have hdrop : (padded 3 n ++ ['Z']).drop 3 = ['Z'] := List.drop_left' hlength
  have hnil : (padded 3 n).isEmpty = false := by
    cases hpadded : padded 3 n with
    | nil =>
      rw [hpadded] at hlength
      cases hlength
    | cons => rfl
  simp [fraction, hdigits, htake, hnil, hlength, hdrop, digitsValue_padded]

theorem bind_eq_some {α β : Type} {x : Option α} {f : α → Option β} {b : β} :
    x >>= f = some b ↔ ∃ a, x = some a ∧ f a = some b :=
  Option.bind_eq_some_iff

/-! ## Instants -/

variable {t : Instant}

namespace Instant

/-- A clock can show the instant: if its second is a leap second, it is the last of a minute. -/
structure HasClock (t : Instant) : Prop where
  nanos : t.nanos < 2 * nanosPerSecond
  leap : nanosPerSecond ≤ t.nanos → t.seconds % 60 = 59

/-- The year of an instant in UTC. -/
def year (t : Instant) : Int := (t.wallClock 0).date.year

/-- The year of the instant has four digits. -/
def HasPlainYear (t : Instant) : Prop := 0 ≤ t.year ∧ t.year ≤ 9999

instance : Decidable t.HasPlainYear := inferInstanceAs (Decidable (_ ∧ _))

/-- At an offset of whole minutes a clock shows a date and a time that there are. -/
theorem HasClock.isValid_wallClock {east : Int} (h : t.HasClock) (heast : east % 60 = 0) :
    (t.wallClock east).isValid = true := by
  obtain ⟨hnanos, hleap⟩ := h
  simp only [nanosPerSecond] at hnanos hleap
  simp only [WallClock.isValid, Bool.and_eq_true, decide_eq_true_eq]
  simp only [wallClock, Date.isValid_ofDays, nanosPerSecond, true_and]
  omega

/-- The clock that shows an instant shows that instant. -/
theorem HasClock.toInstant_wallClock (h : t.HasClock) : (t.wallClock 0).toInstant 0 = t := by
  obtain ⟨hnanos, hleap⟩ := h
  obtain ⟨seconds, nanos⟩ := t
  simp only [nanosPerSecond] at hnanos hleap
  simp only [WallClock.toInstant, wallClock, Date.toDays_ofDays, nanosPerSecond, Instant.mk.injEq]
  omega

theorem HasClock.truncated (h : t.HasClock) : t.truncated.HasClock := by
  obtain ⟨hnanos, hleap⟩ := h
  simp only [nanosPerSecond] at hnanos hleap
  constructor <;> simp only [Instant.truncated, nanosPerSecond] <;> omega

/-- What a clock shows is within the widths of its text. -/
theorem HasClock.wallClock_bounds (h : t.HasClock) :
    (t.wallClock 0).date.month < 100 ∧ (t.wallClock 0).date.day < 100 ∧ (t.wallClock 0).hour < 100 ∧
      (t.wallClock 0).minute < 100 ∧ (t.wallClock 0).second < 100 ∧
        (t.wallClock 0).nanos / 1000000 < 1000 := by
  have hvalid := h.isValid_wallClock (Int.zero_emod 60)
  have hmonth := @monthLength_le (t.wallClock 0).date.year (t.wallClock 0).date.month
  simp only [WallClock.isValid, Date.isValid, Bool.and_eq_true, decide_eq_true_eq] at hvalid
  simp only [nanosPerSecond] at hvalid
  omega

theorem zoned?_wallClock (h : t.HasClock) (hyear : t.HasPlainYear) :
    zoned? (t.wallClock 0) 0 = some ⟨t, 0⟩ := by
  obtain ⟨hleast, hmost⟩ := hyear
  have hvalid := h.isValid_wallClock (Int.zero_emod 60)
  unfold year at hleast hmost
  simp only [zoned?, h.toInstant_wallClock, hvalid, Bool.true_and, Bool.and_eq_true,
    decide_eq_true_eq]
  rw [if_pos]
  simp only [leastYear, mostYear]
  omega

/-- Cutting an instant to milliseconds changes no more than the fraction that its clock shows. -/
theorem wallClock_truncated : t.truncated.wallClock 0 =
    { t.wallClock 0 with nanos := (t.wallClock 0).nanos / 1000000 * 1000000 } := by
  simp only [wallClock, Instant.truncated, nanosPerSecond, WallClock.mk.injEq, true_and]
  omega

/-- In a plain year all parts of the stored text have their widths. -/
theorem HasPlainYear.toList_stored (h : t.HasPlainYear) : t.stored.toList =
    padded 4 (t.wallClock 0).date.year.toNat ++ '-' ::
      (padded 2 (t.wallClock 0).date.month ++ '-' :: (padded 2 (t.wallClock 0).date.day ++ 'T' ::
        (padded 2 (t.wallClock 0).hour ++ ':' :: (padded 2 (t.wallClock 0).minute ++ ':' ::
          (padded 2 (t.wallClock 0).second ++ '.' ::
            (padded 3 ((t.wallClock 0).nanos / 1000000) ++ ['Z'])))))) := by
  unfold HasPlainYear year at h
  simp only [stored, String.toList_ofList, Date.text, WallClock.timeText, yearText, if_pos h,
    List.append_assoc, List.cons_append]

/-- The stored text of an instant in a plain year is read as the instant to the millisecond. -/
theorem parse?_stored (h : t.HasClock) (hyear : t.HasPlainYear) :
    parse? t.stored = some ⟨t.truncated, 0⟩ := by
  obtain ⟨hmonth, hday, hhour, hminute, hsecond, hmillis⟩ := h.wallClock_bounds
  have hzoned := zoned?_wallClock h.truncated hyear
  have htext := hyear.toList_stored
  obtain ⟨hleast, hmost⟩ := hyear
  unfold year at hleast hmost
  have hdigits : (t.wallClock 0).date.year.toNat < 10000 := by omega
  rw [parse?, htext]
  -- Each part of the text is read in turn, and leaves the parts after it.
  refine bind_eq_some.2 ⟨_, number_padded (by decide) hdigits, bind_eq_some.2 ⟨_, mark_self,
    bind_eq_some.2 ⟨_, number_padded (by decide) hmonth, bind_eq_some.2 ⟨_, mark_self,
    bind_eq_some.2 ⟨_, number_padded (by decide) hday, bind_eq_some.2 ⟨_, rfl,
    bind_eq_some.2 ⟨_, number_padded (by decide) hhour, bind_eq_some.2 ⟨_, mark_self,
    bind_eq_some.2 ⟨_, number_padded (by decide) hminute, bind_eq_some.2 ⟨_, mark_self,
    bind_eq_some.2 ⟨_, number_padded (by decide) hsecond,
    bind_eq_some.2 ⟨_, fraction_padded hmillis, bind_eq_some.2 ⟨_, rfl, ?_⟩⟩⟩⟩⟩⟩⟩⟩⟩⟩⟩⟩⟩
  rw [wallClock_truncated] at hzoned
  rw [Int.toNat_of_nonneg hleast]
  exact hzoned

/-- The stored text of any other instant is no timestamp. -/
theorem parse?_stored_of_not (h : ¬t.HasPlainYear) : parse? t.stored = none := by
  -- Any other year is written with its sign, where a timestamp has a digit.
  have hsign : ∃ c more, c.isDigit = false ∧ t.stored.toList = c :: more := by
    have hyear : ¬(0 ≤ (t.wallClock 0).date.year ∧ (t.wallClock 0).date.year ≤ 9999) := h
    simp only [stored, String.toList_ofList, Date.text, yearText, if_neg hyear]
    split
    · exact ⟨'-', _, rfl, rfl⟩
    · exact ⟨'+', _, rfl, rfl⟩
  obtain ⟨c, more, hc, htext⟩ := hsign
  rw [parse?, htext, number_none hc (by decide)]
  rfl

/-- The stored text of an instant is a timestamp if and only if its year has four digits. -/
theorem HasClock.isStamp_stored (h : t.HasClock) : IsStamp t.stored ↔ t.HasPlainYear := by
  constructor
  · rintro ⟨z, hz⟩
    by_contra hyear
    rw [parse?_stored_of_not hyear] at hz
    cases hz
  · exact fun hyear => ⟨_, parse?_stored h hyear⟩

end Instant

/-! ## Timestamps that are read -/

variable {w : WallClock} {east : Int} {z : ZonedInstant} {cs : List Char} {text : String}

/-- Offsets are whole minutes. -/
theorem offset_minutes {between : List Char → Option (List Char)}
    (h : offset between cs = some (east, rest)) : east % 60 = 0 := by
  unfold offset at h
  split at h
  · cases h
  · split at h
    · cases h
      rfl
    · split at h
      · simp only [Option.bind_eq_bind, Option.bind_eq_some_iff] at h
        obtain ⟨⟨hours, cs₁⟩, -, cs₂, -, ⟨minutes, cs₃⟩, -, h⟩ := h
        dsimp only at h
        split at h
        · obtain ⟨rfl, -⟩ := Prod.mk.inj (Option.some.inj h)
          split <;> omega
        · cases h
      · cases h

theorem looseOffset_minutes (h : looseOffset cs = some (east, rest)) : east % 60 = 0 := by
  unfold looseOffset at h
  split at h
  · split at h
    · cases h
      rfl
    · exact offset_minutes h
  · exact offset_minutes h

theorem hasClock_of_zoned? (heast : east % 60 = 0) (h : zoned? w east = some z) :
    z.instant.HasClock := by
  unfold zoned? at h
  dsimp only at h
  split at h
  next hvalid =>
    cases h
    simp only [WallClock.isValid, Bool.and_eq_true, decide_eq_true_eq] at hvalid
    simp only [nanosPerSecond] at hvalid
    constructor <;> simp only [WallClock.toInstant, nanosPerSecond] <;> omega
  next => cases h

-- The year, month, day, hour and minute are each followed by a mark; the second, the fraction and the
-- offset are not.

/-- A timestamp in the strict form is an instant that a clock can show. -/
theorem hasClock_of_parse? (h : parse? text = some z) : z.instant.HasClock := by
  iterate 5
    obtain ⟨⟨_, _⟩, -, h⟩ := bind_eq_some.1 h
    obtain ⟨_, -, h⟩ := bind_eq_some.1 h
  obtain ⟨⟨_, _⟩, -, h⟩ := bind_eq_some.1 h
  obtain ⟨⟨_, _⟩, -, h⟩ := bind_eq_some.1 h
  obtain ⟨⟨east, _⟩, heast, h⟩ := bind_eq_some.1 h
  dsimp only at h
  split at h
  · exact hasClock_of_zoned? (offset_minutes heast) h
  · cases h

/-- A timestamp in the relaxed form is a clock and an offset of whole minutes. -/
theorem exists_zoned?_of_parseRelaxed? (h : parseRelaxed? text = some z) :
    ∃ w east, east % 60 = 0 ∧ zoned? w east = some z := by
  iterate 5
    obtain ⟨⟨_, _⟩, -, h⟩ := bind_eq_some.1 h
    obtain ⟨_, -, h⟩ := bind_eq_some.1 h
  obtain ⟨⟨_, _⟩, -, h⟩ := bind_eq_some.1 h
  obtain ⟨⟨_, _⟩, -, h⟩ := bind_eq_some.1 h
  obtain ⟨⟨east, _⟩, heast, h⟩ := bind_eq_some.1 h
  dsimp only at h
  split at h
  · exact ⟨_, east, looseOffset_minutes heast, h⟩
  · cases h

/-- So it is an instant that a clock can show. -/
theorem hasClock_of_parseRelaxed? (h : parseRelaxed? text = some z) : z.instant.HasClock := by
  obtain ⟨w, east, heast, hz⟩ := exists_zoned?_of_parseRelaxed? h
  exact hasClock_of_zoned? heast hz

theorem offset_of_zoned? (h : zoned? w east = some z) : z.offset = east := by
  unfold zoned? at h
  dsimp only at h
  split at h
  · cases h
    rfl
  · cases h

/-- Timestamps that are read have offsets of whole minutes. -/
theorem offset_of_parseRelaxed? (h : parseRelaxed? text = some z) : z.offset % 60 = 0 := by
  obtain ⟨w, east, heast, hz⟩ := exists_zoned?_of_parseRelaxed? h
  rwa [offset_of_zoned? hz]

end MediaCatalog.Time
