import MediaCatalog.Proofs.StoredTime
import MediaCatalog.Time.Zone
/-!
# Zones that are read back

The text of an offset names that offset, in hours up to fourteen. Farther from UTC it names none.
-/

namespace MediaCatalog.Time

variable {cs : List Char} {east : Int} {h m n width : Nat}

/-! ## Digits -/

theorem padded_ne_nil : padded width n ≠ [] := by
  intro hnil
  have hdigits : Nat.toDigits 10 n = [] := (List.append_eq_nil_iff.1 hnil).2
  have hpos := @Nat.length_toDigits_pos 10 n
  rw [hdigits] at hpos
  exact Nat.lt_irrefl 0 hpos

theorem plainNumber?_padded : plainNumber? (padded width n) = some n := by
  have hdigits : (padded width n).all Char.isDigit = true := List.all_eq_true.2 isDigit_of_mem_padded
  simp [plainNumber?, padded_ne_nil, hdigits, digitsValue_padded]

/-- Hours and minutes are told apart by the first colon. -/
theorem splitHours_padded :
    splitHours (padded 2 h ++ ':' :: padded 2 m) = (padded 2 h, padded 2 m) := by
  have hhours : ∀ c ∈ padded 2 h, decide (c ≠ ':') = true := by
    intro c hc
    refine decide_eq_true ?_
    rintro rfl
    exact absurd (isDigit_of_mem_padded _ hc) (by decide)
  rw [splitHours, if_pos (by simp), List.takeWhile_append_of_pos hhours,
    List.dropWhile_append_of_pos hhours]
  simp

theorem offsetSeconds?_padded : offsetSeconds? (padded 2 h ++ ':' :: padded 2 m) =
    if 14 < h ∨ 60 ≤ m then none else some (h * 3600 + m * 60) := by
  rw [offsetSeconds?, splitHours_padded]
  simp [plainNumber?_padded]

/-! ## Blanks -/

theorem isBlank_of_isDigit {c : Char} (hc : c.isDigit = true) : Text.isBlank c = false := by
  rw [Char.isDigit_iff_toNat] at hc
  have hbounds : '0'.toNat = 48 ∧ '9'.toNat = 57 := ⟨rfl, rfl⟩
  simp only [Text.isBlank, Bool.or_eq_false_iff, Bool.and_eq_false_iff, decide_eq_false_iff_not,
    beq_eq_false_iff_ne]
  omega

theorem trimStart_eq_self (hcs : ∀ c ∈ cs, Text.isBlank c = false) : Text.trimStart cs = cs := by
  cases cs with
  | nil => rfl
  | cons c cs => exact List.dropWhile_cons_of_neg (by simp [hcs c List.mem_cons_self])

/-- A text without blanks stays as it is. -/
theorem trim_eq_self (hcs : ∀ c ∈ cs, Text.isBlank c = false) : Text.trim cs = cs := by
  have hreverse : ∀ c ∈ cs.reverse, Text.isBlank c = false :=
    fun c hc => hcs c (List.mem_reverse.1 hc)
  rw [Text.trim, trimStart_eq_self hcs, trimStart_eq_self hreverse, List.reverse_reverse]

theorem isBlank_signedText : ∀ c ∈ signedText east m, Text.isBlank c = false := by
  intro c hc
  simp only [signedText, List.mem_cons, List.mem_append] at hc
  rcases hc with rfl | hhours | rfl | hminutes
  · split <;> rfl
  · exact isBlank_of_isDigit (isDigit_of_mem_padded c hhours)
  · rfl
  · exact isBlank_of_isDigit (isDigit_of_mem_padded c hminutes)

/-! ## Offsets -/

/-- Zones are named up to this many seconds from UTC, which is fifteen hours. -/
def zoneLimit : Nat := 54000

/-- A zone that begins with a sign is that of the hours and minutes after it. -/
theorem parseZone?_sign {c : Char} (hsign : c = '+' ∨ c = '-')
    (hblank : ∀ d ∈ c :: cs, Text.isBlank d = false) : parseZone? (String.ofList (c :: cs)) =
      (offsetSeconds? cs).map fun n : Nat => if c = '+' then (n : Int) else -(n : Int) := by
  rcases hsign with rfl | rfl
  all_goals
    simp only [parseZone?, String.toList_ofList, trim_eq_self hblank]
    rw [if_neg (by simp), withoutUtc]
    · cases hseconds : offsetSeconds? cs <;> simp [hseconds]
    · simp

/-- An offset of whole minutes has no seconds in its text. -/
theorem offsetText_of_minutes (hminutes : east % 60 = 0) :
    offsetText east = signedText east (east.natAbs / 60) := by
  have hseconds : east.natAbs % 60 = 0 := by omega
  rw [offsetText, if_pos hseconds, List.append_nil]

/-- An offset of whole minutes is read back from its text where zones have names. -/
theorem parseZone?_offsetText (hminutes : east % 60 = 0) :
    parseZone? (String.ofList (offsetText east)) =
      if east.natAbs < zoneLimit then some east else none := by
  have hseconds : offsetSeconds? (padded 2 (east.natAbs / 60 / 60) ++
      ':' :: padded 2 (east.natAbs / 60 % 60)) =
      if east.natAbs < zoneLimit then some east.natAbs else none := by
    rw [offsetSeconds?_padded, zoneLimit]
    split <;> split <;> first | omega | exact congrArg some (by omega) | rfl
  have htext : offsetText east = (if east < 0 then '-' else '+') ::
      (padded 2 (east.natAbs / 60 / 60) ++ ':' :: padded 2 (east.natAbs / 60 % 60)) :=
    offsetText_of_minutes hminutes
  have hblank := @isBlank_signedText east (east.natAbs / 60)
  have hvalue : (if (if east < 0 then '-' else '+') = '+' then (east.natAbs : Int)
      else -(east.natAbs : Int)) = east := by
    by_cases heast : east < 0
    · rw [if_pos heast, if_neg (by decide)]
      omega
    · rw [if_neg heast, if_pos rfl]
      omega
  rw [signedText] at hblank
  rw [htext, parseZone?_sign (by split <;> simp) hblank, hseconds]
  by_cases hnear : east.natAbs < zoneLimit
  · rw [if_pos hnear, if_pos hnear]
    exact congrArg some hvalue
  · rw [if_neg hnear, if_neg hnear]
    rfl

theorem offsetSeconds?_minutes (h : offsetSeconds? cs = some n) : n % 60 = 0 := by
  obtain ⟨hours, -, h⟩ := bind_eq_some.1 h
  obtain ⟨minutes, -, h⟩ := bind_eq_some.1 h
  split at h
  · cases h
  · obtain rfl := Option.some.inj h
    omega

/-- Zones are whole minutes from UTC. -/
theorem parseZone?_minutes {zone : String} (h : parseZone? zone = some east) : east % 60 = 0 := by
  unfold parseZone? at h
  dsimp only at h
  split at h
  · cases h
    rfl
  · split at h
    -- Either sign stands before the seconds.
    iterate 2
      next =>
        simp only [Option.bind_eq_bind, Option.map_bind, Option.bind_eq_some_iff] at h
        obtain ⟨n, hn, h⟩ := h
        have hminutes := offsetSeconds?_minutes hn
        obtain rfl := Option.some.inj h
        dsimp only
        omega
    · cases h

end MediaCatalog.Time
