import MediaCatalog.Proofs.ClockText
import MediaCatalog.Proofs.Rounding
import MediaCatalog.Proofs.TakenOrder
/-!
# Searching by the calendar

A condition on the year or the month when a media item was taken is tried on the date that the row
shows, at the offset that it shows. In a leap second the item has neither year nor month.
-/

namespace MediaCatalog

/-! ## Whole numbers -/

/-- The number of a document is a whole one. -/
def Json.Number.IsWhole (k : Json.Number) (n : Int) : Prop :=
  k = .int n ∨ ∃ x, k = .double x ∧ x.compareInt n = .eq

namespace Binary64

variable {x : Binary64} {a n : Int}

/-- Beside an integer a double stands as the integer that it is equal to. -/
theorem compareInt_of_eq (h : x.compareInt n = .eq) : x.compareInt a = Ord.compare n a := by
  have hvalue : x.signed = n * x.denominator := Std.compare_eq_iff_eq.1 h
  have hpos : (0 : Int) < x.denominator := Int.natCast_pos.2 denominator_pos
  rw [compareInt, hvalue]
  simp only [compareOfLessAndEq, Ord.compare, mul_lt_mul_iff_left₀ hpos, mul_left_inj' hpos.ne']

theorem magnitude_largest : (largest true).magnitude = (largest false).magnitude ∧
    (2 : ℚ) ^ 62 ≤ (largest false).magnitude := by
  have hsignificand : (largest false).significand = 9007199254740991 := by decide +kernel
  have hexponent : (largest false).exponent = 971 := by decide +kernel
  refine ⟨rfl, ?_⟩
  have hpower : (2 : ℚ) ^ (10 : Int) ≤ 2 ^ (971 : Int) := zpow_le_zpow_right₀ (by norm_num) (by decide)
  rw [magnitude, hsignificand, hexponent]
  calc (2 : ℚ) ^ 62 ≤ (9007199254740991 : Nat) * 2 ^ (10 : Int) := by norm_num
    _ ≤ (9007199254740991 : Nat) * 2 ^ (971 : Int) := mul_le_mul_of_nonneg_left hpower (by norm_num)

theorem negative_of_nearest? {negative : Bool} {num den : Nat}
    (h : nearest? negative num den = some x) : x.negative = negative := by
  unfold nearest? at h
  dsimp only at h
  split at h
  · rw [← Option.some.inj h]
  · cases h

/-- An integer past those that are stored is rounded to a double past half of them. -/
theorem nearest_far (hn : 2 ^ 63 ≤ n.natAbs) : (Json.Number.int n).nearest.negative = decide (n < 0) ∧
    (2 : ℚ) ^ 62 ≤ (Json.Number.int n).nearest.magnitude := by
  rw [Json.Number.nearest]
  cases hnearest : ofInt? n with
  | none =>
    refine ⟨rfl, ?_⟩
    rw [Option.getD_none]
    cases decide (n < 0)
    · exact magnitude_largest.2
    · exact magnitude_largest.1 ▸ magnitude_largest.2
  | some x =>
    have hlarge : (2 : ℚ) ^ 63 ≤ (n.natAbs : ℚ) := by exact_mod_cast hn
    have hhalf := le_magnitude_nearest? Nat.one_pos (by omega) hnearest
    rw [Nat.cast_one, div_one] at hhalf
    refine ⟨negative_of_nearest? hnearest, ?_⟩
    rw [Option.getD_some]
    linarith

theorem compareInt_far (hn : 2 ^ 63 ≤ n.natAbs) (ha : a.natAbs < 2 ^ 62) :
    (Json.Number.int n).nearest.compareInt a = Ord.compare n a := by
  obtain ⟨hnegative, hlarge⟩ := nearest_far hn
  generalize (Json.Number.int n).nearest = x at *
  have hpos : (0 : ℚ) < x.denominator := Nat.cast_pos.2 denominator_pos
  rw [← numerator_div_denominator, le_div_iff₀ hpos] at hlarge
  have hlarge' : 2 ^ 62 * (x.denominator : Int) ≤ x.numerator := by exact_mod_cast hlarge
  have hpos' : (0 : Int) < x.denominator := Int.natCast_pos.2 denominator_pos
  have hlow := Int.mul_lt_mul_of_pos_right (show -2 ^ 62 < a by omega) hpos'
  have hhigh := Int.mul_lt_mul_of_pos_right (show a < 2 ^ 62 by omega) hpos'
  rw [compareInt, signed, hnegative]
  by_cases hsign : n < 0
  · have hless : -(x.numerator : Int) < a * x.denominator := by linarith
    rw [if_pos (decide_eq_true hsign), compare_lt_iff_lt.2 hless, compare_lt_iff_lt.2 (by omega)]
  · have hmore : a * x.denominator < (x.numerator : Int) := by linarith
    rw [if_neg (by simpa using hsign), compare_gt_iff_gt.2 hmore, compare_gt_iff_gt.2 (by omega)]

end Binary64

theorem Cell.order?_of_isWhole {k : Json.Number} {a n : Int} (hk : k.IsWhole n)
    (ha : a.natAbs < 2 ^ 62) : order? (integer a) k.cell = some (compare a n) := by
  rcases hk with rfl | ⟨x, rfl, hx⟩
  · by_cases hstored : Json.minInteger ≤ n ∧ n ≤ Json.maxInteger
    · simp only [Json.Number.cell, Json.Number.integer?, if_pos hstored, order?]
    · have hfar : 2 ^ 63 ≤ n.natAbs := by
        unfold Json.minInteger Json.maxInteger at hstored
        omega
      simp only [Json.Number.cell, Json.Number.integer?, if_neg hstored, order?,
        Binary64.compareInt_far hfar ha, ← Std.OrientedCmp.eq_swap]
  · simp only [Json.Number.cell, Json.Number.integer?, order?, Json.Number.nearest,
      Binary64.compareInt_of_eq hx, ← Std.OrientedCmp.eq_swap]

/-- How an integer stands to another when an operator compares them. -/
def Operator.Compares (op : Operator) (a n : Int) : Prop :=
  match op with
  | .equal => a = n
  | .less => a < n
  | .lessOrEqual => a ≤ n
  | _ => False

instance {op : Operator} {a n : Int} : Decidable (op.Compares a n) :=
  match op with
  | .equal => inferInstanceAs (Decidable (a = n))
  | .less => inferInstanceAs (Decidable (a < n))
  | .lessOrEqual => inferInstanceAs (Decidable (a ≤ n))
  | .empty | .contains | .startsWith | .endsWith | .matches => inferInstanceAs (Decidable False)

namespace Operator

variable {op : Operator} {invert : Bool} {k : Json.Number} {a n : Int}

/-- An integer is compared with a whole number as the two integers are. -/
theorem truth_of_isWhole (hop : op.isOrder = true) (hk : k.IsWhole n) (ha : a.natAbs < 2 ^ 62) :
    op.truth invert (.integer a) k.cell = .yes ↔ (op.Compares a n ↔ invert = false) := by
  have horder := Cell.order?_of_isWhole hk ha
  cases op with
  | equal =>
    rw [truth, Cell.same, horder, Truth.ofBool_bne_eq_yes, Compares, Std.compare_eq_iff_eq]
  | less => rw [truth, horder, Truth.ofBool_bne_eq_yes, Compares, compare_lt_iff_lt]
  | lessOrEqual => rw [truth, horder, Truth.ofBool_bne_eq_yes, Compares, compare_le_iff_le]
  | empty | contains | startsWith | endsWith | «matches» => cases hop

theorem cell_ne_null : k.cell ≠ .null := by
  unfold Json.Number.cell
  split <;> exact Cell.noConfusion

/-- No order holds of a missing value, which is only different from a number. -/
theorem truth_order_null (hop : op.isOrder = true) :
    op.truth invert .null k.cell = .yes ↔ op = .equal ∧ invert = true := by
  cases op with
  | equal => simp [truth_missing (.inl rfl) cell_ne_null]
  | less | lessOrEqual => simp [truth, Cell.order?]
  | empty | contains | startsWith | endsWith | «matches» => cases hop

end Operator

/-! ## Clocks that are shown -/

namespace Time

variable {t : Instant}

/-- What a clock shows at the offset. -/
def ZonedInstant.clock (z : ZonedInstant) : WallClock := z.instant.wallClock z.offset

/-- It shows a date and a time that there are, at an offset of whole minutes. -/
theorem isValid_clock_localize {zone : Option String} (h : t.HasClock) :
    (localize t zone).clock.isValid = true := by
  refine h.isValid_wallClock ?_
  cases hzone : zone.bind parseZone? with
  | none =>
    rw [localize, hzone]
    rfl
  | some east =>
    obtain ⟨text, -, hparse⟩ := Option.bind_eq_some_iff.1 hzone
    rw [localize, hzone]
    exact parseZone?_minutes hparse

end Time

namespace Store

variable {s : Store} {row : ViewRow} {shown : MediaRow} {z : Time.ZonedInstant}

/-- The calendar goes by the clock of the instant that is shown. -/
theorem localTime?_of_readRow (h : s.readRow row = .ok shown) :
    row.values.localTime? = shown.metadata.taken.map (·.clock) := by
  rw [taken_of_readRow h]
  unfold StoredMetadata.localTime?
  cases row.values.taken with
  | none => rfl
  | some text => cases hz : Time.parse? text <;> simp [hz, Time.ZonedInstant.clock]

theorem isValid_clock (h : s.readRow row = .ok shown) (hz : shown.metadata.taken = some z) :
    z.clock.isValid = true := by
  rw [taken_of_readRow h] at hz
  obtain ⟨z', hparse, rfl⟩ := Option.map_eq_some_iff.1 hz
  obtain ⟨text, -, hparse⟩ := Option.bind_eq_some_iff.1 hparse
  exact Time.isValid_clock_localize (Time.hasClock_of_parse? hparse)

end Store

/-! ## The condition -/

/-- A part of a date that conditions speak of. -/
inductive CalendarPart where
  | year
  | month

namespace CalendarPart

def modifier : CalendarPart → Modifier
  | year => .year
  | month => .month

def of : CalendarPart → Time.Date → Int
  | year, d => d.year
  | month, d => d.month

end CalendarPart

namespace Query

variable {s : Store} {catalog : String} {row : ViewRow} {shown : MediaRow} {z : Time.ZonedInstant}
  {part : CalendarPart} {op : Operator} {k : Json.Number} {value : Option Json.Number}
  {invert : Bool} {limit : Nat} {n : Int}

/-- The condition on a part of the date when an item was taken. -/
def calendar (part : CalendarPart) (op : Operator) (value : Option Json.Number) (invert : Bool) : Query :=
  .field ⟨"taken", some part.modifier, op, value.map .number, invert⟩

theorem check_calendar (hlimit : 1 ≤ limit)
    (hfits : (op.isOrder = true ∧ value ≠ none) ∨ (op = .empty ∧ value = none)) :
    (calendar part op value invert).check false limit = .ok () := by
  refine checkNode_field.2 ⟨hlimit, FieldQuery.check_eq_ok.2 ⟨.metadata .taken, .integer, rfl, ?_, ?_⟩⟩
  · cases part <;> rfl
  · rcases hfits with ⟨hop, hvalue⟩ | ⟨rfl, rfl⟩
    · obtain ⟨k, rfl⟩ := Option.ne_none_iff_exists'.1 hvalue
      exact .number (.inl rfl) hop rfl
    · exact .empty rfl rfl

theorem exists_compile_calendar : ∃ o, (calendar part op value invert).compile catalog .media =
    .ok (.compare ⟨.media .taken, some part.modifier, op, o, invert⟩) := by
  have hcompile : (calendar part op value invert).compile catalog .media =
      (FieldQuery.operand? ⟨"taken", some part.modifier, op, value.map .number, invert⟩
        (.media .taken)).map fun o => .compare ⟨.media .taken, some part.modifier, op, o, invert⟩ := by
    cases part <;> rfl
  rw [hcompile]
  cases value with
  | none => exact ⟨none, rfl⟩
  | some k =>
    refine ⟨some k.operand, ?_⟩
    cases hk : k.integer? <;>
      simp [FieldQuery.operand?, FieldQuery.operand, Json.Number.operand, hk, Except.map, Json.Number.double?]

theorem meaning_calendar : (calendar part op value invert).meaning s catalog row none =
    op.truth invert (.ofInteger? ((row.values.localTime?.bind Modifier.dayOf).map part.of))
      ((value.map (·.cell)).getD .null) := by
  cases part <;> cases value <;> rfl

/-- The condition compares the part that the row shows, if it shows one. -/
theorem meaning_calendar_of_taken (h : s.readRow row = .ok shown) (hz : shown.metadata.taken = some z)
    (hleast : 0 ≤ z.clock.date.year) (hmost : z.clock.date.year ≤ 9999) (hop : op.isOrder = true)
    (hk : k.IsWhole n) : (calendar part op (some k) invert).meaning s catalog row none = .yes ↔
      if z.clock.second < 60 then (op.Compares (part.of z.clock.date) n ↔ invert = false)
      else op = .equal ∧ invert = true := by
  rw [meaning_calendar, Store.localTime?_of_readRow h, hz, Option.map_some, Option.bind_some,
    Modifier.dayOf]
  by_cases hplain : z.clock.second < 60
  · have hdate : z.clock.date.isValid = true := by
      have hclock := Store.isValid_clock h hz
      simp only [Time.WallClock.isValid, Bool.and_eq_true] at hclock
      exact hclock.1.1.1.1
    have hsmall : (part.of z.clock.date).natAbs < 2 ^ 62 := by
      obtain ⟨-, hmonth, -, -⟩ := Time.Date.isValid_iff.1 hdate
      cases part <;> simp only [CalendarPart.of] <;> omega
    rw [if_pos hplain, if_pos ⟨hplain, hmost⟩]
    exact Operator.truth_of_isWhole hop hk hsmall
  · rw [if_neg hplain, if_neg fun hday => hplain hday.1]
    exact Operator.truth_order_null hop

/-- No part is shown where no instant is, and in a leap second. -/
theorem meaning_calendar_empty (h : s.readRow row = .ok shown)
    (hmost : ∀ z, shown.metadata.taken = some z → z.clock.date.year ≤ 9999) :
    (calendar part .empty none invert).meaning s catalog row none = .yes ↔
      ((∀ z, shown.metadata.taken = some z → 60 ≤ z.clock.second) ↔ invert = false) := by
  have hnull : Cell.ofInteger? ((row.values.localTime?.bind Modifier.dayOf).map part.of) = .null ↔
      ∀ z, shown.metadata.taken = some z → 60 ≤ z.clock.second := by
    rw [Store.localTime?_of_readRow h]
    cases htaken : shown.metadata.taken with
    | none => simp [Cell.ofInteger?]
    | some z =>
      have hyear := hmost z htaken
      by_cases hplain : z.clock.second < 60
      · simp [Modifier.dayOf, hplain, hyear, Cell.ofInteger?]
      · simp [Modifier.dayOf, hplain, Cell.ofInteger?, Nat.not_lt.1 hplain]
  rw [meaning_calendar, ← hnull]
  exact Truth.ofBool_bne_eq_yes

end Query

/-! ## Searches -/

namespace SearchService

variable {service : SearchService} {caller catalog : String} {part : CalendarPart} {op : Operator}
  {value : Option Json.Number} {invert : Bool}

/-- Searches of a catalog by the calendar go by the clocks that its rows show. -/
structure GoesByClocks (service : SearchService) (caller catalog : String) : Prop where
  /-- A search finds the rows with a part of the date that stands to a whole number as its operator
  says, or does not if it is inverted. In a leap second a row is only different from every number. -/
  finds : ∀ part op k n invert, op.isOrder = true → k.IsWhole n →
    ∃ rows, service.search caller catalog (.calendar part op (some k) invert) = .ok rows ∧
      ∀ row ∈ service.store.view catalog, ∀ shown z, service.store.readRow row = .ok shown →
        shown.metadata.taken = some z → 0 ≤ z.clock.date.year → z.clock.date.year ≤ 9999 →
          ((∃ r ∈ rows, r.id = row.id) ↔
            if z.clock.second < 60 then (op.Compares (part.of z.clock.date) n ↔ invert = false)
            else op = .equal ∧ invert = true)
  /-- A part is missing where a row does not say when it was taken, and in a leap second. -/
  missing : ∀ part invert,
    ∃ rows, service.search caller catalog (.calendar part .empty none invert) = .ok rows ∧
      ∀ row ∈ service.store.view catalog, ∀ shown, service.store.readRow row = .ok shown →
        (∀ z, shown.metadata.taken = some z → z.clock.date.year ≤ 9999) →
          ((∃ r ∈ rows, r.id = row.id) ↔
            ((∀ z, shown.metadata.taken = some z → 60 ≤ z.clock.second) ↔ invert = false))
  /-- The date is the day of the text that the clock is written as, of which there is none in a leap
  second. -/
  text : ∀ row ∈ service.store.view catalog, ∀ shown z, service.store.readRow row = .ok shown →
    shown.metadata.taken = some z → 0 ≤ z.clock.date.year → z.clock.date.year ≤ 9999 →
      (Cell.text (String.ofList z.clock.text)).day? =
        if z.clock.second < 60 then some z.clock.date else none

/-- A search by the calendar keeps within all limits, so it finds its rows. -/
theorem exists_finds_calendar (hread : (service.authorize caller catalog).canRead = true)
    (hdepth : 1 ≤ service.maxDepth) (hdocuments : service.store.hasMalformed = false)
    (hrows : ∀ row ∈ service.store.view catalog, service.store.Readable row)
    (hfits : (op.isOrder = true ∧ value ≠ none) ∨ (op = .empty ∧ value = none)) :
    ∃ shown rows, service.Finds caller catalog (.calendar part op value invert) shown rows := by
  obtain ⟨o, hcompile⟩ := @Query.exists_compile_calendar catalog part op value invert
  refine exists_finds_of_isModest hread (Query.check_calendar hdepth hfits) hdocuments hrows hcompile
    ?_ ?_ ?_
  · cases part <;> cases op <;> cases invert <;> cases o <;> rfl
  · cases part <;> cases op <;> cases invert <;> cases o <;> rfl
  · intro x hx
    obtain rfl := List.mem_singleton.1 hx
    rcases hfits with ⟨hop, -⟩ | ⟨rfl, -⟩
    · cases op <;> first | rfl | cases hop
    · rfl

/-- In every store that operations lead to, whose rows can be read back, the searches of a catalog by the
calendar go by the clocks that are shown. -/
theorem goesByClocks (hlater : Store.empty.Later (fun _ _ => True) service.store)
    (hread : (service.authorize caller catalog).canRead = true) (hdepth : 1 ≤ service.maxDepth)
    (hrows : ∀ row ∈ service.store.view catalog, service.store.Readable row) :
    service.GoesByClocks caller catalog := by
  have hkeyed : service.store.Keyed := hlater.kept Store.kept_keyed ⟨.nil, .nil, .nil⟩
  have hdocuments := hlater.hasMalformed_eq_false
  constructor
  case finds =>
    intro part op k n invert hop hk
    obtain ⟨found, rows, hfinds⟩ := exists_finds_calendar hread hdepth hdocuments hrows
      (.inl ⟨hop, Option.some_ne_none k⟩)
    refine ⟨rows, hfinds.1, fun row hrow shown z hshown hz hleast hmost => ?_⟩
    rw [hfinds.exists_row_iff hkeyed.items hrow,
      Query.meaning_calendar_of_taken hshown hz hleast hmost hop hk]
  case missing =>
    intro part invert
    obtain ⟨found, rows, hfinds⟩ := exists_finds_calendar hread hdepth hdocuments hrows
      (.inr ⟨rfl, rfl⟩)
    refine ⟨rows, hfinds.1, fun row hrow shown hshown hmost => ?_⟩
    rw [hfinds.exists_row_iff hkeyed.items hrow, Query.meaning_calendar_empty hshown hmost]
  case text =>
    intro row hrow shown z hshown hz hleast hmost
    rw [Time.day?_text hleast hmost (Store.isValid_clock hshown hz), Modifier.dayOf]
    simp only [hmost, and_true]

/-- Three media items taken at the end of the year 2016 in UTC: one in the leap second, one by a clock that
shows the new year, and one in a zone that cannot be read. -/
def newYear : List Operation :=
  let late : Time.ZonedInstant := ⟨⟨1483227000, 0⟩, 3600⟩
  [.createUser "owner@example.com" "Owner", .createCatalog "home" "Home",
    .grant "owner@example.com" "home" false,
    .createMedia "one" "home" "2020-01-01T00:00:00.000Z" (.onlyTaken ⟨⟨1483228799, 1000000000⟩, 0⟩),
    .createMedia "two" "home" "2020-01-01T00:00:00.000Z" (.onlyTaken late),
    .createMedia "three" "home" "2020-01-01T00:00:00.000Z"
      { Metadata.onlyTaken late with zone := some "nowhere" }]

theorem readable_newYear : ∀ row ∈ (Store.after newYear).view "home",
    (Store.after newYear).Readable row := by
  have hstamps : ∀ row ∈ (Store.after newYear).view "home", row.HasStamps := by decide
  exact fun row hrow => (hstamps row hrow).readable_of_linkless rfl

/-- The second is of the year 2017 and the third of 2016. The first is of no year, and different from
both. -/
theorem goesByClocks_newYear :
    let service := ofStore (.after newYear)
    (Store.empty.Later (fun _ _ => True) service.store ∧
      (service.authorize "owner@example.com" "home").canRead = true ∧ 1 ≤ service.maxDepth ∧
      ∀ row ∈ service.store.view "home", service.store.Readable row) ∧
    (∃ rows, service.search "owner@example.com" "home"
        (.calendar .year .equal (some (.int 2016)) false) = .ok rows ∧
      (¬∃ r ∈ rows, r.id = "one") ∧ (¬∃ r ∈ rows, r.id = "two") ∧ ∃ r ∈ rows, r.id = "three") ∧
    (∃ rows, service.search "owner@example.com" "home"
        (.calendar .year .equal (some (.int 2016)) true) = .ok rows ∧
      (∃ r ∈ rows, r.id = "one") ∧ (∃ r ∈ rows, r.id = "two") ∧ ¬∃ r ∈ rows, r.id = "three") ∧
    ∃ rows, service.search "owner@example.com" "home" (.calendar .month .empty none false) = .ok rows ∧
      (∃ r ∈ rows, r.id = "one") ∧ ¬∃ r ∈ rows, r.id = "two" := by
  intro service
  have hlaws := @goesByClocks (ofStore (.after newYear)) "owner@example.com" "home" Store.later_after rfl
    (by decide) readable_newYear
  have hview : (Store.after newYear).view "home" = [_, _, _] := rfl
  have hmem₁ : _ ∈ (Store.after newYear).view "home" := hview ▸ List.mem_cons_self
  have hmem₂ : _ ∈ (Store.after newYear).view "home" :=
    hview ▸ List.mem_cons_of_mem _ List.mem_cons_self
  have hmem₃ : _ ∈ (Store.after newYear).view "home" :=
    hview ▸ List.mem_cons_of_mem _ (List.mem_cons_of_mem _ List.mem_cons_self)
  obtain ⟨one, hone⟩ := Store.exists_readRow.2 (readable_newYear _ hmem₁)
  obtain ⟨two, htwo⟩ := Store.exists_readRow.2 (readable_newYear _ hmem₂)
  obtain ⟨three, hthree⟩ := Store.exists_readRow.2 (readable_newYear _ hmem₃)
  have hone' : one.metadata.taken = some ⟨⟨1483228799, 1000000000⟩, 0⟩ :=
    (Store.taken_of_readRow hone).trans (by decide)
  have htwo' : two.metadata.taken = some ⟨⟨1483227000, 0⟩, 3600⟩ :=
    (Store.taken_of_readRow htwo).trans (by decide)
  have hthree' : three.metadata.taken = some ⟨⟨1483227000, 0⟩, 0⟩ :=
    (Store.taken_of_readRow hthree).trans (by decide)
  -- The inverted search finds the others.
  have hyears : ∀ invert, ∃ rows, service.search "owner@example.com" "home"
      (.calendar .year .equal (some (.int 2016)) invert) = .ok rows ∧
        ((∃ r ∈ rows, r.id = "one") ↔ invert = true) ∧
        ((∃ r ∈ rows, r.id = "two") ↔ invert = true) ∧
        ((∃ r ∈ rows, r.id = "three") ↔ invert = false) := by
    intro invert
    obtain ⟨rows, hsearch, hfinds⟩ := hlaws.finds .year .equal _ _ invert rfl (.inl rfl)
    refine ⟨rows, hsearch, ?_, ?_, ?_⟩
    · refine (hfinds _ hmem₁ one _ hone hone' (by decide) (by decide)).trans ?_
      cases invert <;> decide
    · refine (hfinds _ hmem₂ two _ htwo htwo' (by decide) (by decide)).trans ?_
      cases invert <;> decide
    · refine (hfinds _ hmem₃ three _ hthree hthree' (by decide) (by decide)).trans ?_
      cases invert <;> decide
  refine ⟨⟨Store.later_after, rfl, by decide, readable_newYear⟩, ?_, ?_, ?_⟩
  · obtain ⟨rows, hsearch, hone, htwo, hthree⟩ := hyears false
    exact ⟨rows, hsearch, by simp [hone], by simp [htwo], hthree.2 rfl⟩
  · obtain ⟨rows, hsearch, hone, htwo, hthree⟩ := hyears true
    exact ⟨rows, hsearch, hone.2 rfl, htwo.2 rfl, by simp [hthree]⟩
  · obtain ⟨rows, hsearch, hfinds⟩ := hlaws.missing .month false
    refine ⟨rows, hsearch, ?_, fun h => ?_⟩
    · refine (hfinds _ hmem₁ one hone ?_).2 ?_ <;> simp only [hone', Option.some.injEq, forall_eq'] <;>
        decide
    · have hmissing := (hfinds _ hmem₂ two htwo ?_).1 h
      · simp only [htwo', Option.some.injEq, forall_eq'] at hmissing
        exact absurd hmissing (by decide)
      · simp only [htwo', Option.some.injEq, forall_eq']
        decide

end SearchService

end MediaCatalog
