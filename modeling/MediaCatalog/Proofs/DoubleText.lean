import MediaCatalog.Proofs.JsonScalars
import MediaCatalog.Proofs.ShortestDecimal
/-!
# Texts of doubles

The text of every finite double is read as a number, though perhaps as another double.
-/

namespace MediaCatalog.Json

open Binary64 (Decimal ofDecimal?)

variable {ds zs rest cs : List Char} {c : Char} {n : Nat} {e : Int} {negative : Bool}

/-! ## Parts of numbers -/

/-- A list of digits, with one at least. -/
def AreDigits (ds : List Char) : Prop := ds ≠ [] ∧ ∀ c ∈ ds, c.isDigit = true

/-- The digits of a number end here. -/
def EndsDigits (rest : List Char) : Prop := ∀ c, rest.head? = some c → c.isDigit = false

theorem areDigits_toDigits : AreDigits (Nat.toDigits 10 n) :=
  ⟨Nat.toDigits_ne_nil, fun _ hc => Nat.isDigit_of_mem_toDigits (by decide) (by decide) hc⟩

theorem splitDigits_append (h : EndsDigits rest) :
    (cs ++ rest).takeWhile Char.isDigit = cs.takeWhile Char.isDigit ∧
      (cs ++ rest).dropWhile Char.isDigit = cs.dropWhile Char.isDigit ++ rest := by
  induction cs with
  | nil =>
    cases rest with
    | nil => exact ⟨rfl, rfl⟩
    | cons c rest => simp [h c rfl]
  | cons c cs ih => by_cases hc : c.isDigit <;> simp [hc, ih]

theorem takeWhile_digits (h : AreDigits ds) (hrest : EndsDigits rest) :
    (ds ++ rest).takeWhile Char.isDigit = ds ∧ (ds ++ rest).dropWhile Char.isDigit = rest := by
  obtain ⟨htake, hdrop⟩ := @splitDigits_append rest ds hrest
  rw [htake, hdrop, List.takeWhile_eq_self_iff.2 h.2, List.dropWhile_eq_nil_iff.2 h.2]
  exact ⟨rfl, List.nil_append rest⟩

theorem readWhole_append_digits (h : AreDigits ds) (hhead : ds.head? ≠ some '0')
    (hrest : EndsDigits rest) : readWhole (ds ++ rest) = .ok (ds, rest) := by
  obtain ⟨htake, hdrop⟩ := takeWhile_digits h hrest
  have hhead' : (ds ++ rest).head? ≠ some '0' := by
    rwa [List.head?_append_of_ne_nil _ h.1]
  rw [readWhole_digits hhead', htake, hdrop, if_neg (by simpa using h.1)]

theorem readFraction_append_digits (h : AreDigits ds) (hrest : EndsDigits rest) :
    readFraction ('.' :: (ds ++ rest)) = .ok (some ds, rest) := by
  obtain ⟨htake, hdrop⟩ := takeWhile_digits h hrest
  rw [readFraction_point, htake, hdrop, if_neg (by simpa using h.1)]

theorem readPower_toDigits : readPower negative (Nat.toDigits 10 n) =
    .ok (some (if negative then -(n : Int) else n), []) := by
  have hend : EndsDigits [] := nofun
  obtain ⟨htake, hdrop⟩ := takeWhile_digits (@areDigits_toDigits n) hend
  rw [List.append_nil] at htake hdrop
  have hvalue : (Nat.toDigits 10 n).foldl (fun n d => n * 10 + digitValue d) 0 = n := by
    have hdigits := @Nat.ofDigitChars_ten_toDigits n
    rw [Nat.ofDigitChars_eq_foldl] at hdigits
    simpa only [Nat.mul_comm, digitValue] using hdigits
  rw [readPower]
  simp only [htake, hdrop, hvalue]
  rw [if_neg (by simp)]

/-- A sign and digits are read as an exponent. -/
theorem readExponent_toDigits :
    readExponent ('e' :: (if e < 0 then '-' else '+') :: Nat.toDigits 10 e.natAbs) =
      .ok (some e, []) := by
  have hminus : ∀ cs, readExponent ('e' :: '-' :: cs) = readPower true cs := fun _ => rfl
  have hplus : ∀ cs, readExponent ('e' :: '+' :: cs) = readPower false cs := fun _ => rfl
  rcases Int.lt_or_le e 0 with h | h
  · have hvalue : -(e.natAbs : Int) = e := by omega
    rw [if_pos h, hminus, readPower_toDigits, if_pos rfl, hvalue]
  · have hvalue : (e.natAbs : Int) = e := by omega
    rw [if_neg (by omega), hplus, readPower_toDigits, if_neg (by decide), hvalue]

/-- A numeral with a fraction or an exponent is read as a decimal. -/
theorem value?_decimal {x : Option (List Char)} {power : Option Int}
    (hpart : x.isSome = true ∨ power.isSome = true)
    (hdigits : Nat.ofDigitChars 10 (ds ++ x.getD []) 0 = n) (hn : n ≤ maxWhole) :
    (Numeral.mk negative ds x power).value? =
      (ofDecimal? negative n (power.getD 0 - (x.getD []).length)).map .double := by
  rw [Nat.ofDigitChars_append] at hdigits
  have hle : Nat.ofDigitChars 10 ds 0 ≤ maxWhole :=
    Nat.le_trans le_ofDigitChars (Nat.le_trans (Nat.le_of_eq hdigits) hn)
  have hwhole := absorb_eq hle
  have hfraction := absorb_eq (Nat.le_trans (Nat.le_of_eq hdigits) hn)
  rw [hdigits] at hfraction
  have hnot : ¬(x.isNone = true ∧ power.isNone = true) := by
    rintro ⟨hx, hpower⟩
    cases x <;> cases power <;> simp_all
  simp only [Numeral.value?, hwhole, hfraction]
  rw [if_neg fun h => hnot ⟨h.2.1, h.2.2.1⟩]
  congr 2
  simp
  omega

/-! ## Decimals -/

theorem AreDigits.append_zeros (h : AreDigits ds) : AreDigits (ds ++ List.replicate n '0') := by
  refine ⟨fun hnil => h.1 (List.append_eq_nil_iff.1 hnil).1, fun c hc => ?_⟩
  rcases List.mem_append.1 hc with hc | hc
  · exact h.2 c hc
  · rw [List.eq_of_mem_replicate hc]
    rfl

theorem AreDigits.zeros_append (h : AreDigits ds) : AreDigits (List.replicate n '0' ++ ds) :=
  ⟨fun hnil => h.1 (List.append_eq_nil_iff.1 hnil).2, fun c hc =>
    h.append_zeros.2 c (List.mem_append.2 (List.mem_append.1 hc).symm)⟩

theorem EndsDigits.point : EndsDigits ('.' :: rest) := by
  rintro c ⟨⟩
  rfl

theorem EndsDigits.power : EndsDigits ('e' :: rest) := by
  rintro c ⟨⟩
  rfl

variable {k m : Nat}

/-- Digits with zeros after them and a fraction of zero. -/
theorem exists_readUnsigned_whole (h : AreDigits ds) (hhead : ds.head? ≠ some '0')
    (hvalue : Nat.ofDigitChars 10 ds 0 = n) (hn : n < 10 ^ m) (hm : m + k ≤ 16) :
    ∃ y, readUnsigned negative (ds ++ List.replicate k '0' ++ ['.', '0']) = .ok (y, []) := by
  have hfraction : readFraction ['.', '0'] = .ok (some ['0'], []) := rfl
  have hhead' : (ds ++ List.replicate k '0').head? ≠ some '0' := by
    rwa [List.head?_append_of_ne_nil _ h.1]
  have hten : Nat.ofDigitChars 10 (ds ++ List.replicate k '0' ++ ['0']) 0 = 10 * (10 ^ k * n) := by
    rw [Nat.ofDigitChars_append, Nat.ofDigitChars_append, hvalue, Nat.ofDigitChars_replicate_zero]
    rfl
  have hbound : 10 ^ k * n < 10 ^ 16 := by
    calc 10 ^ k * n < 10 ^ k * 10 ^ m := Nat.mul_lt_mul_of_pos_left hn (Nat.pow_pos (by decide))
      _ = 10 ^ (k + m) := (Nat.pow_add 10 k m).symm
      _ ≤ 10 ^ 16 := Nat.pow_le_pow_right (by decide) (by omega)
  obtain ⟨y, hy⟩ := @Binary64.exists_ofDecimal?_of_neg (10 * (10 ^ k * n)) (-1) negative (by omega)
    (by decide)
  refine ⟨.double y, readUnsigned_eq_ok.2 ⟨_, _, none, _, [],
    readWhole_append_digits h.append_zeros hhead' .point, hfraction, rfl, ?_⟩⟩
  rw [value?_decimal (.inl rfl) hten (by simp only [maxWhole]; omega)]
  exact Option.map_eq_some_iff.2 ⟨y, hy, rfl⟩

/-- Digits before and after a point. -/
theorem exists_readUnsigned_fraction
    (hwhole : readWhole (ds ++ '.' :: zs) = .ok (ds, '.' :: zs)) (hzs : AreDigits zs)
    (hvalue : Nat.ofDigitChars 10 (ds ++ zs) 0 = n) (hn : n ≤ maxWhole)
    (hrange : ∃ y, ofDecimal? negative n (-zs.length) = some y) :
    ∃ y, readUnsigned negative (ds ++ '.' :: zs) = .ok (y, []) := by
  obtain ⟨y, hy⟩ := hrange
  have hfraction := @readFraction_append_digits zs [] hzs nofun
  rw [List.append_nil] at hfraction
  refine ⟨.double y, readUnsigned_eq_ok.2 ⟨_, _, none, _, [], hwhole, hfraction, rfl, ?_⟩⟩
  rw [value?_decimal (.inl rfl) hvalue hn, Option.getD_none, Option.getD_some, zero_sub, hy]
  rfl

/-- Digits with a point among them. -/
theorem exists_readUnsigned_among {point : Nat} (h : AreDigits ds) (hhead : ds.head? ≠ some '0')
    (hvalue : Nat.ofDigitChars 10 ds 0 = n) (hn : n ≤ maxWhole) (hpos : 0 < point)
    (hlt : point < ds.length) (hrange : ∃ y, ofDecimal? negative n (point - ds.length) = some y) :
    ∃ y, readUnsigned negative (ds.take point ++ '.' :: ds.drop point) = .ok (y, []) := by
  have htake : AreDigits (ds.take point) := by
    refine ⟨?_, fun c hc => h.2 c (List.mem_of_mem_take hc)⟩
    rw [← List.length_pos_iff, List.length_take]
    omega
  have hdrop : AreDigits (ds.drop point) := by
    refine ⟨?_, fun c hc => h.2 c (List.mem_of_mem_drop hc)⟩
    rw [← List.length_pos_iff, List.length_drop]
    omega
  have hhead' : (ds.take point).head? ≠ some '0' := by
    rwa [List.head?_take, if_neg (by omega)]
  have hexponent : (-(ds.drop point).length : Int) = point - ds.length := by
    rw [List.length_drop]
    omega
  refine exists_readUnsigned_fraction (readWhole_append_digits htake hhead' .point) hdrop ?_ hn
    (hexponent ▸ hrange)
  rw [List.take_append_drop, hvalue]

/-- Zeros and digits behind a point. -/
theorem exists_readUnsigned_behind {zeros : Nat} (h : AreDigits ds)
    (hvalue : Nat.ofDigitChars 10 ds 0 = n) (hn : n ≤ maxWhole)
    (hrange : ∃ y, ofDecimal? negative n (-(zeros + ds.length)) = some y) :
    ∃ y, readUnsigned negative ('0' :: '.' :: (List.replicate zeros '0' ++ ds)) = .ok (y, []) := by
  have hexponent : (-(List.replicate zeros '0' ++ ds).length : Int) = -(zeros + ds.length) := by
    rw [List.length_append, List.length_replicate]
    omega
  have hzero : Nat.ofDigitChars 10 ['0'] 0 = 0 := rfl
  refine @exists_readUnsigned_fraction ['0'] _ _ _ rfl h.zeros_append ?_ hn (hexponent ▸ hrange)
  rw [Nat.ofDigitChars_append, Nat.ofDigitChars_append, Nat.ofDigitChars_replicate_zero, hzero,
    Nat.mul_zero, hvalue]

/-- A digit, perhaps a fraction, and a power of ten. -/
theorem exists_readUnsigned_power (h : AreDigits (c :: ds)) (hc : c ≠ '0')
    (hvalue : Nat.ofDigitChars 10 (c :: ds) 0 = n) (hn : n ≤ maxWhole)
    (hrange : ∃ y, ofDecimal? negative n (e - ds.length) = some y) :
    ∃ y, readUnsigned negative ([c] ++ (if ds.isEmpty then [] else '.' :: ds) ++
      'e' :: (if e < 0 then '-' else '+') :: Nat.toDigits 10 e.natAbs) = .ok (y, []) := by
  obtain ⟨y, hy⟩ := hrange
  have hfirst : AreDigits [c] := ⟨List.cons_ne_nil c [], fun d hd => h.2 d (by simp_all)⟩
  have hhead : [c].head? ≠ some '0' := fun heq => hc (Option.some.inj heq)
  refine ⟨.double y, readUnsigned_eq_ok.2 ?_⟩
  cases ds with
  | nil =>
    refine ⟨_, none, some e, _, _, readWhole_append_digits hfirst hhead .power,
      readFraction_none (by simp), readExponent_toDigits, ?_⟩
    rw [value?_decimal (.inr rfl) hvalue hn]
    exact Option.map_eq_some_iff.2 ⟨y, hy, rfl⟩
  | cons d ds =>
    have hrest : AreDigits (d :: ds) := ⟨List.cons_ne_nil d ds, fun x hx => h.2 x (by simp_all)⟩
    refine ⟨[c], some (d :: ds), some e, '.' :: (d :: ds ++ 'e' :: _), _,
      @readWhole_append_digits [c] _ hfirst hhead .point, readFraction_append_digits hrest .power,
      readExponent_toDigits, ?_⟩
    rw [value?_decimal (.inl rfl) hvalue hn]
    exact Option.map_eq_some_iff.2 ⟨y, hy, rfl⟩

/-- A decimal within its range is read from its text. -/
theorem exists_readUnsigned_write {d : Decimal} (hpos : 0 < d.digits) (hle : d.digits ≤ 10 ^ 18)
    (hrange : ∃ y, ofDecimal? negative d.digits d.exponent = some y) :
    ∃ k, readUnsigned negative (d.write .json) = .ok (k, []) := by
  obtain ⟨ds, hds⟩ : ∃ ds, ds = Nat.toDigits 10 d.digits := ⟨_, rfl⟩
  have hdigits : AreDigits ds := hds ▸ areDigits_toDigits
  have hhead : ds.head? ≠ some '0' := hds ▸ head_toDigits hpos
  have hvalue : Nat.ofDigitChars 10 ds 0 = d.digits := hds ▸ Nat.ofDigitChars_ten_toDigits
  have hfits : d.digits ≤ maxWhole := Nat.le_trans hle (by decide)
  unfold Decimal.write
  dsimp only
  rw [← hds]
  -- The point stands behind the digits, among them or before them, or a power of ten moves it.
  split
  next hplain =>
    split
    next hwhole =>
      have hmost : (ds.length : Int) + d.exponent - 1 ≤ 15 :=
        of_decide_eq_true (Bool.and_eq_true_iff.1 hplain).2
      have hcount : d.digits < 10 ^ ds.length := hds ▸ Binary64.lt_pow_digitCount
      exact exists_readUnsigned_whole hdigits hhead hvalue hcount (by omega)
    next hfraction =>
      split
      next hpoint =>
        have hexponent : (((ds.length : Int) + d.exponent).toNat - ds.length : Int) = d.exponent := by
          omega
        exact exists_readUnsigned_among hdigits hhead hvalue hfits (by omega) (by omega)
          (hexponent.symm ▸ hrange)
      next hpoint =>
        have hexponent : -((-((ds.length : Int) + d.exponent)).toNat + ds.length : Int) = d.exponent := by
          omega
        exact exists_readUnsigned_behind hdigits hvalue hfits (hexponent.symm ▸ hrange)
  next hpower =>
    obtain ⟨first, hfirst⟩ : ∃ first : Int, first = ds.length + d.exponent - 1 := ⟨_, rfl⟩
    rw [← hfirst]
    cases ds with
    | nil => exact absurd rfl hdigits.1
    | cons c more =>
      have hpad : 1 - (Nat.toDigits 10 first.natAbs).length = 0 :=
        Nat.sub_eq_zero_of_le Nat.length_toDigits_pos
      have hexponent : first - more.length = d.exponent := by
        rw [List.length_cons] at hfirst
        omega
      show ∃ k, readUnsigned negative ([c] ++ (if more.isEmpty then [] else '.' :: more) ++
        'e' :: (if first < 0 then '-' else '+') ::
          (List.replicate (1 - (Nat.toDigits 10 first.natAbs).length) '0' ++
            Nat.toDigits 10 first.natAbs)) = .ok (k, [])
      rw [hpad]
      exact exists_readUnsigned_power hdigits (fun hc => hhead (by rw [hc]; rfl)) hvalue hfits
        (hexponent ▸ hrange)

/-! ## Doubles -/

variable {x : Binary64}

theorem exists_readUnsigned_shortest (hfinite : x.isFinite = true) :
    ∃ k, readUnsigned negative (x.shortest.write .json) = .ok (k, []) := by
  cases hzero : x.isZero with
  | true =>
    have htext : x.shortest.write .json = ['0', '.', '0'] := by
      rw [Binary64.shortest, if_pos hzero]
      rfl
    rw [htext]
    exact @exists_readUnsigned_fraction ['0'] ['0'] 0 negative rfl (@areDigits_toDigits 0) rfl
      (Nat.zero_le _) (Binary64.exists_ofDecimal?_of_neg (by decide) (by decide))
  | false =>
    obtain ⟨hpos, hle, -⟩ := Binary64.shortest_isNear hzero
    exact exists_readUnsigned_write hpos hle (Binary64.exists_ofDecimal?_shortest hfinite hzero)

/-- The text of every finite double is read as a number. -/
theorem exists_readNumber_jsonText (hfinite : x.isFinite = true) :
    ∃ k, readNumber x.jsonText.toList = .ok (k, []) := by
  rw [readNumber_eq, Binary64.jsonText, if_pos hfinite, Binary64.write, String.toList_ofList]
  cases x.negative with
  | true => exact @exists_readUnsigned_shortest true x hfinite
  | false =>
    obtain ⟨k, hk⟩ := @exists_readUnsigned_shortest false x hfinite
    obtain ⟨ds, _, _, cs, _, hwhole, -⟩ := readUnsigned_eq_ok.1 hk
    simp only [Bool.false_eq_true, if_false, List.nil_append, splitSign_of_readWhole hwhole]
    exact ⟨k, hk⟩

end MediaCatalog.Json
