import MediaCatalog.Proofs.Results
import MediaCatalog.Json.Writer
import MediaCatalog.Json.Reader
import Mathlib.Data.List.TakeWhile
/-!
# Strings and numbers that are read back

Every string is read back from its text, whatever its characters. A whole number within its bounds is
read back from its digits. What follows a number does not change it, unless the number could go on.
-/

namespace MediaCatalog.Json

variable {cs rest text left ds : List Char} {c : Char} {n : Nat} {x : Option (List Char)}
  {e : Option Int} {k : Number} {negative : Bool}

/-! ## Strings -/

/-- The two hexadecimal digits of a control character name it. -/
theorem hexQuad_control (h : n < 32) :
    hexQuad? '0' '0' (hexDigit (n / 16)) (hexDigit (n % 16)) = some n := by
  have hall : ∀ n : Fin 32,
      hexQuad? '0' '0' (hexDigit (n.val / 16)) (hexDigit (n.val % 16)) = some n.val := by decide
  exact hall ⟨n, h⟩

theorem readChars_plain (hquote : c ≠ '"') (hslash : c ≠ '\\') (hplain : ¬c < ' ')
    (h : readChars cs = .ok (text, rest)) : readChars (c :: cs) = .ok (c :: text, rest) := by
  rw [readChars]
  · rw [if_neg hplain, h]
    rfl
  all_goals simp_all

theorem readChars_letter {e : Char} (he : escaped? e = some c)
    (h : readChars cs = .ok (text, rest)) : readChars ('\\' :: e :: cs) = .ok (c :: text, rest) := by
  have hu : e ≠ 'u' := by
    rintro rfl
    cases he
  rw [readChars]
  · simp only [he, h]
    rfl
  · intro _ _ _ _ _ heq
    exact absurd heq hu
  · exact fun heq => absurd heq hu

theorem readChars_control (hc : c < ' ') (h : readChars cs = .ok (text, rest)) :
    readChars ('\\' :: 'u' :: '0' :: '0' :: hexDigit (c.toNat / 16) :: hexDigit (c.toNat % 16) :: cs)
      = .ok (c :: text, rest) := by
  have hlt : c.toNat < 32 := hc
  have hlow : isLowSurrogate c.toNat = false := by simp [isLowSurrogate]; omega
  have hhigh : isHighSurrogate c.toNat = false := by simp [isHighSurrogate]; omega
  rw [readChars, hexQuad_control hlt]
  simp only [hlow, hhigh, Bool.false_eq_true, if_false, h, Char.ofNat_toNat]
  rfl

/-- The escape of a character is read back as the character. -/
theorem readChars_escape (h : readChars cs = .ok (text, rest)) :
    readChars (escape c ++ cs) = .ok (c :: text, rest) := by
  unfold escape
  split
  case h_8 hquote hslash _ _ _ _ _ =>
    split
    next hc => exact readChars_control hc h
    next hc => exact readChars_plain hquote hslash hc h
  all_goals exact readChars_letter rfl h

theorem readChars_flatMap_escape :
    readChars (text.flatMap escape ++ '"' :: rest) = .ok (text, rest) := by
  induction text with
  | nil => rw [List.flatMap_nil, List.nil_append, readChars]
  | cons c text ih =>
    rw [List.flatMap_cons, List.append_assoc]
    exact readChars_escape ih

/-! ## Numbers -/

/-- A number cannot go on into a text. -/
def EndsNumber (rest : List Char) : Prop :=
  ∀ c, rest.head? = some c → c.isDigit = false ∧ c ≠ '.' ∧ c ≠ 'e' ∧ c ≠ 'E'

theorem EndsNumber.nil : EndsNumber [] := nofun

theorem EndsNumber.takeWhile_digits (h : EndsNumber rest) :
    (cs ++ rest).takeWhile Char.isDigit = cs.takeWhile Char.isDigit := by
  induction cs with
  | nil =>
    cases rest with
    | nil => rfl
    | cons c rest => simp [(h c rfl).1]
  | cons c cs ih => rw [List.cons_append, List.takeWhile_cons, List.takeWhile_cons, ih]

theorem EndsNumber.dropWhile_digits (h : EndsNumber rest) :
    (cs ++ rest).dropWhile Char.isDigit = cs.dropWhile Char.isDigit ++ rest := by
  induction cs with
  | nil =>
    cases rest with
    | nil => rfl
    | cons c rest => simp [(h c rfl).1]
  | cons c cs ih =>
    rw [List.cons_append, List.dropWhile_cons, List.dropWhile_cons]
    split
    · exact ih
    · rfl

theorem readWhole_zero : readWhole ('0' :: cs) =
    if (cs.head?.any Char.isDigit) then stopIn .badNumber cs else .ok (['0'], cs) := by
  cases cs with
  | nil => rfl
  | cons c cs => rfl

theorem readWhole_digits (h : cs.head? ≠ some '0') : readWhole cs =
    if (cs.takeWhile Char.isDigit).isEmpty then stopAtDigit cs
    else .ok (cs.takeWhile Char.isDigit, cs.dropWhile Char.isDigit) := by
  unfold readWhole
  split
  · exact absurd rfl h
  · rfl

theorem readWhole_append (h : readWhole cs = .ok (ds, left)) (hrest : EndsNumber rest) :
    readWhole (cs ++ rest) = .ok (ds, left ++ rest) := by
  -- A zero stands alone, and any other digits go on as long as there are some.
  by_cases hzero : cs.head? = some '0'
  · obtain ⟨more, rfl⟩ := List.head?_eq_some_iff.1 hzero
    rw [List.cons_append, readWhole_zero]
    rw [readWhole_zero] at h
    split at h
    · cases h
    next hmore =>
      cases h
      rw [if_neg]
      cases left with
      | nil => simpa [Option.any_eq_true] using fun c hc => (hrest c hc).1
      | cons c left => exact hmore
  · rw [readWhole_digits hzero] at h
    split at h
    · cases cs <;> cases h
    next hds =>
      cases h
      have hhead : (cs ++ rest).head? ≠ some '0' := by
        cases cs with
        | nil => exact absurd rfl hds
        | cons c cs => exact hzero
      rw [readWhole_digits hhead, hrest.takeWhile_digits, hrest.dropWhile_digits, if_neg hds]

theorem readFraction_point : readFraction ('.' :: cs) =
    if (cs.takeWhile Char.isDigit).isEmpty then stopAtDigit cs
    else .ok (some (cs.takeWhile Char.isDigit), cs.dropWhile Char.isDigit) := rfl

theorem readFraction_none (h : cs.head? ≠ some '.') : readFraction cs = .ok (none, cs) := by
  unfold readFraction
  split
  · exact absurd rfl h
  · rfl

theorem readFraction_append (h : readFraction cs = .ok (x, left)) (hrest : EndsNumber rest) :
    readFraction (cs ++ rest) = .ok (x, left ++ rest) := by
  by_cases hpoint : cs.head? = some '.'
  · obtain ⟨more, rfl⟩ := List.head?_eq_some_iff.1 hpoint
    rw [List.cons_append, readFraction_point]
    rw [readFraction_point] at h
    split at h
    · cases more <;> cases h
    next hds =>
      cases h
      rw [hrest.takeWhile_digits, hrest.dropWhile_digits, if_neg hds]
  · rw [readFraction_none hpoint] at h
    cases h
    apply readFraction_none
    cases cs with
    | nil => exact fun h => (hrest _ h).2.1 rfl
    | cons c cs => exact hpoint

theorem readPower_append (h : readPower negative cs = .ok (e, left)) (hrest : EndsNumber rest) :
    readPower negative (cs ++ rest) = .ok (e, left ++ rest) := by
  unfold readPower at h ⊢
  rw [hrest.takeWhile_digits, hrest.dropWhile_digits]
  dsimp only at h ⊢
  split at h
  · cases cs <;> cases h
  next hds =>
    rw [if_neg hds]
    cases h
    rfl

theorem readExponent_append (h : readExponent cs = .ok (e, left)) (hrest : EndsNumber rest) :
    readExponent (cs ++ rest) = .ok (e, left ++ rest) := by
  cases cs with
  | nil =>
    cases h
    cases rest with
    | nil => rfl
    | cons c rest =>
      obtain ⟨-, -, he, hE⟩ := hrest c rfl
      simp [readExponent, he, hE]
  | cons c cs =>
    simp only [List.cons_append, readExponent] at h ⊢
    split at h
    next hc =>
      rw [if_pos hc]
      split at h
      · exact readPower_append h hrest
      · exact readPower_append h hrest
      next hplus hminus =>
        cases cs with
        | nil => cases h
        | cons d cs =>
          rw [List.cons_append]
          split
          next heq => exact absurd (List.cons.inj heq).1 fun hd => hplus cs (by rw [hd])
          next heq => exact absurd (List.cons.inj heq).1 fun hd => hminus cs (by rw [hd])
          next => exact readPower_append h hrest
    next hc =>
      cases h
      rw [if_neg hc]
      rfl

/-- The sign of a number and what stands after it. -/
def splitSign : List Char → Bool × List Char
  | '-' :: rest => (true, rest)
  | cs => (false, cs)

/-- Reads a number after its sign. -/
def readUnsigned (negative : Bool) : Reader Number := fun cs => do
  let (whole, cs) ← readWhole cs
  let (fraction, cs) ← readFraction cs
  let (exponent, cs) ← readExponent cs
  match (Numeral.mk negative whole fraction exponent).value? with
  | some n => return (n, cs)
  | none => throw ⟨.hugeNumber, bytesOf cs + unreadDigits exponent⟩

theorem readNumber_eq : readNumber cs = readUnsigned (splitSign cs).1 (splitSign cs).2 := by
  cases cs with
  | nil => rfl
  | cons c cs =>
    by_cases hc : c = '-'
    · rw [hc]
      rfl
    · simp only [readNumber, splitSign]
      rfl

theorem readUnsigned_eq_ok : readUnsigned negative cs = .ok (k, left) ↔
    ∃ ds x e cs₁ cs₂, readWhole cs = .ok (ds, cs₁) ∧ readFraction cs₁ = .ok (x, cs₂) ∧
      readExponent cs₂ = .ok (e, left) ∧ (Numeral.mk negative ds x e).value? = some k := by
  simp only [readUnsigned, bind_eq_ok, Prod.exists]
  constructor
  · rintro ⟨ds, cs₁, hds, x, cs₂, hx, e, cs₃, he, hk⟩
    refine ⟨ds, x, e, cs₁, cs₂, hds, hx, ?_⟩
    split at hk
    next hvalue =>
      cases hk
      exact ⟨he, hvalue⟩
    next => cases hk
  · rintro ⟨ds, x, e, cs₁, cs₂, hds, hx, he, hvalue⟩
    exact ⟨ds, cs₁, hds, x, cs₂, hx, e, left, he, by rw [hvalue]; rfl⟩

/-- What follows a number does not change it. -/
theorem readNumber_append (h : readNumber cs = .ok (k, left)) (hrest : EndsNumber rest) :
    readNumber (cs ++ rest) = .ok (k, left ++ rest) := by
  rw [readNumber_eq] at h ⊢
  obtain ⟨ds, x, e, cs₁, cs₂, hds, hx, he, hvalue⟩ := readUnsigned_eq_ok.1 h
  have hsplit : splitSign (cs ++ rest) = ((splitSign cs).1, (splitSign cs).2 ++ rest) := by
    cases cs with
    | nil => cases hds
    | cons c cs =>
      unfold splitSign
      split <;> simp_all
  rw [hsplit]
  exact readUnsigned_eq_ok.2 ⟨ds, x, e, _, _, readWhole_append hds hrest,
    readFraction_append hx hrest, readExponent_append he hrest, hvalue⟩

theorem exists_cons_of_readWhole (h : readWhole cs = .ok (ds, left)) :
    ∃ c more, cs = c :: more ∧ c.isDigit = true := by
  cases cs with
  | nil => cases h
  | cons c cs =>
    refine ⟨c, cs, rfl, ?_⟩
    by_cases hc : c = '0'
    · rw [hc]
      rfl
    · rw [readWhole_digits (by simpa using hc)] at h
      by_contra hdigit
      simp [hdigit, stopAtDigit, stopIn] at h

/-- A number begins with a digit or a minus. -/
theorem exists_cons_of_readNumber (h : readNumber cs = .ok (k, left)) :
    ∃ c more, cs = c :: more ∧ (c = '-' ∨ c.isDigit = true) := by
  rw [readNumber_eq] at h
  obtain ⟨ds, x, e, cs₁, cs₂, hds, -⟩ := readUnsigned_eq_ok.1 h
  obtain ⟨c, more, hcs, hc⟩ := exists_cons_of_readWhole hds
  cases cs with
  | nil => cases hcs
  | cons d cs =>
    unfold splitSign at hcs
    split at hcs
    next heq => exact ⟨d, cs, rfl, .inl (List.cons.inj heq).1⟩
    next =>
      cases hcs
      exact ⟨c, more, rfl, .inr hc⟩

/-! ## Whole numbers -/

theorem le_ofDigitChars : n ≤ Nat.ofDigitChars 10 ds n := by
  rw [Nat.ofDigitChars_eq_ofDigitChars_zero]
  have hpow : n ≤ 10 ^ ds.length * n := Nat.le_mul_of_pos_left n (Nat.pow_pos (by omega))
  omega

/-- Digits are taken in as long as their number fits. -/
theorem absorb_eq (h : Nat.ofDigitChars 10 ds n ≤ maxWhole) :
    absorb n ds = (Nat.ofDigitChars 10 ds n, []) := by
  induction ds generalizing n with
  | nil => rfl
  | cons d ds ih =>
    rw [Nat.ofDigitChars_cons] at h ⊢
    have hfirst : n * 10 + digitValue d ≤ maxWhole := by
      rw [Nat.mul_comm]
      exact Nat.le_trans le_ofDigitChars h
    rw [absorb, if_pos hfirst, Nat.mul_comm n 10]
    exact ih h

theorem absorb_le (h : n ≤ maxWhole) : (absorb n ds).1 ≤ maxWhole := by
  induction ds generalizing n with
  | nil => exact h
  | cons d ds ih =>
    rw [absorb]
    split
    next hfits => exact ih hfits
    next => exact h

/-- A positive number does not begin with a zero. -/
theorem head_toDigits (h : 0 < n) : (Nat.toDigits 10 n).head? ≠ some '0' := by
  induction n using Nat.strongRecOn with
  | ind n ih =>
    rw [Nat.toDigits_eq_if (by omega)]
    split
    next hlt => simpa using by omega
    next hge =>
      rw [List.head?_append_of_ne_nil _ Nat.toDigits_ne_nil]
      exact ih (n / 10) (by omega) (by omega)

theorem readWhole_toDigits : readWhole (Nat.toDigits 10 n) = .ok (Nat.toDigits 10 n, []) := by
  rcases Nat.eq_zero_or_pos n with rfl | hpos
  · rfl
  · have hdigits : ∀ c ∈ Nat.toDigits 10 n, c.isDigit = true :=
      fun c hc => Nat.isDigit_of_mem_toDigits (by omega) (by omega) hc
    rw [readWhole_digits (head_toDigits hpos), List.takeWhile_eq_self_iff.2 hdigits,
      List.dropWhile_eq_nil_iff.2 hdigits, if_neg (by simp)]

/-- The digits of a whole number that fits are read back, after a minus or without one. -/
theorem readUnsigned_toDigits (h : n ≤ maxWhole)
    (hnegative : negative = true → 0 < n ∧ minInteger ≤ -(n : Int)) :
    readUnsigned negative (Nat.toDigits 10 n) = .ok (.int (if negative then -n else n), []) := by
  refine readUnsigned_eq_ok.2 ⟨_, none, none, [], [], readWhole_toDigits, rfl, rfl, ?_⟩
  have habsorb : absorb 0 (Nat.toDigits 10 n) = (n, []) := by
    rw [absorb_eq (by simpa using h), Nat.ofDigitChars_ten_toDigits]
  simp only [Numeral.value?, habsorb]
  rw [if_pos ⟨rfl, rfl, rfl, hnegative⟩]

/-- A number as it is read: a whole one within 64 bits, or a finite double. -/
def Number.IsRead : Number → Prop
  | .int n => minInteger ≤ n ∧ n ≤ maxWhole
  | .double x => x.isFinite = true

/-- What begins with digits has no sign. -/
theorem splitSign_of_readWhole (h : readWhole cs = .ok (ds, left)) : splitSign cs = (false, cs) := by
  obtain ⟨c, more, rfl, hc⟩ := exists_cons_of_readWhole h
  rw [splitSign]
  rintro rest ⟨⟩
  cases hc

/-- A whole number is read back from its text. -/
theorem readNumber_int {i : Int} (h : (Number.int i).IsRead) :
    readNumber (Number.int i).text.toList = .ok (.int i, []) := by
  obtain ⟨hleast, hmost⟩ := h
  rw [readNumber_eq, Number.text, Int.toString_eq_repr, Int.repr_eq_if]
  split
  next hpos =>
    have hfits : i.toNat ≤ maxWhole := by omega
    rw [Nat.toList_repr, splitSign_of_readWhole readWhole_toDigits]
    dsimp only
    rw [readUnsigned_toDigits hfits (by simp), if_neg (by simp), Int.toNat_of_nonneg hpos]
  next hneg =>
    have hsplit : splitSign ("-" ++ (-i).toNat.repr).toList = (true, Nat.toDigits 10 (-i).toNat) := by
      rw [String.toList_append, Nat.toList_repr]
      rfl
    have hfits : (-i).toNat ≤ maxWhole := by simp only [maxWhole, minInteger] at *; omega
    rw [hsplit]
    dsimp only
    rw [readUnsigned_toDigits hfits fun _ => by omega]
    simp only [if_true, Except.ok.injEq, Prod.mk.injEq, Number.int.injEq, and_true]
    omega

theorem isRead_of_readNumber (h : readNumber cs = .ok (k, left)) : k.IsRead := by
  rw [readNumber_eq] at h
  obtain ⟨ds, x, e, cs₁, cs₂, -, -, -, hvalue⟩ := readUnsigned_eq_ok.1 h
  simp only [Numeral.value?] at hvalue
  split at hvalue
  next hwhole =>
    obtain ⟨-, -, -, hnegative⟩ := hwhole
    have hle := @absorb_le ds 0 (Nat.zero_le _)
    obtain rfl := Option.some.inj hvalue
    cases hsign : (splitSign cs).1
    · exact ⟨by simp only [minInteger, Bool.false_eq_true, if_false]; omega, by simpa using hle⟩
    · obtain ⟨hpos, hleast⟩ := hnegative hsign
      exact ⟨hleast, by simp only [if_true]; omega⟩
  next =>
    obtain ⟨d, hd, rfl⟩ := Option.map_eq_some_iff.1 hvalue
    exact Binary64.isFinite_of_ofDecimal? hd

end MediaCatalog.Json
