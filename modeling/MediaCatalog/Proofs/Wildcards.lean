import MediaCatalog.Predicate.Meaning
import Mathlib.Data.List.Infix
/-!
# What wildcard patterns find

The pattern that an operator makes of a text finds that very text, whatever characters it has, and
finds it where the operator says. Both end at their first NUL, and with the end of its pattern a text
loses what may follow it. Characters are told apart as far as they are seen.
-/

namespace MediaCatalog

namespace Wildcard

variable {ws : List Wildcard} {cs text : List Char}

/-! ## Fitting -/

theorem mem_suffixes : cs ∈ suffixes text ↔ cs <:+ text := by
  induction text with
  | nil => simp [suffixes]
  | cons c text ih => simp [suffixes, ih, List.suffix_cons_iff]

theorem fits_nil : fits [] text = true ↔ text = [] := by simp [fits]

theorem fits_anything : fits (anything :: ws) text = true ↔
    ∃ rest, rest <:+ text ∧ fits ws rest = true := by
  rw [fits, List.any_eq_true]
  simp only [mem_suffixes]

theorem fits_literals : fits (cs.map literal ++ ws) text = true ↔
    ∃ rest, text = cs ++ rest ∧ fits ws rest = true := by
  induction cs generalizing text with
  | nil => simp
  | cons c cs ih =>
    cases text with
    | nil => simp [fits]
    | cons d text =>
      simp only [List.map_cons, List.cons_append, fits, Bool.and_eq_true, decide_eq_true_eq, ih,
        List.cons.injEq]
      constructor
      · rintro ⟨rfl, rest, rfl, h⟩
        exact ⟨rest, ⟨rfl, rfl⟩, h⟩
      · rintro ⟨rest, ⟨rfl, rfl⟩, h⟩
        exact ⟨rfl, rest, rfl, h⟩

/-- A text by itself finds only that text. -/
theorem fits_whole : fits (cs.map literal) text = true ↔ text = cs := by
  have h := @fits_literals [] cs text
  rw [List.append_nil] at h
  simp [h, fits_nil]

theorem fits_start : fits (cs.map literal ++ [anything]) text = true ↔ cs <+: text := by
  rw [fits_literals]
  constructor
  · rintro ⟨rest, rfl, -⟩
    exact List.prefix_append _ _
  · rintro ⟨rest, rfl⟩
    exact ⟨rest, rfl, fits_anything.2 ⟨[], List.nil_suffix, rfl⟩⟩

theorem fits_end : fits (anything :: cs.map literal) text = true ↔ cs <:+ text := by
  simp only [fits_anything, fits_whole]
  exact ⟨fun ⟨_, h, heq⟩ => heq ▸ h, fun h => ⟨_, h, rfl⟩⟩

theorem fits_inside : fits (anything :: (cs.map literal ++ [anything])) text = true ↔
    cs <:+: text := by
  simp only [@fits_anything (cs.map literal ++ [anything]), fits_start,
    List.infix_iff_prefix_suffix]
  exact exists_congr fun _ => and_comm

/-! ## Reading -/

/-- Escaped characters stand for themselves. -/
theorem ofPattern_escapeWildcards :
    ofPattern (escapeWildcards cs ++ text) = cs.map literal ++ ofPattern text := by
  induction cs with
  | nil => rfl
  | cons c cs ih =>
    have hcons : escapeWildcards (c :: cs)
        = (if c = '\\' || c = '%' || c = '_' then ['\\', c] else [c]) ++ escapeWildcards cs := rfl
    rw [hcons]
    -- The sign of a wildcard is read after its escape, any other character by itself.
    split
    · simp [ofPattern, ih]
    next h =>
      simp only [Bool.or_eq_true, decide_eq_true_eq, not_or] at h
      obtain ⟨⟨hslash, hpercent⟩, hunderscore⟩ := h
      simp only [List.cons_append, List.nil_append, List.map_cons, ← ih]
      rw [ofPattern]
      · simp [hpercent, hunderscore]
      · exact fun h _ => hslash h
      · exact fun _ _ h => absurd h hslash

end Wildcard

/-! ## Patterns -/

/-- A text does not end before its last character. -/
def Cell.isWhole (s : String) : Bool := !s.toList.contains '\x00'

theorem Wildcard.seenText_ofList {cs : List Char} :
    seenText (String.ofList cs) = (cs.takeWhile (· ≠ '\x00')).map seen := by
  simp [seenText, Cell.untilNul]

theorem takeWhile_escapeWildcards {cs more : List Char} :
    (escapeWildcards cs ++ more).takeWhile (· ≠ '\x00')
      = escapeWildcards (cs.takeWhile (· ≠ '\x00'))
        ++ if cs.contains '\x00' then [] else more.takeWhile (· ≠ '\x00') := by
  induction cs with
  | nil => rfl
  | cons c cs ih =>
    -- A NUL is not escaped, so the pattern ends where the text does.
    by_cases hc : c = '\x00'
    · subst hc
      rfl
    · have hmem : (c :: cs).contains '\x00' = cs.contains '\x00' := by simp [Ne.symm hc]
      rw [hmem]
      simp only [escapeWildcards, List.flatMap_cons, List.takeWhile_cons, hc, ne_eq, not_false_eq_true,
        decide_true, if_true] at ih ⊢
      split <;> simpa [hc] using ih

/-- The signs of patterns are seen as they are, and nothing else is seen as one of them. -/
theorem Wildcard.seen_eq_iff {c sign : Char} (h : sign = '\\' ∨ sign = '%' ∨ sign = '_') :
    seen c = sign ↔ c = sign := by
  unfold seen
  split
  next hseen =>
    constructor
    · rintro rfl
      exact absurd h (by decide)
    · rintro rfl
      rcases h with rfl | rfl | rfl <;> exact absurd hseen (by decide)
  next => exact Iff.rfl

theorem Wildcard.map_seen_escapeWildcards {cs : List Char} :
    (escapeWildcards cs).map seen = escapeWildcards (cs.map seen) := by
  induction cs with
  | nil => rfl
  | cons c cs ih =>
    have hslash : seen '\\' = '\\' := by decide
    simp only [escapeWildcards, List.flatMap_cons, List.map_cons, List.map_append] at ih ⊢
    rw [ih]
    simp only [seen_eq_iff (.inl rfl), seen_eq_iff (.inr (.inl rfl)), seen_eq_iff (.inr (.inr rfl))]
    split <;> simp [hslash]

/-- A pattern begins with the signs of the text it was made of. -/
theorem Wildcard.ofPattern_prefix {s : String} {more : List Char} :
    ofPattern (((escapeWildcards s.toList ++ more).takeWhile (· ≠ '\x00')).map seen)
      = (seenText s).map literal
        ++ ofPattern ((if Cell.isWhole s then more.takeWhile (· ≠ '\x00') else []).map seen) := by
  rw [takeWhile_escapeWildcards, List.map_append, map_seen_escapeWildcards, ofPattern_escapeWildcards]
  unfold Cell.isWhole
  cases s.toList.contains '\x00' <;> rfl

/-! ## Length -/

theorem length_le_utf8ByteSize {cs : List Char} : cs.length ≤ (String.ofList cs).utf8ByteSize := by
  induction cs with
  | nil => exact Nat.zero_le _
  | cons c cs ih =>
    rw [String.ofList_cons, String.utf8ByteSize_append, String.utf8ByteSize_singleton, List.length_cons]
    have := c.utf8Size_pos
    omega

theorem length_le_escapeWildcards {cs : List Char} : cs.length ≤ (escapeWildcards cs).length := by
  induction cs with
  | nil => exact Nat.le_refl _
  | cons c cs ih =>
    simp only [escapeWildcards, List.flatMap_cons, List.length_append] at ih ⊢
    split <;> simp only [List.length_cons, List.length_nil] <;> omega

/-- A pattern is longer than the text it was made of. -/
theorem length_lt_wildcardPattern {op : Operator} {s : String} :
    s.length < (wildcardPattern op s).utf8ByteSize := by
  refine Nat.lt_of_lt_of_le ?_ length_le_utf8ByteSize
  have h := @length_le_escapeWildcards s.toList
  rw [String.length_toList] at h
  cases op <;> simp only [List.length_cons, List.length_append, List.length_nil] <;> omega

/-! ## Finding -/

namespace Operator

/-- An operator finds a text in another, as far as they are seen. A text that is cut off must be at
the end. -/
def finds (op : Operator) (sought s : String) : Bool :=
  let wanted := Wildcard.seenText sought
  let text := Wildcard.seenText s
  match op with
  | .startsWith => if Cell.isWhole sought then decide (wanted <+: text) else text = wanted
  | .endsWith => decide (wanted <:+ text)
  | _ => if Cell.isWhole sought then decide (wanted <:+: text) else decide (wanted <:+ text)

variable {op : Operator} {sought s : String}

/-- The signs of an operator's pattern. -/
theorem ofPattern_wildcardPattern :
    Wildcard.ofPattern (Wildcard.seenText (wildcardPattern op sought)) =
      let literals := (Wildcard.seenText sought).map Wildcard.literal
      let more := if Cell.isWhole sought then [Wildcard.anything] else []
      match op with
      | .startsWith => literals ++ more
      | .endsWith => .anything :: literals
      | _ => .anything :: (literals ++ more) := by
  have hpercent : ∀ cs, Wildcard.ofPattern ('%' :: cs) = .anything :: Wildcard.ofPattern cs := by
    intro cs
    simp [Wildcard.ofPattern]
  have hopen := @Wildcard.ofPattern_prefix sought ['%']
  have hclosed := @Wildcard.ofPattern_prefix sought []
  simp only [List.append_nil] at hclosed
  have hseen : Wildcard.seen '%' = '%' := by decide
  cases op <;>
    simp only [wildcardPattern, Wildcard.seenText_ofList, List.takeWhile_cons_of_pos, List.cons_append,
      List.map_cons, hpercent, hseen, ne_eq, Char.reduceEq, not_false_eq_true, decide_true, hopen,
      hclosed]
  all_goals
    cases Cell.isWhole sought <;> simp [hpercent, hseen, Wildcard.ofPattern]

/-- The pattern of an operator finds what the operator finds. -/
theorem fits_wildcardPattern :
    Wildcard.fits (Wildcard.ofPattern (Wildcard.seenText (wildcardPattern op sought)))
      (Wildcard.seenText s) = op.finds sought s := by
  rw [Bool.eq_iff_iff, ofPattern_wildcardPattern]
  unfold finds
  cases op <;> cases Cell.isWhole sought <;>
    simp [Wildcard.fits_whole, Wildcard.fits_start, Wildcard.fits_end, Wildcard.fits_inside]

end Operator

end MediaCatalog
