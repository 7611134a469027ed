import MediaCatalog.Predicate.Failure
import MediaCatalog.Proofs.Wildcards
import Mathlib.Data.List.TakeWhile
/-!
# Texts that are found as they are

What fits a wildcard pattern, by a rule for each of its signs. The pattern that an operator makes of a
text is fitted by the texts in which it stands, character by character, at the place that the operator
names, and it makes no difference which of its characters mean something in a pattern.
-/

namespace MediaCatalog

namespace Wildcard

variable {pattern text : List Char}

/-! ## What fits a pattern -/

/-- A text fits a pattern. -/
inductive Fits : List Char → List Char → Prop
  | done : Fits [] []
  /-- `%` stands for any text. -/
  | percent {pattern skipped text : List Char} : Fits pattern text →
      Fits ('%' :: pattern) (skipped ++ text)
  /-- `_` stands for any character. -/
  | underscore {pattern text : List Char} {c : Char} : Fits pattern text →
      Fits ('_' :: pattern) (c :: text)
  /-- A backslash makes the character after it stand for itself. -/
  | escaped {pattern text : List Char} {c : Char} : Fits pattern text →
      Fits ('\\' :: c :: pattern) (c :: text)
  | plain {pattern text : List Char} {c : Char} : c ≠ '%' → c ≠ '_' → c ≠ '\\' → Fits pattern text →
      Fits (c :: pattern) (c :: text)

theorem fits_literal {ws : List Wildcard} {c : Char} :
    fits (literal c :: ws) text = true ↔ ∃ rest, text = c :: rest ∧ fits ws rest = true :=
  @fits_literals ws [c] text

theorem fits_anyone {ws : List Wildcard} :
    fits (anyone :: ws) text = true ↔ ∃ c rest, text = c :: rest ∧ fits ws rest = true := by
  cases text <;> simp [fits]

theorem ofPattern_plain {c : Char} (hpercent : c ≠ '%') (hunderscore : c ≠ '_') (hslash : c ≠ '\\') :
    ofPattern (c :: pattern) = literal c :: ofPattern pattern := by
  rw [ofPattern]
  · rw [if_neg hpercent, if_neg hunderscore]
  · exact fun h _ => hslash h
  · exact fun _ _ h => absurd h hslash

theorem fits_of_rules (h : Fits pattern text) : fits (ofPattern pattern) text = true := by
  induction h with
  | done => rfl
  | percent _ ih => exact fits_anything.2 ⟨_, List.suffix_append _ _, ih⟩
  | underscore _ ih => exact ih
  | escaped _ ih => exact fits_literal.2 ⟨_, rfl, ih⟩
  | plain hpercent hunderscore hslash _ ih =>
    rw [ofPattern_plain hpercent hunderscore hslash]
    exact fits_literal.2 ⟨_, rfl, ih⟩

theorem rules_of_fits (h : fits (ofPattern pattern) text = true) : Fits pattern text := by
  fun_induction ofPattern pattern generalizing text with
  | case1 =>
    rw [fits_nil.1 h]
    exact .done
  | case2 => cases h
  | case3 c pattern ih =>
    obtain ⟨rest, rfl, hrest⟩ := fits_literal.1 h
    exact .escaped (ih hrest)
  | case4 c pattern hend hescape ih =>
    -- A backslash would have been read by one of the cases before.
    have hslash : c ≠ '\\' := by
      intro hc
      cases pattern with
      | nil => exact hend hc rfl
      | cons d pattern => exact hescape d pattern hc rfl
    by_cases hpercent : c = '%'
    · subst hpercent
      obtain ⟨rest, ⟨skipped, rfl⟩, hrest⟩ := fits_anything.1 h
      exact .percent (ih hrest)
    · rw [if_neg hpercent] at h
      by_cases hunderscore : c = '_'
      · subst hunderscore
        obtain ⟨d, rest, rfl, hrest⟩ := fits_anyone.1 h
        exact .underscore (ih hrest)
      · rw [if_neg hunderscore] at h
        obtain ⟨rest, rfl, hrest⟩ := fits_literal.1 h
        exact .plain hpercent hunderscore hslash (ih hrest)

/-- Matching goes by the rules. -/
theorem fits_iff_rules : Fits pattern text ↔ fits (ofPattern pattern) text = true :=
  ⟨fits_of_rules, rules_of_fits⟩

end Wildcard

/-! ## What operators find -/

namespace Operator

/-- The operator finds a text where it occurs in another, and nowhere else. -/
structure FindsLiterally (op : Operator) (occurs : List Char → List Char → Prop) : Prop where
  /-- What fits the pattern of a text are the texts in which it occurs. -/
  fits : ∀ sought text : String,
    Wildcard.Fits (wildcardPattern op sought).toList text.toList ↔ occurs sought.toList text.toList
  /-- A comparison of a column with a text does not fail unless its pattern is too long, and it is true
  where the text occurs in that of the column, both as they are read, or where it does not when
  inverted. -/
  test : ∀ (c : Comparison) (sought text : String), c.operator = op → c.operand = some (.text sought) →
    '\x00' ∉ sought.toList → '\x00' ∉ text.toList →
    (wildcardPattern op sought).utf8ByteSize ≤ maxWildcardBytes →
    c.failure? (.text text) = none ∧
      (occurs (sought.toList.map Wildcard.seen) (text.toList.map Wildcard.seen) →
        c.test (.text text) = .ofBool (!c.inverted)) ∧
      (¬occurs (sought.toList.map Wildcard.seen) (text.toList.map Wildcard.seen) →
        c.test (.text text) = .ofBool c.inverted)

/-- The operator asks for a wildcard pattern. -/
def isWildcard : Operator → Bool
  | .contains | .startsWith | .endsWith => true
  | _ => false

variable {op : Operator} {c : Comparison} {sought text : String}

/-! ### Patterns -/

/-- The signs of the pattern of a text. -/
theorem ofPattern_toList : Wildcard.ofPattern (wildcardPattern op sought).toList =
    let literals := sought.toList.map Wildcard.literal
    match op with
    | .startsWith => literals ++ [.anything]
    | .endsWith => .anything :: literals
    | _ => .anything :: (literals ++ [.anything]) := by
  have hpercent : ∀ cs, Wildcard.ofPattern ('%' :: cs) = .anything :: Wildcard.ofPattern cs := by
    intro cs
    simp [Wildcard.ofPattern]
  have hopen := @Wildcard.ofPattern_escapeWildcards sought.toList ['%']
  have hclosed := @Wildcard.ofPattern_escapeWildcards sought.toList []
  rw [List.append_nil] at hclosed
  cases op <;> simp [wildcardPattern, hpercent, hopen, hclosed, Wildcard.ofPattern]

/-! ### Comparisons -/

theorem seenText_of_whole (h : '\x00' ∉ text.toList) :
    Wildcard.seenText text = text.toList.map Wildcard.seen := by
  refine congrArg _ (List.takeWhile_eq_self_iff.2 fun c hc => decide_eq_true ?_)
  rintro rfl
  exact h hc

/-- Of texts without a NUL all characters count. -/
theorem finds_of_whole (hsought : '\x00' ∉ sought.toList) (htext : '\x00' ∉ text.toList) :
    op.finds sought text =
      match op with
      | .startsWith => decide (sought.toList.map Wildcard.seen <+: text.toList.map Wildcard.seen)
      | .endsWith => decide (sought.toList.map Wildcard.seen <:+ text.toList.map Wildcard.seen)
      | _ => decide (sought.toList.map Wildcard.seen <:+: text.toList.map Wildcard.seen) := by
  have hwhole : Cell.isWhole sought = true := by simpa [Cell.isWhole] using hsought
  cases op <;>
    simp only [finds, hwhole, seenText_of_whole hsought, seenText_of_whole htext, if_true]

theorem boundText_of_operand (h : c.operand = some (.text sought)) : c.boundText = sought := by
  rw [Comparison.boundText, h]
  rfl

theorem failure?_of_modest (hop : c.operator.isWildcard = true) (hsought : c.operand = some (.text sought))
    (hmodest : (wildcardPattern c.operator sought).utf8ByteSize ≤ maxWildcardBytes) {a : Cell} :
    c.failure? a = none := by
  unfold Comparison.failure?
  rw [boundText_of_operand hsought, if_neg (Nat.not_lt.2 hmodest)]
  cases ho : c.operator <;> first | rfl | (rw [ho] at hop; cases hop)

/-- A comparison with a text is true when its pattern is found there, or not found when inverted. -/
theorem test_text (hop : c.operator.isWildcard = true) (hsought : c.operand = some (.text sought)) :
    c.test (.text text) = .ofBool (c.operator.finds sought text != c.inverted) := by
  have hfits : c.fitsWildcard text = c.operator.finds sought text := by
    rw [← fits_wildcardPattern, ← boundText_of_operand hsought]
    rfl
  unfold Comparison.test Comparison.found
  cases ho : c.operator <;> rw [ho] at hop hfits
  case contains | startsWith | endsWith =>
    simp only [Cell.text?, Option.any_some, hfits]
    cases finds _ sought text <;> cases c.inverted <;> rfl
  all_goals cases hop

/-- An operator is literal when it finds a text where this occurs, and its pattern is fitted there. -/
theorem FindsLiterally.of_occurs {occurs : List Char → List Char → Prop} (hop : op.isWildcard = true)
    (hfits : ∀ sought text : String,
      Wildcard.fits (Wildcard.ofPattern (wildcardPattern op sought).toList) text.toList = true ↔
        occurs sought.toList text.toList)
    (hfinds : ∀ sought text : String, '\x00' ∉ sought.toList → '\x00' ∉ text.toList →
      (op.finds sought text = true ↔
        occurs (sought.toList.map Wildcard.seen) (text.toList.map Wildcard.seen))) :
    op.FindsLiterally occurs where
  fits sought text := Wildcard.fits_iff_rules.trans (hfits sought text)
  test c sought text hc hsought hwhole hwhole' hmodest := by
    subst hc
    refine ⟨failure?_of_modest hop hsought hmodest, fun hoccurs => ?_, fun hnot => ?_⟩
    · rw [test_text hop hsought, (hfinds sought text hwhole hwhole').2 hoccurs, Bool.true_bne]
    · have hfalse : c.operator.finds sought text = false :=
        Bool.eq_false_iff.2 fun h => hnot ((hfinds sought text hwhole hwhole').1 h)
      rw [test_text hop hsought, hfalse, Bool.false_bne]

/-- The operators on parts of texts find exactly the characters that they are given, anywhere, at the
beginning or at the end, but for the characters that are read as another. -/
theorem finds_literally : contains.FindsLiterally (· <:+: ·) ∧ startsWith.FindsLiterally (· <+: ·) ∧
    endsWith.FindsLiterally (· <:+ ·) := by
  refine ⟨.of_occurs rfl ?_ ?_, .of_occurs rfl ?_ ?_, .of_occurs rfl ?_ ?_⟩
  · intro sought text
    rw [ofPattern_toList]
    exact Wildcard.fits_inside
  · intro sought text hsought htext
    simp [finds_of_whole hsought htext]
  · intro sought text
    rw [ofPattern_toList]
    exact Wildcard.fits_start
  · intro sought text hsought htext
    simp [finds_of_whole hsought htext]
  · intro sought text
    rw [ofPattern_toList]
    exact Wildcard.fits_end
  · intro sought text hsought htext
    simp [finds_of_whole hsought htext]

/-- What a title contains, though a backslash, a percent sign and an underscore stand in it. -/
theorem finds_literally_signs :
    let c : Comparison := ⟨.media (.text .title), none, .contains, some (.text "50%_\\"), false⟩
    c.test (.text "at 50%_\\ off") = .yes ∧ c.test (.text "at 50 % \\ off") = .no := by
  intro c
  have hshort : (wildcardPattern .contains "50%_\\").utf8ByteSize ≤ maxWildcardBytes := by decide
  have hsought : '\x00' ∉ "50%_\\".toList := by decide
  obtain ⟨-, hfound, -⟩ := finds_literally.1.test c "50%_\\" "at 50%_\\ off" rfl rfl hsought
    (by decide) hshort
  obtain ⟨-, -, hmissed⟩ := finds_literally.1.test c "50%_\\" "at 50 % \\ off" rfl rfl hsought
    (by decide) hshort
  exact ⟨hfound (by decide), hmissed (by decide)⟩

end Operator

end MediaCatalog
