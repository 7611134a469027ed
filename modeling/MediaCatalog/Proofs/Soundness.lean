import MediaCatalog.Proofs.Compiled
import MediaCatalog.Proofs.Failures
import MediaCatalog.Proofs.Wildcards
/-!
# Accepted queries are well typed

An accepted query has a predicate whose comparisons read the columns of their own scope, with
operands that fit them, and so has its normal form. On rows whose columns hold what they are declared
to hold such a predicate cannot fail, but for wildcard patterns that are too long.
-/

namespace MediaCatalog

/-! ## Scopes -/

/-- A scope reads a column: those of media items, or those of the things of its kind. -/
def Scope.owns : Scope → Column → Prop
  | .media, .media _ => True
  | .related r, .entity r' _ => r' = r
  | _, _ => False

/-- The kinds of things that a scope stands at. -/
def Scope.kinds : Scope → List Relation
  | .media => []
  | .related r => [r]

namespace Predicate

mutual

/-- Every comparison reads a column of the scope it stands in. There is no filter within another,
each is on the catalog, and it is recursive only where there is a hierarchy. -/
def StaysIn (catalog : String) : Scope → Predicate → Prop
  | _, .always | _, .never => True
  | scope, .all ps => StayIn catalog scope ps
  | scope, .any ps => StayIn catalog scope ps
  | scope, .not p => p.StaysIn catalog scope
  | scope, .compare c => scope.owns c.column
  | .media, .linked link filter =>
    link.catalog = catalog ∧ (link.recursive = true → link.relation.isHierarchical = true) ∧
      filter.StaysIn catalog (.related link.relation)
  | .related _, .linked .. => False

def StayIn (catalog : String) : Scope → List Predicate → Prop
  | _, [] => True
  | scope, p :: ps => p.StaysIn catalog scope ∧ StayIn catalog scope ps

end

variable {catalog : String} {scope : Scope} {p : Predicate} {ps : List Predicate} {negate : Bool}

theorem stayIn_iff : StayIn catalog scope ps ↔ ∀ p ∈ ps, p.StaysIn catalog scope := by
  induction ps with
  | nil => simp [StayIn]
  | cons p ps ih => simp [StayIn, ih]

theorem staysIn_join {j : Join} :
    (join j ps).StaysIn catalog scope ↔ ∀ p ∈ ps, p.StaysIn catalog scope := by
  cases j <;> simp [join, StaysIn, stayIn_iff]

theorem staysIn_pushNot : (p.pushNot negate).StaysIn catalog scope ↔ p.StaysIn catalog scope := by
  induction p generalizing scope negate with
  | always => cases negate <;> rfl
  | never => cases negate <;> rfl
  | compare c =>
    cases negate
    · rfl
    · simp only [pushNot, Comparison.negated, if_true]
      split <;> simp [StaysIn, Comparison.flipped]
  | not p ih => simpa [pushNot, StaysIn] using ih
  | linked link filter ih => cases scope <;> simp [pushNot, StaysIn, ih]
  | all ps ih | any ps ih =>
    cases negate <;>
      simp +contextual [pushNot, StaysIn, stayIn_iff, pushNotAll_eq, ih]

theorem isScoped_of_staysIn (h : p.StaysIn catalog scope) : p.isScoped scope.kinds = true := by
  induction p generalizing scope with
  | always => rfl
  | never => rfl
  | not p ih => exact ih h
  | compare c =>
    obtain ⟨column, _, _, _, _⟩ := c
    cases scope <;> cases column <;>
      simp_all [StaysIn, Scope.owns, isScoped, Scope.kinds]
  | linked link filter ih =>
    cases scope with
    | media => exact ih h.2.2
    | related r => exact h.elim
  | all ps ih | any ps ih =>
    simp only [StaysIn, stayIn_iff] at h
    simpa [isScoped, areScoped_eq] using fun p hp => ih p hp (h p hp)

end Predicate

/-! ## Conditions and comparisons -/

namespace Query

mutual

/-- The conditions of a query from left to right. -/
def conditions : Query → List FieldQuery
  | .field c => [c]
  | .group _ parts => conditionsOf parts

def conditionsOf : List Query → List FieldQuery
  | [] => []
  | q :: qs => q.conditions ++ conditionsOf qs

end

end Query

/-- The condition looks for a text whose wildcard pattern is too long. -/
def FieldQuery.isLong (x : FieldQuery) : Bool :=
  match x.operator, x.value with
  | .contains, some (.string s) | .startsWith, some (.string s) | .endsWith, some (.string s) =>
    maxWildcardBytes < (wildcardPattern x.operator s).utf8ByteSize
  | _, _ => false

/-- A comparison asks what a condition does, apart from its inversion, with an operand that fits its
column and modifier. -/
structure Comparison.Expresses (c : Comparison) (x : FieldQuery) : Prop where
  named : ∃ scope : Scope, scope.column? x.field = some c.column
  modifier : c.modifier = x.modifier
  operator : c.operator = x.operator
  empty : x.operator = .empty → c.operand = none
  pattern : x.operator.isPattern = true → c.column.type = .text ∧ c.modifier = none ∧
    ∃ s, x.value = some (.string s) ∧ c.operand = some (.text s) ∧
      (x.operator = .matches → Pattern.isValid s = true)
  number : x.operator ≠ .empty →
    c.column.type = .integer ∨ c.column.type = .real ∨ c.modifier ≠ none →
    ∃ n, x.value = some (.number n) ∧ c.operand = some n.operand
  taken : x.operator ≠ .empty → c.column = .media .taken → c.modifier = none →
    ∃ v z, x.value = some v ∧ v.date? = some z ∧ c.operand = some (.text z.instant.stored)

namespace Comparison.Expresses

variable {c : Comparison} {x : FieldQuery}

theorem upright (h : c.Expresses x) : c.upright.Expresses x := ⟨h.1, h.2, h.3, h.4, h.5, h.6, h.7⟩

theorem of_upright (h : c.upright.Expresses x) : c.Expresses x := ⟨h.1, h.2, h.3, h.4, h.5, h.6, h.7⟩

end Comparison.Expresses

namespace FieldQuery

variable {c : FieldQuery} {scope : Scope} {column : Column} {operand : Option Operand}

theorem Compiles.owns (h : c.Compiles scope column operand) : scope.owns column := by
  have hnamed := h.named
  cases scope <;> obtain ⟨f, -, rfl⟩ := Option.map_eq_some_iff.1 hnamed <;> simp [Scope.owns]

theorem Compiles.expresses (h : c.Compiles scope column operand) :
    (c.comparison column operand).Expresses c := by
  obtain ⟨hnamed, -, hbinds⟩ := h
  cases hbinds with
  | empty hop hv => exact ⟨⟨scope, hnamed⟩, rfl, rfl, by simp [comparison],
      by simp [hop, Operator.isPattern], by simp [hop], by simp [hop]⟩
  | text hop htype hmod hv hm =>
    refine ⟨⟨scope, hnamed⟩, rfl, rfl, by simp [hop], fun _ => ⟨htype, hmod, _, hv, rfl, hm⟩, ?_, ?_⟩
    · simp [comparison, htype, hmod]
    · rintro - (rfl : column = _)
      cases htype
  | number hop hnum hv =>
    refine ⟨⟨scope, hnamed⟩, rfl, rfl, ?_, ?_, fun _ _ => ⟨_, hv, rfl⟩, ?_⟩
    · intro h; simp [h, Operator.isOrder] at hop
    · cases ho : c.operator <;> simp_all [Operator.isPattern, Operator.isOrder]
    · rintro - (rfl : column = _) (hmod : c.modifier = none)
      simp [hmod, Column.type, MetadataField.type] at hnum
  | date hop htaken hmod hv hz =>
    subst htaken
    refine ⟨⟨scope, hnamed⟩, rfl, rfl, ?_, ?_, ?_, fun _ _ _ => ⟨_, _, hv, ?_, rfl⟩⟩
    · intro h; simp [h, Operator.isOrder] at hop
    · cases ho : c.operator <;> simp_all [Operator.isPattern, Operator.isOrder]
    · simp [comparison, hmod, Column.type, MetadataField.type]
    · simpa [Json.date?, Json.text?] using hz

end FieldQuery

/-! ## Failures -/

/-- A column of texts holds a text or nothing. -/
theorem Subject.cell_of_type_text {b : Subject} {column : Column} (h : column.type = .text) :
    b.cell column = .null ∨ ∃ s, b.cell column = .text s := by
  have hopt : ∀ o : Option String, Cell.ofText? o = .null ∨ ∃ s, Cell.ofText? o = .text s := by
    rintro (_ | s)
    · exact .inl rfl
    · exact .inr ⟨s, rfl⟩
  rcases column with _ | (f | f | f | _) | ⟨r, _ | _⟩
  · exact .inr ⟨_, rfl⟩
  · exact hopt _
  · cases h
  · cases h
  · cases h
  · exact hopt _
  · exact .inr ⟨_, rfl⟩

/-- The comparison of an accepted condition fails on a cell of its column only if its wildcard
pattern is too long. -/
theorem Comparison.Expresses.failure {c : Comparison} {x : FieldQuery} (h : c.Expresses x)
    {b : Subject} {e : StoreError} (he : c.failure? (c.subjectCell b) = some e) :
    e = .longPattern ∧ x.isLong = true := by
  by_cases hop : x.operator.isPattern = true
  · obtain ⟨htype, hmod, s, hv, ho, hm⟩ := h.pattern hop
    have htext : c.boundText = s := by simp [boundText, ho, Operand.patternText]
    have hcell : c.subjectCell b = b.cell c.column := by simp [subjectCell, hmod, Modifier.cell]
    unfold failure? at he
    rw [h.operator, htext, hcell] at he
    cases hx : x.operator with
    | empty | equal | less | lessOrEqual => simp [hx, Operator.isPattern] at hop
    | contains | startsWith | endsWith =>
      simp only [hx] at he
      split at he
      next hlong => exact ⟨by simpa using he.symm, by simpa [FieldQuery.isLong, hx, hv] using hlong⟩
      next => cases he
    | «matches» =>
      -- The check has read the pattern, and its column holds nothing but texts.
      rcases Subject.cell_of_type_text (b := b) htype with hnull | ⟨t, ht⟩
      · simp [hx, hm hx, hnull] at he
      · simp [hx, hm hx, ht] at he
  · unfold failure? at he
    rw [h.operator] at he
    cases hx : x.operator <;> simp_all [Operator.isPattern]

/-! ## Compiling -/

namespace Predicate

/-- A predicate makes the comparisons of a query, in order, each on a column of its own scope. -/
structure IsSound (catalog : String) (scope : Scope) (q : Query) (p : Predicate) : Prop where
  stays : p.StaysIn catalog scope
  expresses : List.Forall₂ Comparison.Expresses p.comparisons q.conditions

variable {catalog : String} {scope : Scope} {how : Grouping} {q : Query} {qs : List Query}
  {p : Predicate} {ps : List Predicate}

theorem comparisons_joined : (Query.joined catalog how ps).comparisons = comparisonsOf ps := by
  rcases how with ⟨join, invert, _ | r, recursive⟩ <;> cases join <;> cases invert <;> rfl

/-- The parts of a group make the comparisons of its conditions one after the other. -/
theorem expresses_of_parts (h : List.Forall₂ (fun q p => IsSound catalog scope q p) qs ps) :
    List.Forall₂ Comparison.Expresses (comparisonsOf ps) (Query.conditionsOf qs) := by
  induction h with
  | nil => exact .nil
  | cons hp _ ih => exact List.rel_append hp.expresses ih

theorem IsSound.joined (hcheck : how.check scope.isRelated = .ok ())
    (h : List.Forall₂ (fun q p => IsSound catalog (Query.innerScope scope how) q p) qs ps) :
    IsSound catalog scope (.group how qs) (Query.joined catalog how ps) := by
  have hparts : ∀ p ∈ ps, p.StaysIn catalog (Query.innerScope scope how) := by
    intro p hp
    obtain ⟨q, -, hq⟩ := exists_of_forall₂ h hp
    exact hq.stays
  refine ⟨?_, by rw [comparisons_joined]; exact expresses_of_parts h⟩
  unfold Query.joined
  unfold Query.innerScope at hparts
  cases hr : how.relation with
  | none =>
    simp only [hr, Option.map_none, Option.getD_none] at hparts
    dsimp only
    split
    · exact staysIn_join.2 hparts
    · exact staysIn_join.2 hparts
  | some r =>
    simp only [hr, Option.map_some, Option.getD_some] at hparts
    obtain ⟨hrelated, hrecursive⟩ := Grouping.check_eq_ok.1 hcheck r hr
    -- The check refuses a relation within another.
    cases scope with
    | media => exact ⟨rfl, hrecursive, staysIn_join.2 hparts⟩
    | related r' => cases hrelated

theorem IsSound.normalize (h : IsSound catalog scope q p) : IsSound catalog scope q p.normalize := by
  refine ⟨staysIn_pushNot.2 h.stays, ?_⟩
  -- The normal form changes no more of a comparison than its inversion, of which nothing is asked.
  have hupright : List.Forall₂ Comparison.Expresses (p.comparisons.map Comparison.upright)
      q.conditions :=
    List.forall₂_map_left_iff.2 (h.expresses.imp fun _ _ h => h.upright)
  rw [← @comparisons_pushNot false] at hupright
  exact (List.forall₂_map_left_iff.1 hupright).imp fun _ _ h => h.of_upright

/-- A sound predicate fails on rows only if a wildcard pattern is too long. -/
theorem IsSound.failure (h : IsSound catalog scope q p) {s : Store} {home : String} {e : StoreError}
    (he : p.failure? s home = some e) : e = .longPattern ∧ ∃ x ∈ q.conditions, x.isLong = true := by
  refine failure_only (F := fun e => e = .longPattern ∧ ∃ x ∈ q.conditions, x.isLong = true)
    (fun c hc b e he => ?_) he
  obtain ⟨x, hx, hcx⟩ := exists_of_forall₂ h.expresses.flip hc
  obtain ⟨rfl, hlong⟩ := hcx.failure he
  exact ⟨rfl, x, hx, hlong⟩

end Predicate

namespace Query

/-- An accepted query compiles, in every catalog, to a sound predicate. -/
theorem exists_compile_sound {limit depth : Nat} {scope : Scope} {q : Query}
    (h : q.checkNode limit scope.isRelated depth = .ok ()) (catalog : String) :
    ∃ p, q.compile catalog scope = .ok p ∧ p.IsSound catalog scope q :=
  compile_induction (motive := fun scope q p => p.IsSound catalog scope q)
    (fun _ _ _ _ hc => ⟨hc.owns, .cons hc.expresses .nil⟩)
    (fun _ _ _ _ hcheck hparts => .joined hcheck hparts) h

/-- An accepted query compiles in every catalog, and the predicate and its normal form are sound. On
the rows of any store they fail only where a condition looks for a text that is too long. -/
theorem sound_of_check {q : Query} {limit : Nat} (h : q.check false limit = .ok ())
    (catalog : String) : ∃ p, q.compile catalog .media = .ok p ∧
      ∀ p', p' = p ∨ p' = p.normalize → p'.IsSound catalog .media q ∧ p'.isScoped [] = true ∧
        ∀ s home e, p'.failure? s home = some e →
          e = .longPattern ∧ ∃ x ∈ q.conditions, x.isLong = true := by
  obtain ⟨p, hp, hsound⟩ := @exists_compile_sound limit 1 .media q h catalog
  refine ⟨p, hp, fun p' hp' => ?_⟩
  have hsound' : p'.IsSound catalog .media q := by
    rcases hp' with rfl | rfl
    · exact hsound
    · exact hsound.normalize
  exact ⟨hsound', Predicate.isScoped_of_staysIn hsound'.stays, fun _ _ _ he => hsound'.failure he⟩

/-- Titles without an `x`, or albums at any depth by a name that is a pattern. -/
def mixed : Query :=
  .group ⟨.any, true, none, false⟩
    [.field ⟨"title", none, .contains, some (.string "x"), true⟩,
      .group ⟨.all, true, some .album, true⟩
        [.field ⟨"name", none, .matches, some (.string "^A"), false⟩],
      .field ⟨"taken", some .year, .less, some (.number (.int 2020)), false⟩]

theorem mixed_sound : mixed.check false 3 = .ok () ∧
    ∃ p, mixed.compile "home" .media = .ok p ∧
      ∀ p', p' = p ∨ p' = p.normalize → p'.IsSound "home" .media mixed ∧ p'.isScoped [] = true ∧
        ∀ s home e, p'.failure? s home = some e →
          e = .longPattern ∧ ∃ x ∈ mixed.conditions, x.isLong = true :=
  ⟨by decide, sound_of_check (by decide : mixed.check false 3 = .ok ()) "home"⟩

/-- Titles that contain a text. -/
def titled (s : String) : Query := .field ⟨"title", none, .contains, some (.string s), false⟩

/-- A store with one media item. -/
def oneItem : Store :=
  { Store.empty with
    catalogs := [⟨"home", "Home"⟩]
    items := [⟨"one", "home", "2020-01-01T00:00:00.000Z", "2020-01-01T00:00:00.000Z", false, .empty⟩] }

/-- An accepted text fails on the first row if it is long. -/
theorem exists_compile_titled {s : String} (h : maxWildcardBytes ≤ s.length) :
    (titled s).check false defaultMaxDepth = .ok () ∧
      ∃ p, (titled s).compile "home" .media = .ok p ∧
        p.failure? oneItem "home" = some .longPattern := by
  refine ⟨rfl, .compare ⟨.media (.text .title), none, .contains, some (.text s), false⟩, rfl, ?_⟩
  have hlong : maxWildcardBytes < (wildcardPattern .contains s).utf8ByteSize :=
    Nat.lt_of_le_of_lt h length_lt_wildcardPattern
  exact Predicate.failure_compare rfl (fun _ => if_pos hlong) (by simp [oneItem, Store.view])

/-- A text that makes a pattern too long. -/
def longText : String := String.ofList (List.replicate maxWildcardBytes 'a')

theorem length_longText : longText.length = maxWildcardBytes := by
  rw [longText, String.length_ofList, List.length_replicate]

theorem titled_longText : (titled longText).check false defaultMaxDepth = .ok () ∧
    ∃ p, (titled longText).compile "home" .media = .ok p ∧
      p.failure? oneItem "home" = some .longPattern :=
  exists_compile_titled (Nat.le_of_eq length_longText.symm)

end Query

end MediaCatalog
