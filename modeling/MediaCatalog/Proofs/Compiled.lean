import MediaCatalog.Proofs.Acceptance
/-!
# What an accepted query compiles to

An accepted condition names a column of its scope, and its value gives an operand that fits the
column. So every accepted query has a predicate, part by part.
-/

namespace MediaCatalog

namespace Scope

/-- The column that a field's name stands for. -/
def column? : Scope → String → Option Column
  | .media, s => (MetadataField.ofName? s).map .media
  | .related r, s => (EntityField.ofName? s).map (.entity r)

end Scope

/-- The type of the values of a column. -/
def Column.type : Column → FieldType
  | .mediaId => .text
  | .media f => f.type
  | .entity _ f => f.type

/-- A number as an operand: an integer where it is a stored one, and else a double. -/
def Json.Number.operand (n : Json.Number) : Operand :=
  match n.integer? with
  | some i => .integer i
  | none => .real (.number n.nearest)

namespace FieldQuery

variable {c : FieldQuery} {scope : Scope} {column : Column} {operand : Option Operand}

/-- The type of a column after the condition's modifier. -/
def typeOf (c : FieldQuery) (column : Column) : FieldType :=
  (c.modifier.map Modifier.resultType).getD column.type

/-- The operand that the value of a condition gives beside a column. -/
inductive Binds (c : FieldQuery) (column : Column) : Option Operand → Prop
  | empty : c.operator = .empty → c.value = none → Binds c column none
  | text {s : String} : c.operator ≠ .empty → column.type = .text → c.modifier = none →
      c.value = some (.string s) → (c.operator = .matches → Pattern.isValid s = true) →
      Binds c column (some (.text s))
  | number {n : Json.Number} : c.operator.isOrder = true →
      column.type = .integer ∨ column.type = .real ∨ c.modifier ≠ none →
      c.value = some (.number n) → Binds c column (some n.operand)
  | date {s : String} {z : Time.ZonedInstant} : c.operator.isOrder = true →
      column = .media .taken → c.modifier = none → c.value = some (.string s) →
      Time.parse? s = some z → Binds c column (some (.text z.instant.stored))

/-- A condition names a column of a scope, its modifier applies there, and its value gives the
operand. -/
structure Compiles (c : FieldQuery) (scope : Scope) (column : Column) (operand : Option Operand) :
    Prop where
  named : scope.column? c.field = some column
  modifies : ∀ m, c.modifier = some m → m ∈ column.type.modifiers
  binds : c.Binds column operand

/-- The comparison that a condition makes with an operand. -/
def comparison (c : FieldQuery) (column : Column) (operand : Option Operand) : Comparison :=
  ⟨column, c.modifier, c.operator, operand, c.invert⟩

/-! ## Operands -/

theorem taken_of_type_date (h : column.type = .date) : column = .media .taken := by
  rcases column with _ | f | ⟨r, f⟩
  · cases h
  · cases f <;> first | rfl | cases h
  · cases h

/-- A modifier computes an integer, so where the type is another there is none. -/
theorem modifier_of_typeOf {t : FieldType} (h : c.typeOf column = t) (ht : t ≠ .integer) :
    c.modifier = none ∧ column.type = t := by
  unfold typeOf at h
  cases hm : c.modifier with
  | none => exact ⟨rfl, by simpa [hm] using h⟩
  | some m => cases m <;> simp_all [Modifier.resultType]

theorem operand_number {n : Json.Number} : c.operand column (.number n) = .ok n.operand := by
  simp only [FieldQuery.operand, Json.Number.operand, Json.Number.double?]
  cases n.integer? <;> rfl

/-- A value that fits the type of a column gives an operand beside it. -/
theorem exists_operand (h : c.Fits (c.typeOf column)) :
    ∃ o, c.operand? column = .ok o ∧ c.Binds column o := by
  generalize ht : c.typeOf column = t at h
  unfold operand?
  rcases h with ⟨hop, hv⟩ | ⟨hop, hv, hm⟩ | ⟨hnum, hop, hv⟩ | ⟨hop, hv, hz⟩ <;> simp only [hv]
  · exact ⟨_, rfl, .empty hop hv⟩
  · obtain ⟨hmod, htype⟩ := modifier_of_typeOf ht (by simp)
    have hne : column ≠ .media .taken := by
      rintro rfl
      cases htype
    exact ⟨_, by simp [FieldQuery.operand, hne]; rfl, .text hop htype hmod hv hm⟩
  · refine ⟨_, by rw [operand_number]; rfl, .number hop ?_ hv⟩
    by_cases hmod : c.modifier = none
    · simp only [typeOf, hmod, Option.map_none, Option.getD_none] at ht
      rw [ht]
      rcases hnum with h | h <;> simp [h]
    · exact .inr (.inr hmod)
  · obtain ⟨hmod, htype⟩ := modifier_of_typeOf ht (by simp)
    have htaken := taken_of_type_date htype
    refine ⟨_, ?_, .date hop htaken hmod hv hz⟩
    simp [FieldQuery.operand, htaken, hmod, Json.date?, Json.text?, hz, Except.map]

/-! ## Conditions -/

theorem column_of_resolve {f : Field} (h : c.resolve scope.isRelated = .ok f) :
    ∃ column, c.column scope f = .ok column ∧ scope.column? c.field = some column ∧
      column.type = f.type := by
  rw [resolve_eq_ok] at h
  cases scope with
  | media =>
    obtain ⟨g, hg, rfl⟩ := Option.map_eq_some_iff.1 (by simpa [Field.ofName?, Scope.isRelated] using h)
    exact ⟨.media g, rfl, by simp [Scope.column?, hg], rfl⟩
  | related r =>
    obtain ⟨g, hg, rfl⟩ := Option.map_eq_some_iff.1 (by simpa [Field.ofName?, Scope.isRelated] using h)
    exact ⟨.entity r g, rfl, by simp [Scope.column?, hg], rfl⟩

theorem effectiveType_eq_ok {f : Field} {t : FieldType} : c.effectiveType f = .ok t ↔
    (∀ m, c.modifier = some m → m ∈ f.type.modifiers) ∧
      (c.modifier.map Modifier.resultType).getD f.type = t := by
  unfold effectiveType
  cases c.modifier with
  | none => simp
  | some m => by_cases h : m ∈ f.type.modifiers <;> simp [h]

/-- An accepted condition compiles to its comparison. -/
theorem compile_of_check (h : c.check scope.isRelated = .ok ()) :
    ∃ column operand, c.Compiles scope column operand ∧
      c.compile scope = .ok (.compare (c.comparison column operand)) := by
  obtain ⟨f, t, hf, ht, hfits⟩ := check_eq_ok.1 h
  obtain ⟨column, hcolumn, hnamed, htype⟩ := column_of_resolve hf
  obtain ⟨hmod, rfl⟩ := effectiveType_eq_ok.1 ht
  rw [← htype] at hmod hfits
  obtain ⟨operand, hoperand, hbinds⟩ := exists_operand hfits
  refine ⟨column, operand, ⟨hnamed, hmod, hbinds⟩, ?_⟩
  simp [compile, hf, ht, hcolumn, hoperand, comparison, bind, Except.bind, pure, Except.pure]

end FieldQuery

/-! ## Groups -/

namespace Query

variable {limit depth : Nat} {related : Bool} {catalog : String} {scope : Scope}
  {how : Grouping} {parts : List Query} {ps : List Predicate}

/-- A list of nodes compiles when each of them does. -/
theorem compileAll_eq_ok : compileAll catalog scope parts = .ok ps ↔
    List.Forall₂ (fun q p => q.compile catalog scope = .ok p) parts ps := by
  induction parts generalizing ps with
  | nil => cases ps <;> simp [compileAll]
  | cons q qs ih =>
    simp only [compileAll, bind_eq_ok, pure, Except.pure, Except.ok.injEq, ih]
    constructor
    · rintro ⟨p, hp, ps, hps, rfl⟩
      exact .cons hp hps
    · rintro (_ | ⟨hp, hps⟩)
      exact ⟨_, hp, _, hps, rfl⟩

/-- The predicate of a group from those of its parts. -/
def joined (catalog : String) (how : Grouping) (ps : List Predicate) : Predicate :=
  match how.relation with
  | none => if how.invert then .not (.join how.join ps) else .join how.join ps
  | some r => .linked ⟨r, catalog, how.recursive, how.invert⟩ (.join how.join ps)

/-- What the parts of a group speak of. -/
def innerScope (scope : Scope) (how : Grouping) : Scope :=
  (how.relation.map Scope.related).getD scope

theorem isRelated_innerScope :
    (innerScope scope how).isRelated = (scope.isRelated || how.relation.isSome) := by
  unfold innerScope
  cases how.relation <;> simp [Scope.isRelated]

theorem compile_group (hcheck : how.check scope.isRelated = .ok ())
    (hparts : compileAll catalog (innerScope scope how) parts = .ok ps) :
    compile catalog scope (.group how parts) = .ok (joined catalog how ps) := by
  rw [compile, joined]
  unfold innerScope at hparts
  cases hr : how.relation with
  | none =>
    simp only [hr, Option.map_none, Option.getD_none] at hparts
    simp [hparts, bind, Except.bind, pure, Except.pure]
  | some r =>
    simp only [hr, Option.map_some, Option.getD_some] at hparts
    simp [(Grouping.check_eq_ok.1 hcheck r hr).1, hparts, bind, Except.bind, pure, Except.pure]

/-- Induction over the nodes that a check has accepted, with the predicates they compile to. -/
theorem compile_induction {motive : Scope → Query → Predicate → Prop}
    (field : ∀ scope c column operand, c.Compiles scope column operand →
      motive scope (.field c) (.compare (c.comparison column operand)))
    (group : ∀ scope how parts ps, how.check scope.isRelated = .ok () →
      List.Forall₂ (motive (innerScope scope how)) parts ps →
      motive scope (.group how parts) (joined catalog how ps))
    {q : Query} (h : q.checkNode limit scope.isRelated depth = .ok ()) :
    ∃ p, q.compile catalog scope = .ok p ∧ motive scope q p := by
  induction q generalizing scope depth with
  | field c =>
    obtain ⟨column, operand, hc, hcompile⟩ := FieldQuery.compile_of_check (checkNode_field.1 h).2
    exact ⟨_, hcompile, field scope c column operand hc⟩
  | group how parts ih =>
    obtain ⟨-, hhow, hparts⟩ := checkNode_group.1 h
    -- The list of parts is accepted as a whole, so the hypothesis for each part goes into its induction.
    have hps : ∃ ps, compileAll catalog (innerScope scope how) parts = .ok ps ∧
        List.Forall₂ (motive (innerScope scope how)) parts ps := by
      clear h
      induction parts with
      | nil => exact ⟨[], rfl, .nil⟩
      | cons q qs ihs =>
        obtain ⟨p, hp, hm⟩ := @ih q (by simp) _ (innerScope scope how)
          (by rw [isRelated_innerScope]; exact hparts q (by simp))
        obtain ⟨ps, hps, hms⟩ := ihs (fun r hr => ih r (by simp [hr]))
          (fun r hr => hparts r (by simp [hr]))
        exact ⟨p :: ps, compileAll_eq_ok.2 (.cons hp (compileAll_eq_ok.1 hps)), .cons hm hms⟩
    obtain ⟨ps, hps, hms⟩ := hps
    exact ⟨_, compile_group hhow hps, group scope how parts ps hhow hms⟩

end Query

end MediaCatalog
