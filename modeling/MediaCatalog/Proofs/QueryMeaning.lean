import MediaCatalog.Proofs.Closure
import MediaCatalog.Proofs.Compiled
import MediaCatalog.Proofs.NormalForm
import MediaCatalog.Proofs.Soundness
/-!
# What queries mean

A query has a truth on a row of the view by itself, without any predicate: its conditions are tried
on the values of the row, or, within a relation, on one of the things the item is linked to. The
predicate of an accepted query has this very truth, and so has its normal form.
-/

namespace MediaCatalog

/-! ## Conditions -/

namespace Field

/-- The value of a field: of a row, or of the thing that a relation stands at. -/
def cell (row : ViewRow) (thing : Option Entity) : Field → Cell
  | .metadata f => row.values.cell f
  | .entity .id => .ofText? (thing.map (·.id))
  | .entity .name => .ofText? (thing.map (·.name))

end Field

/-- The value that a number stands for: an integer where it is one that is stored as such. -/
def Json.Number.cell (n : Json.Number) : Cell :=
  match n.integer? with
  | some i => .integer i
  | none => .real n.nearest

/-- A text is found where an operator looks for it: at a place, or by a regular expression. -/
def Operator.meets (op : Operator) (sought s : String) : Bool :=
  match op with
  | .matches => (Pattern.parse? sought).any (·.isMatch s)
  | _ => op.finds sought s

/-- The table of operators. Only equality and emptiness are asked of a missing value; that a pattern
is not found holds of it. -/
def Operator.truth (op : Operator) (inverted : Bool) (left value : Cell) : Truth :=
  match op with
  | .empty => .ofBool (left.isNull != inverted)
  | .equal => .ofBool (left.same value != inverted)
  | .less =>
    match left.order? value with
    | some o => .ofBool ((o = .lt) != inverted)
    | none => .unknown
  | .lessOrEqual =>
    match left.order? value with
    | some o => .ofBool ((o ≠ .gt) != inverted)
    | none => .unknown
  | .contains | .startsWith | .endsWith | .matches =>
    match left, value with
    | .text s, .text sought => .ofBool (op.meets sought s != inverted)
    | .null, _ => if inverted then .yes else .unknown
    | _, _ => .unknown

theorem Cell.same_text {a b : String} : (text a).same (text b) = decide (a = b) := by
  simp [same, order?]

namespace FieldQuery

/-- What the modifier of a condition makes of a value. A year and a month are those that a clock
showed where the item was taken. -/
def left (c : FieldQuery) (row : ViewRow) (value : Cell) : Cell :=
  let day := row.values.localTime?.bind Modifier.dayOf
  match c.modifier with
  | none => value
  | some .length => .ofInteger? (value.text?.map fun s => ((Cell.untilNul s).length : Int))
  | some .year => .ofInteger? (day.map (·.year))
  | some .month => .ofInteger? (day.map fun d => (d.month : Int))

/-- The value that a condition compares with. A timestamp is compared as it is stored. -/
def right (c : FieldQuery) (f : Field) : Cell :=
  match c.value with
  | some (.string s) =>
    if f.type = .date then .ofText? ((Time.parse? s).map (·.instant.stored)) else .text s
  | some (.number n) => n.cell
  | _ => .null

/-- The truth of a condition. -/
def meaning (c : FieldQuery) (row : ViewRow) (thing : Option Entity) : Truth :=
  match Field.ofName? thing.isSome c.field with
  | some f => c.operator.truth c.invert (c.left row (f.cell row thing)) (c.right f)
  | none => .unknown

end FieldQuery

/-! ## Groups -/

namespace Store

/-- An id is among the chosen ones, or lies below one of them when recursive. -/
def Selects (s : Store) (r : Relation) (recursive : Bool) (chosen : List String) (id : String) :
    Prop :=
  if recursive then s.Reaches r .descendants chosen id else id ∈ chosen

instance {s : Store} {r : Relation} {recursive : Bool} {chosen : List String} {id : String} :
    Decidable (s.Selects r recursive chosen id) :=
  inferInstanceAs (Decidable (if recursive then s.Reaches r .descendants chosen id else id ∈ chosen))

end Store

/-- The truth of joined parts. -/
def Join.truth : Join → List Truth → Truth
  | .all => Truth.all
  | .any => Truth.any

namespace Query

mutual

/-- The truth of a query on a row of a catalog's view, or on a thing that a relation stands at. -/
def meaning (s : Store) (catalog : String) (row : ViewRow) (thing : Option Entity) : Query → Truth
  | .field c => c.meaning row thing
  | .group how parts =>
    match how.relation with
    | none => (how.join.truth (meanings s catalog row thing parts)).invertIf how.invert
    | some r =>
      let chosen := s.entities.filter fun e => e.relation = r && e.catalog = catalog &&
        (how.join.truth (meanings s catalog row (some e) parts)).isYes
      .ofBool (decide (∃ l ∈ s.links, l.relation = r ∧ l.media = row.id ∧
        s.Selects r how.recursive (chosen.map (·.id)) l.entity) != how.invert)

def meanings (s : Store) (catalog : String) (row : ViewRow) (thing : Option Entity) :
    List Query → List Truth
  | [] => []
  | q :: qs => q.meaning s catalog row thing :: meanings s catalog row thing qs

end

variable {s : Store} {catalog : String} {row : ViewRow} {thing : Option Entity} {qs : List Query}

theorem meanings_eq : meanings s catalog row thing qs = qs.map (meaning s catalog row thing) := by
  induction qs with
  | nil => rfl
  | cons q qs ih => rw [meanings, ih]; rfl

/-- A condition on the id is true of the thing that has it. -/
theorem meaning_id {id : String} {e : Entity} :
    (⟨"id", none, .equal, some (.string id), false⟩ : FieldQuery).meaning row (some e) =
      .ofBool (decide (e.id = id)) := by
  have hmeaning : (⟨"id", none, .equal, some (.string id), false⟩ : FieldQuery).meaning row (some e) =
      .ofBool ((Cell.text e.id).same (.text id) != false) := rfl
  rw [hmeaning, Cell.same_text, Bool.bne_false]

/-- Joined by itself a truth stays what it is. -/
theorem truth_singleton {j : Join} {t : Truth} : j.truth [t] = t := by
  cases j <;> cases t <;> rfl

end Query

/-! ## Subjects -/

/-- A scope stands at nothing beside the row, or at a thing of its kind. -/
def Scope.StandsAt : Scope → Option Entity → Prop
  | .media, thing => thing = none
  | .related r, thing => ∃ e, thing = some e ∧ e.relation = r

/-- A row with the thing that a relation stands at. -/
def Subject.beside (row : ViewRow) : Option Entity → Subject
  | none => ofRow row
  | some e => (ofRow row).on e

section Conditions

variable {c : FieldQuery} {scope : Scope} {column : Column} {operand : Option Operand}
  {row : ViewRow} {thing : Option Entity} {f : Field} {a : Cell} {n : Json.Number}

theorem Subject.beside_row : (beside row thing).row = row := by cases thing <;> rfl

/-- The column of a name holds the value of the field of that name. -/
theorem Scope.StandsAt.field (h : scope.StandsAt thing) (hc : scope.column? c.field = some column) :
    ∃ f, Field.ofName? thing.isSome c.field = some f ∧ f.type = column.type ∧
      (Subject.beside row thing).cell column = f.cell row thing := by
  cases scope with
  | media =>
    cases h
    obtain ⟨f, hf, rfl⟩ := Option.map_eq_some_iff.1 hc
    exact ⟨.metadata f, by simp [Field.ofName?, hf], rfl, rfl⟩
  | related r =>
    obtain ⟨e, rfl, rfl⟩ := h
    obtain ⟨f, hf, rfl⟩ := Option.map_eq_some_iff.1 hc
    refine ⟨.entity f, by simp [Field.ofName?, hf], rfl, ?_⟩
    cases f <;> simp [Subject.beside, Subject.on, Subject.cell, Field.cell, Cell.ofText?]

/-- A modifier that applies to a column makes of it what the condition looks at. -/
theorem Modifier.cell_eq_left (h : ∀ m, c.modifier = some m → m ∈ column.type.modifiers) :
    Modifier.cell (Subject.beside row thing) column c.modifier
      = c.left row ((Subject.beside row thing).cell column) := by
  have htaken : c.modifier = some .year ∨ c.modifier = some .month → column = .media .taken := by
    intro hm
    apply FieldQuery.taken_of_type_date
    rcases hm with hm | hm <;> have hmem := h _ hm <;> cases ht : column.type <;>
      simp [ht, FieldType.modifiers] at hmem
    · rfl
    · rfl
  unfold FieldQuery.left
  cases hm : c.modifier with
  | none => rfl
  | some m =>
    cases m with
    | length => rfl
    | year => simp [htaken (.inl hm), Modifier.cell, Modifier.day?, Subject.beside_row]
    | month => simp [htaken (.inr hm), Modifier.cell, Modifier.day?, Subject.beside_row]

theorem Operator.not_isPattern_of_isOrder {op : Operator} (h : op.isOrder = true) :
    ¬op.isPattern = true := by
  cases op <;> simp [isOrder, isPattern] at h ⊢

theorem Operator.truth_null {op : Operator} {inverted : Bool} (h : op.isPattern = true) :
    op.truth inverted .null a = if inverted then .yes else .unknown := by
  cases op <;> simp only [isPattern, Bool.false_eq_true] at h <;> rfl

theorem Operator.truth_text {op : Operator} {inverted : Bool} {s t : String}
    (h : op.isPattern = true) :
    op.truth inverted (.text t) (.text s) = .ofBool (op.meets s t != inverted) := by
  cases op <;> simp only [isPattern, Bool.false_eq_true] at h <;> rfl

theorem Comparison.found_null {x : Comparison} : x.found .null = .unknown := by
  unfold found
  cases x.operator <;> rfl

theorem Comparison.test_pattern {x : Comparison} (h : x.operator.isPattern = true) :
    x.test a = if x.inverted then (x.found a).not.or (.ofBool a.isNull) else x.found a := by
  unfold test
  cases hop : x.operator <;> simp only [hop, Operator.isPattern, Bool.false_eq_true] at h <;> rfl

theorem Json.Number.cell_operand : n.operand.cell = n.cell := by
  unfold operand cell
  cases n.integer? <;> rfl

theorem Json.Number.besideNumber_cell : n.cell.besideNumber = n.cell := by
  unfold cell
  cases n.integer? <;> rfl

namespace FieldQuery

/-- Beside its column an operand is the value that the condition compares with. -/
theorem Binds.operandCell (h : c.Binds column operand) (hop : c.operator ≠ .empty)
    (hf : f.type = column.type) : (c.comparison column operand).operandCell = c.right f := by
  cases h with
  | empty hempty => exact absurd hempty hop
  | @text s _ htype hmod hv =>
    have hright : c.right f = .text s := by simp [right, hv, hf, htype]
    rw [hright]
    cases column <;> simp [comparison, Comparison.operandCell, hmod, Comparison.boundCell,
      Operand.cell, Cell.besideText, Cell.text?, Cell.ofText?]
  | @number n _ hnum hv =>
    have hright : c.right f = n.cell := by simp [right, hv]
    have hbound : Comparison.boundCell ⟨column, c.modifier, c.operator, some n.operand, c.invert⟩
        = n.cell := Json.Number.cell_operand
    rw [hright]
    simp only [Comparison.operandCell, comparison, hbound]
    split
    next hmod => simp [hmod, Column.type] at hnum
    next hmod => simp [hmod, Column.type, EntityField.type] at hnum
    · exact Json.Number.besideNumber_cell
    · exact Json.Number.besideNumber_cell
    · rfl
  | @date s z _ htaken hmod hv hz =>
    have htype : f.type = .date := by rw [hf, htaken]; rfl
    have hright : c.right f = .text z.instant.stored := by simp [right, hv, htype, hz, Cell.ofText?]
    rw [hright]
    simp [comparison, Comparison.operandCell, hmod, htaken, Comparison.boundCell, Operand.cell]

/-- The pattern of a comparison is found in a text where the operator meets it. -/
theorem found_text {s t : String} (hop : c.operator.isPattern = true) :
    (c.comparison column (some (.text s))).found (.text t) = .ofBool (c.operator.meets s t) := by
  cases ho : c.operator <;> simp [ho, Operator.isPattern] at hop
  case «matches» =>
    simp only [Comparison.found, comparison, ho, Comparison.matchesPattern, Comparison.boundText,
      Option.map_some, Option.getD_some, Operand.patternText, Operator.meets]
    cases Pattern.parse? s <;> rfl
  all_goals
    simp only [Comparison.found, comparison, ho, Cell.text?, Option.any_some,
      Comparison.fitsWildcard, Comparison.boundText, Option.map_some, Option.getD_some,
      Operand.patternText, Operator.fits_wildcardPattern, Operator.meets]

/-- The comparison of a condition goes by the table of operators. -/
theorem Binds.test (h : c.Binds column operand) (hf : f.type = column.type)
    (ha : column.type = .text → c.modifier = none → a = .null ∨ ∃ s, a = .text s) :
    (c.comparison column operand).test a = c.operator.truth c.invert a (c.right f) := by
  by_cases hop : c.operator = .empty
  · simp [Comparison.test, comparison, hop, Operator.truth]
  · have hoperand := h.operandCell hop hf
    by_cases hpattern : c.operator.isPattern = true
    · cases h with
      | empty hempty => exact absurd hempty hop
      | number horder => exact absurd hpattern (Operator.not_isPattern_of_isOrder horder)
      | date horder => exact absurd hpattern (Operator.not_isPattern_of_isOrder horder)
      | @text s _ htype hmod hv =>
        have hright : c.right f = .text s := by simp [right, hv, hf, htype]
        rw [hright, Comparison.test_pattern hpattern]
        -- The column holds a text or nothing; an inverted pattern takes nothing for a text without it.
        rcases ha htype hmod with rfl | ⟨t, rfl⟩
        · rw [Comparison.found_null, Operator.truth_null hpattern]
          rfl
        · rw [found_text hpattern, Operator.truth_text hpattern, Truth.not_ofBool]
          change (if c.invert then _ else _) = _
          cases c.invert <;> cases c.operator.meets s t <;> rfl
    · unfold Comparison.test Operator.truth
      rw [hoperand]
      cases ho : c.operator <;> simp [ho, Operator.isPattern, comparison] at hop hpattern ⊢ <;>
        unfold Comparison.ordered <;> rfl

/-- The comparison of an accepted condition has the truth of the condition. -/
theorem Compiles.eval (h : c.Compiles scope column operand) (hthing : scope.StandsAt thing) :
    (c.comparison column operand).eval (Subject.beside row thing) = c.meaning row thing := by
  obtain ⟨f, hf, htype, hcell⟩ := hthing.field h.named
  have hleft : (c.comparison column operand).subjectCell (Subject.beside row thing)
      = c.left row (f.cell row thing) := by
    rw [← hcell]
    exact Modifier.cell_eq_left h.modifies
  rw [Comparison.eval, hleft, meaning, hf]
  refine h.binds.test htype fun hcolumn hmod => ?_
  rw [left, hmod, ← hcell]
  exact Subject.cell_of_type_text hcolumn

end FieldQuery

end Conditions

/-! ## Predicates -/

namespace Predicate

variable {s : Store} {catalog : String} {row : ViewRow} {thing : Option Entity} {b : Subject}
  {j : Join} {ps : List Predicate} {qs : List Query} {how : Grouping} {r : Relation} {scope : Scope}

theorem eval_join : (join j ps).eval s b = j.truth (ps.map (eval s b)) := by
  cases j <;> simp [join, eval, evalAll_eq, evalAny_eq, Join.truth]

/-- What a filter picks out to be linked to is what the relation of a query selects. -/
theorem targets_contains {link : LinkScope} {chosen : List String} {id : String}
    (h : link.recursive = true → link.relation.isHierarchical = true) :
    (link.targets s chosen).contains id = decide (s.Selects link.relation link.recursive chosen id) := by
  unfold LinkScope.targets Store.Selects
  cases hr : link.recursive
  · simp
  · simp [h hr, Store.mem_closure]

/-- A link to what a filter picks out is one to what the relation of a query selects. -/
theorem test_linked {link : LinkScope} {chosen : List String} {id : String}
    (h : link.recursive = true → link.relation.isHierarchical = true) :
    link.test s id chosen = (decide (∃ l ∈ s.links, l.relation = link.relation ∧ l.media = id ∧
      s.Selects link.relation link.recursive chosen l.entity) != link.negated) := by
  unfold LinkScope.test
  dsimp only
  congr 1
  rw [Bool.eq_iff_iff, List.any_eq_true, decide_eq_true_eq]
  refine exists_congr fun l => and_congr_right fun _ => ?_
  simp only [targets_contains h, Bool.and_eq_true, decide_eq_true_eq, and_assoc]

/-- A predicate has the truth of a query wherever a scope stands. -/
def Means (s : Store) (catalog : String) (scope : Scope) (q : Query) (p : Predicate) : Prop :=
  ∀ row thing, scope.StandsAt thing →
    p.eval s (.beside row thing) = q.meaning s catalog row thing

theorem map_eval_of_means (h : List.Forall₂ (Means s catalog scope) qs ps)
    (hthing : scope.StandsAt thing) :
    ps.map (eval s (.beside row thing)) = Query.meanings s catalog row thing qs := by
  rw [Query.meanings_eq]
  induction h with
  | nil => rfl
  | cons hp _ ih => rw [List.map_cons, List.map_cons, ih, hp row thing hthing]

/-- The predicate of a group has the truth of the group if those of its parts have theirs. -/
theorem Means.joined (hcheck : how.check scope.isRelated = .ok ())
    (h : List.Forall₂ (Means s catalog (Query.innerScope scope how)) qs ps) :
    Means s catalog scope (.group how qs) (Query.joined catalog how ps) := by
  intro row thing hthing
  rw [Query.meaning]
  unfold Query.joined
  unfold Query.innerScope at h
  cases hr : how.relation with
  | none =>
    simp only [hr, Option.map_none, Option.getD_none] at h
    have hparts := @map_eval_of_means _ _ row thing _ _ _ h hthing
    dsimp only
    rw [← hparts, ← eval_join]
    cases how.invert <;> rfl
  | some r =>
    simp only [hr, Option.map_some, Option.getD_some] at h
    obtain ⟨hrelated, hrecursive⟩ := Grouping.check_eq_ok.1 hcheck r hr
    cases scope with
    | related r' => cases hrelated
    | media =>
      cases hthing
      have hchosen : (LinkScope.candidates ⟨r, catalog, how.recursive, how.invert⟩ s).filter
            (fun e => ((join how.join ps).eval s ((Subject.ofRow row).on e)).isYes)
          = s.entities.filter fun e => e.relation = r && e.catalog = catalog &&
            (how.join.truth (Query.meanings s catalog row (some e) qs)).isYes := by
        rw [LinkScope.candidates, List.filter_filter]
        -- The parts have a truth at things of the relation only, and no others are candidates.
        refine List.filter_congr fun e _ => ?_
        by_cases he : e.relation = r
        · have hparts := @map_eval_of_means _ _ row (some e) _ _ _ h ⟨e, rfl, he⟩
          rw [← hparts, ← eval_join, Bool.and_comm]
          rfl
        · simp [he]
      simp only [eval, Subject.beside, Subject.ofRow] at hchosen ⊢
      rw [hchosen, test_linked hrecursive]

end Predicate

/-! ## Compiling -/

namespace Query

variable {limit depth : Nat} {scope : Scope} {q : Query}

/-- An accepted query compiles to a predicate that has its truth. -/
theorem exists_compile_means (h : q.checkNode limit scope.isRelated depth = .ok ()) (s : Store)
    (catalog : String) :
    ∃ p, q.compile catalog scope = .ok p ∧ p.Means s catalog scope q :=
  compile_induction (motive := fun scope q p => p.Means s catalog scope q)
    (fun _ _ _ _ hc _ _ hthing => hc.eval hthing)
    (fun _ _ _ _ hcheck hparts => .joined hcheck hparts) h

end Query

end MediaCatalog
