import MediaCatalog.Proofs.Answers
import MediaCatalog.Proofs.SearchResults
import Mathlib.Data.List.Nodup
/-!
# Inverted searches

A query and its inversion share no row, and leave out the rows on which the query is unknown. A pattern
leaves out none: inverted, it takes the rows that have no value to look into.
-/

namespace MediaCatalog

/-! ## Truth of inverted queries -/

namespace Query

/-- The query is a single condition that looks for a pattern. -/
def isPattern : Query → Bool
  | .field c => c.operator.isPattern
  | .group .. => false

/-- The query or its inversion is true of every row: it goes by a relation, or is a single condition that
asks for no order. -/
def IsWhole : Query → Prop
  | .field c => c.operator ≠ .less ∧ c.operator ≠ .lessOrEqual
  | .group how _ => how.relation.isSome = true

end Query

theorem Operator.truth_inverted {op : Operator} {inverted : Bool} {left value : Cell}
    (h : op.isPattern = false) :
    op.truth (!inverted) left value = (op.truth inverted left value).not := by
  cases op with
  | empty | equal => cases inverted <;> simp [truth]
  | less | lessOrEqual =>
    simp only [truth]
    cases left.order? value with
    | none => rfl
    | some o => cases inverted <;> simp
  | contains | startsWith | endsWith | «matches» => cases h

namespace Query

variable {s : Store} {catalog : String} {row : ViewRow} {thing : Option Entity} {q : Query}
  {limit depth : Nat} {related : Bool}

/-- Inverted, a query has the opposite truth, unless it looks for a pattern. -/
theorem meaning_inverted (h : q.isPattern = false) :
    q.inverted.meaning s catalog row thing = (q.meaning s catalog row thing).not := by
  cases q with
  | field c =>
    simp only [inverted, meaning, FieldQuery.meaning]
    split
    · exact Operator.truth_inverted h
    · rfl
  | group how parts =>
    simp only [inverted, meaning]
    cases how.relation with
    | none => cases how.invert <;> simp [Truth.invertIf]
    | some r => cases how.invert <;> simp

/-- A check does not look at inversions. -/
theorem check_inverted : q.inverted.checkNode limit related depth = q.checkNode limit related depth := by
  cases q <;> rfl

end Query

/-! ## Conditions on rows -/

theorem Cell.ofText?_eq (o : Option String) : ofText? o = .null ∨ ∃ s, ofText? o = .text s := by
  cases o with
  | none => exact .inl rfl
  | some s => exact .inr ⟨s, rfl⟩

/-- A field of texts holds a text or nothing. -/
theorem Field.cell_of_type_text {f : Field} {row : ViewRow} {thing : Option Entity}
    (h : f.type = .text) : f.cell row thing = .null ∨ ∃ s, f.cell row thing = .text s := by
  rcases f with (f | f | f | _) | (_ | _)
  · exact Cell.ofText?_eq _
  · cases h
  · cases h
  · cases h
  · exact Cell.ofText?_eq _
  · exact Cell.ofText?_eq _

namespace FieldQuery

variable {c : FieldQuery} {f : Field} {row : ViewRow} {column : Column} {operand : Option Operand}

/-- What an accepted condition looks at in a row is missing. -/
def IsMissing (c : FieldQuery) (row : ViewRow) : Prop :=
  ∃ f, Field.ofName? false c.field = some f ∧ c.left row (f.cell row none) = .null

theorem exists_binds (h : c.check false = .ok ()) : ∃ f column operand,
    Field.ofName? false c.field = some f ∧ f.type = column.type ∧ c.Binds column operand := by
  obtain ⟨column, operand, hc, -⟩ := @compile_of_check c .media h
  obtain ⟨f, hf, hcolumn⟩ := Option.map_eq_some_iff.1 hc.named
  refine ⟨.metadata f, column, operand, ?_, congrArg Column.type hcolumn, hc.binds⟩
  rw [Field.ofName?, hf]
  rfl

theorem meaning_of_ofName? (h : Field.ofName? false c.field = some f) :
    c.meaning row none = c.operator.truth c.invert (c.left row (f.cell row none)) (c.right f) := by
  rw [meaning]
  simp only [Option.isSome_none, h]

/-- The value of an accepted condition that asks for equality or an order is there. -/
theorem Binds.right_ne_null (h : c.Binds column operand) (hop : c.operator ≠ .empty)
    (hf : f.type = column.type) : c.right f ≠ .null := by
  cases h with
  | empty hempty => exact absurd hempty hop
  | text _ htype _ hv => simp [right, hv, hf, htype]
  | @number n _ _ hv =>
    simp only [right, hv, Json.Number.cell]
    cases n.integer? <;> simp
  | date _ htaken _ hv hz =>
    have htype : f.type = .date := by
      rw [hf, htaken]
      rfl
    simp [right, hv, htype, hz, Cell.ofText?]

/-- A pattern looks into a text, or there is none. -/
theorem Binds.left_of_isPattern (h : c.Binds column operand) (hop : c.operator.isPattern = true)
    (hf : f.type = column.type) :
    (∃ s, c.right f = .text s) ∧
      (c.left row (f.cell row none) = .null ∨ ∃ t, c.left row (f.cell row none) = .text t) := by
  cases h with
  | empty hempty =>
    rw [hempty] at hop
    cases hop
  | number horder => exact absurd hop (Operator.not_isPattern_of_isOrder horder)
  | date horder => exact absurd hop (Operator.not_isPattern_of_isOrder horder)
  | @text s _ htype hmod hv =>
    refine ⟨⟨s, by simp [right, hv, hf, htype]⟩, ?_⟩
    rw [left, hmod]
    exact Field.cell_of_type_text (hf.trans htype)

end FieldQuery

/-- Equality with a value, or finding one, fails where there is nothing to compare. -/
theorem Operator.truth_missing {op : Operator} {inverted : Bool} {value : Cell}
    (hop : op = .equal ∨ op.isPattern = true) (hvalue : value ≠ .null) :
    op.truth inverted .null value = .yes ↔ inverted = true := by
  rcases hop with rfl | hpattern
  · have hsame : Cell.null.same value = false := by
      cases value with
      | null => exact absurd rfl hvalue
      | _ => rfl
    cases inverted <;> simp [truth, hsame, Truth.ofBool]
  · rw [Operator.truth_null hpattern]
    cases inverted <;> simp

/-- An order is unknown where there is nothing to compare, and nowhere else. -/
theorem Operator.truth_eq_unknown {op : Operator} {inverted : Bool} {left value : Cell}
    (hop : op = .less ∨ op = .lessOrEqual) (hvalue : value ≠ .null) :
    op.truth inverted left value = .unknown ↔ left = .null := by
  have horder : left.order? value = none ↔ left = .null := by
    cases left <;> cases value <;> simp_all [Cell.order?]
  have hknown : ∀ b, Truth.ofBool b ≠ .unknown := by decide
  rw [← horder]
  rcases hop with rfl | rfl
  all_goals
    simp only [truth]
    cases left.order? value with
    | none => simp
    | some o => simpa using hknown _

namespace FieldQuery

variable {c : FieldQuery} {row : ViewRow}

/-- A row without the value is found by the inverted side of an equality or a pattern. -/
theorem meaning_of_isMissing (hcheck : c.check false = .ok ())
    (hop : c.operator = .equal ∨ c.operator.isPattern = true) (h : c.IsMissing row) :
    c.meaning row none = .yes ↔ c.invert = true := by
  obtain ⟨f, hf, hnull⟩ := h
  obtain ⟨f', column, operand, hf', htype, hbinds⟩ := exists_binds hcheck
  obtain rfl : f = f' := Option.some.inj (hf.symm.trans hf')
  have hnonempty : c.operator ≠ .empty := by
    intro hempty
    rw [hempty] at hop
    simp [Operator.isPattern] at hop
  rw [meaning_of_ofName? hf, hnull]
  exact Operator.truth_missing hop (hbinds.right_ne_null hnonempty htype)

/-- An order is unknown of the rows without the value. -/
theorem meaning_eq_unknown (hcheck : c.check false = .ok ())
    (hop : c.operator = .less ∨ c.operator = .lessOrEqual) :
    c.meaning row none = .unknown ↔ c.IsMissing row := by
  obtain ⟨f, column, operand, hf, htype, hbinds⟩ := exists_binds hcheck
  have hnonempty : c.operator ≠ .empty := by
    intro hempty
    rw [hempty] at hop
    simp at hop
  rw [meaning_of_ofName? hf, Operator.truth_eq_unknown hop (hbinds.right_ne_null hnonempty htype),
    IsMissing]
  constructor
  · exact fun hnull => ⟨f, hf, hnull⟩
  · rintro ⟨f', hf', hnull⟩
    rwa [Option.some.inj (hf.symm.trans hf')]

end FieldQuery

namespace Query

variable {s : Store} {catalog : String} {row : ViewRow} {q : Query} {limit : Nat}

/-- Apart from patterns, a query that goes by a relation or asks for no order is known of every row. -/
theorem meaning_ne_unknown (hwhole : q.IsWhole) (hpattern : q.isPattern = false)
    (hcheck : q.check false limit = .ok ()) : q.meaning s catalog row none ≠ .unknown := by
  have hknown : ∀ b, Truth.ofBool b ≠ .unknown := by decide
  cases q with
  | field c =>
    obtain ⟨f, -, -, hf, -, -⟩ := FieldQuery.exists_binds (checkNode_field.1 hcheck).2
    rw [meaning, FieldQuery.meaning_of_ofName? hf]
    obtain ⟨hless, hmost⟩ := hwhole
    cases hop : c.operator with
    | empty | equal => exact hknown _
    | less => exact absurd hop hless
    | lessOrEqual => exact absurd hop hmost
    | contains | startsWith | endsWith | «matches» =>
      rw [isPattern, hop] at hpattern
      cases hpattern
  | group how parts =>
    obtain ⟨r, hr⟩ := Option.isSome_iff_exists.1 hwhole
    rw [meaning]
    simp only [hr]
    exact hknown _

/-- Of a query that goes by a relation or asks for no order, either it or its inversion is true. -/
theorem meaning_inverted_of_isWhole (hwhole : q.IsWhole) (hcheck : q.check false limit = .ok ()) :
    q.inverted.meaning s catalog row none = .yes ↔ q.meaning s catalog row none ≠ .yes := by
  cases hpattern : q.isPattern with
  | false =>
    have hknown := @meaning_ne_unknown s catalog row q limit hwhole hpattern hcheck
    rw [meaning_inverted hpattern]
    revert hknown
    cases q.meaning s catalog row none <;> decide
  | true =>
    cases q with
    | group => cases hpattern
    | field c =>
      obtain ⟨f, column, operand, hf, htype, hbinds⟩ :=
        FieldQuery.exists_binds (checkNode_field.1 hcheck).2
      obtain ⟨⟨sought, hright⟩, hleft⟩ := @FieldQuery.Binds.left_of_isPattern c f row column operand
        hbinds hpattern htype
      have hopposite : ({ c with invert := !c.invert } : FieldQuery).meaning row none =
          c.operator.truth (!c.invert) (c.left row (f.cell row none)) (c.right f) :=
        FieldQuery.meaning_of_ofName? hf
      rw [inverted, meaning, meaning, hopposite, FieldQuery.meaning_of_ofName? hf, hright]
      rcases hleft with hnull | ⟨t, ht⟩
      · rw [hnull, Operator.truth_null hpattern, Operator.truth_null hpattern]
        cases c.invert <;> decide
      · rw [ht, Operator.truth_text hpattern, Operator.truth_text hpattern]
        cases c.invert <;> cases c.operator.meets sought t <;> decide

/-- No row is one on which both a query and its inversion are true. -/
theorem meaning_inverted_ne_yes (hcheck : q.check false limit = .ok ())
    (h : q.meaning s catalog row none = .yes) : q.inverted.meaning s catalog row none ≠ .yes := by
  cases hpattern : q.isPattern with
  | false =>
    rw [meaning_inverted hpattern, h]
    decide
  | true =>
    have hwhole : q.IsWhole := by
      cases q with
      | group => cases hpattern
      | field c =>
        constructor
        all_goals
          intro hop
          rw [isPattern, hop] at hpattern
          cases hpattern
    rw [Ne, meaning_inverted_of_isWhole hwhole hcheck]
    exact fun hne => hne h

end Query

/-! ## Rows of a query and of its inversion -/

theorem perm_of_truth {α : Type} (f : α → Truth) (xs : List α) :
    (xs.filter (f · = .yes) ++ xs.filter (f · = .no) ++ xs.filter (f · = .unknown)).Perm xs := by
  induction xs with
  | nil => exact .refl _
  | cons x xs ih =>
    cases hx : f x with
    | yes => simpa [hx] using ih
    | no =>
      simp only [List.filter_cons, hx, reduceCtorEq, decide_false, decide_true, if_true,
        Bool.false_eq_true, if_false, List.append_assoc, List.cons_append] at ih ⊢
      exact List.perm_middle.trans (ih.cons x)
    | unknown =>
      simp only [List.filter_cons, hx, reduceCtorEq, decide_false, decide_true, if_true,
        Bool.false_eq_true, if_false] at ih ⊢
      exact List.perm_middle.trans (ih.cons x)

/-- What a query and its inversion find of the rows of a view. -/
structure Query.Inverts (q : Query) (s : Store) (catalog : String) (found opposite : List ViewRow) :
    Prop where
  disjoint : ∀ row ∈ found, row ∉ opposite
  /-- The rows in neither are those on which the query is unknown. -/
  neither : q.isPattern = false → ∀ row ∈ s.view catalog,
    row ∉ found ∧ row ∉ opposite ↔ q.meaning s catalog row none = .unknown
  /-- All rows are found, or found by the inversion, or in neither, each as often as it is there. -/
  perm : q.isPattern = false → (found ++ opposite ++
    (s.view catalog).filter fun row => q.meaning s catalog row none = .unknown).Perm (s.view catalog)
  whole : q.IsWhole → (found ++ opposite).Perm (s.view catalog)
  /-- A row without the value is on the inverted side of an equality or a pattern. -/
  missing : ∀ c, q = .field c → c.operator = .equal ∨ c.operator.isPattern = true →
    ∀ row ∈ s.view catalog, c.IsMissing row → row ∈ if c.invert then found else opposite
  /-- The rows in neither are those without the value where an order is asked for. -/
  ordered : ∀ c, q = .field c → c.operator = .less ∨ c.operator = .lessOrEqual →
    ∀ row ∈ s.view catalog, row ∉ found ∧ row ∉ opposite ↔ c.IsMissing row

namespace Store

variable {s : Store} {catalog : String} {q : Query} {found opposite : List ViewRow} {limit : Nat}

theorem Shows.inverts (hfound : s.Shows catalog q found) (hopposite : s.Shows catalog q.inverted opposite)
    (hcheck : q.check false limit = .ok ()) : q.Inverts s catalog found opposite where
  disjoint := by
    intro row hrow hrow'
    exact Query.meaning_inverted_ne_yes hcheck (hfound.mem.1 hrow).2 (hopposite.mem.1 hrow').2
  neither := by
    intro hpattern row hrow
    rw [hfound.mem, hopposite.mem, Query.meaning_inverted hpattern]
    cases q.meaning s catalog row none <;> simp [hrow, Truth.not]
  perm := by
    intro hpattern
    have hno : ((s.view catalog).filter fun row => q.inverted.meaning s catalog row none = .yes) =
        (s.view catalog).filter fun row => q.meaning s catalog row none = .no := by
      refine List.filter_congr fun row _ => ?_
      rw [Query.meaning_inverted hpattern]
      cases q.meaning s catalog row none <;> rfl
    have hopposite := hopposite.perm
    rw [hno] at hopposite
    exact ((hfound.perm.append hopposite).append_right _).trans (perm_of_truth _ _)
  whole := by
    intro hwhole
    have hother : ((s.view catalog).filter fun row => q.inverted.meaning s catalog row none = .yes) =
        (s.view catalog).filter fun row => !decide (q.meaning s catalog row none = .yes) := by
      refine List.filter_congr fun row _ => ?_
      rw [decide_eq_decide.2 (Query.meaning_inverted_of_isWhole hwhole hcheck), decide_not]
    have hopposite := hopposite.perm
    rw [hother] at hopposite
    exact (hfound.perm.append hopposite).trans (List.filter_append_perm _ _)
  missing := by
    rintro c rfl hop row hrow hmissing
    have hcheck := (Query.checkNode_field.1 hcheck).2
    cases hinvert : c.invert with
    | true =>
      refine hfound.mem.2 ⟨hrow, ?_⟩
      exact (FieldQuery.meaning_of_isMissing hcheck hop hmissing).2 hinvert
    | false =>
      refine hopposite.mem.2 ⟨hrow, ?_⟩
      have hopposite := @FieldQuery.meaning_of_isMissing { c with invert := !c.invert } row hcheck hop
      exact (hopposite hmissing).2 (by simp [hinvert])
  ordered := by
    rintro c rfl hop row hrow
    have hpattern : (Query.field c).isPattern = false := by
      rcases hop with hop | hop <;> simp [Query.isPattern, hop, Operator.isPattern]
    rw [← FieldQuery.meaning_eq_unknown (Query.checkNode_field.1 hcheck).2 hop, hfound.mem,
      hopposite.mem, Query.meaning_inverted hpattern, Query.meaning]
    cases c.meaning row none <;> simp [hrow, Truth.not]

end Store

/-! ## Searches -/

namespace SearchService

variable {service : SearchService} {caller catalog : String} {q : Query}

/-- The search is accepted, and refused because of a limit that its statement exceeds. -/
def IsRefused (service : SearchService) (caller catalog : String) (q : Query) : Prop :=
  ∃ p e, q.compile catalog .media = .ok p ∧ service.search caller catalog q = .error (.storage e) ∧
    q.Exceeds p.normalize e

/-- The search gives the rows of the view on which the query is true. -/
def Finds (service : SearchService) (caller catalog : String) (q : Query) (shown : List ViewRow)
    (rows : List MediaRow) : Prop :=
  service.search caller catalog q = .ok rows ∧ shown.mapM service.store.readRow = .ok rows ∧
    service.store.Shows catalog q shown

/-- A search of rows that can be read back finds its rows, unless it is refused. -/
theorem exists_finds (hread : (service.authorize caller catalog).canRead = true)
    (hcheck : q.check false service.maxDepth = .ok ()) (hdocuments : service.store.hasMalformed = false)
    (hrows : ∀ row ∈ service.store.view catalog, service.store.Readable row) :
    service.IsRefused caller catalog q ∨ ∃ shown rows, service.Finds caller catalog q shown rows := by
  obtain ⟨p, hp, ⟨e, hsearch, hexceeds⟩ | ⟨shown, hshows, hsearch⟩⟩ :=
    exists_selected hread hcheck hdocuments
  · exact .inl ⟨p, e, hp, hsearch, hexceeds⟩
  · obtain ⟨rows, hok⟩ := hshows.exists_rows hrows
    rw [hok] at hsearch
    exact .inr ⟨shown, rows, hsearch, hok, hshows⟩

/-- A search whose predicate keeps within all limits finds its rows where those of the catalog can be
read back. -/
theorem exists_finds_of_isModest {p : Predicate}
    (hread : (service.authorize caller catalog).canRead = true)
    (hcheck : q.check false service.maxDepth = .ok ()) (hdocuments : service.store.hasMalformed = false)
    (hrows : ∀ row ∈ service.store.view catalog, service.store.Readable row)
    (hp : q.compile catalog .media = .ok p) (hshallow : p.normalize.isShallow = true)
    (hbindable : p.normalize.isBindable = true) (hshort : ∀ x ∈ q.conditions, x.isLong = false) :
    ∃ shown rows, service.Finds caller catalog q shown rows := by
  obtain ⟨shown, hshows, hsearch⟩ :=
    exists_selected_of_isModest hread hcheck hdocuments hp hshallow hbindable hshort
  obtain ⟨rows, hok⟩ := hshows.exists_rows hrows
  rw [hok] at hsearch
  exact ⟨shown, rows, hsearch, hok, hshows⟩

end SearchService

/-! ## Two inversions around a query -/

namespace Query

/-- The query in a group of its own, inverted, and this in another. -/
def twiceInverted (q : Query) : Query :=
  .group ⟨.all, true, none, false⟩ [.group ⟨.all, true, none, false⟩ [q]]

theorem compile_twiceInverted {catalog : String} {q : Query} {p : Predicate}
    (hp : q.compile catalog .media = .ok p) :
    q.twiceInverted.compile catalog .media = .ok (.not (.all [.not (.all [p])])) := by
  simp [twiceInverted, compile, compileAll, hp, bind, Except.bind, pure, Except.pure, Predicate.join]

end Query

namespace Predicate

/-- In normal form nothing is left of the negations but two groups of one part. -/
theorem normalize_twiceInverted {p : Predicate} :
    (Predicate.not (.all [.not (.all [p])])).normalize = .any [.all [p.normalize]] := rfl

end Predicate

namespace Store

variable {s : Store} {catalog : String} {p : Predicate}

/-- A group of one part is asked of rows as that part is. -/
theorem queryMedia_grouped : s.queryMedia catalog (.any [.all [p]]) = s.queryMedia catalog p := by
  have hshallow : (Predicate.any [.all [p]]).isShallow = p.isShallow := by
    simp [Predicate.isShallow, Predicate.height, Predicate.groupHeight, Predicate.innerHeight,
      Predicate.innerHeights]
  have hbindable : (Predicate.any [.all [p]]).isBindable = p.isBindable := by
    simp [Predicate.isBindable, Predicate.lower, Predicate.lowerRest, Sql.params, Sql.params_append]
  have hscoped : (Predicate.any [.all [p]]).isScoped [] = p.isScoped [] := by
    simp [Predicate.isScoped, Predicate.areScoped_eq]
  have hfailure : (Predicate.any [.all [p]]).failure? s catalog = p.failure? s catalog := rfl
  have hholds : (Predicate.any [.all [p]]).holds s = p.holds s := by
    funext row
    unfold Predicate.holds
    simp only [Predicate.eval, Predicate.evalAll, Predicate.evalAny]
    cases p.eval s (.ofRow row) <;> rfl
  simp only [queryMedia, hshallow, hbindable, hscoped, hfailure, select, hholds]

end Store

namespace SearchService

variable {service : SearchService} {caller catalog : String} {q : Query}

/-- Two inversions around a query leave its search as it is. -/
theorem search_twiceInverted (hcheck : q.check false service.maxDepth = .ok ())
    (htwice : q.twiceInverted.check false service.maxDepth = .ok ()) :
    service.search caller catalog q.twiceInverted = service.search caller catalog q := by
  cases hread : (service.authorize caller catalog).canRead with
  | false => rw [search_of_not_canRead hread, search_of_not_canRead hread]
  | true =>
    obtain ⟨p, hp, -⟩ := @Query.exists_compile_sound service.maxDepth 1 .media q hcheck catalog
    rw [search_eq hread htwice (Query.compile_twiceInverted hp), search_eq hread hcheck hp,
      Predicate.normalize_twiceInverted, Store.queryMedia_grouped]

variable {found opposite : List ViewRow} {rows rows' : List MediaRow} {shown : MediaRow}

theorem Finds.exists_row (h : service.Finds caller catalog q found rows) (hshown : shown ∈ rows) :
    ∃ row ∈ found, row ∈ service.store.view catalog ∧ row.id = shown.id := by
  obtain ⟨row, hrow, hread⟩ := exists_of_forall₂ (mapM_eq_ok.1 h.2.1) hshown
  exact ⟨row, hrow, (h.2.2.mem.1 hrow).1, (Store.readRow_id hread).symm⟩

/-- Where ids are unique an item is found when the query is true of its row. -/
theorem Finds.exists_row_iff (h : service.Finds caller catalog q found rows)
    (hids : (service.store.items.map (·.id)).Nodup) {row : ViewRow}
    (hrow : row ∈ service.store.view catalog) :
    (∃ shown ∈ rows, shown.id = row.id) ↔ q.meaning service.store catalog row none = .yes := by
  constructor
  · rintro ⟨shown, hshown, hid⟩
    obtain ⟨row', hfound, hview, hid'⟩ := h.exists_row hshown
    have hsame := List.inj_on_of_nodup_map (Store.nodup_view_ids hids) hview hrow (hid'.trans hid)
    exact hsame ▸ (h.2.2.mem.1 hfound).2
  · intro hyes
    obtain ⟨shown, hshown, hread⟩ :=
      exists_of_forall₂ (mapM_eq_ok.1 h.2.1).flip (h.2.2.mem.2 ⟨hrow, hyes⟩)
    exact ⟨shown, hshown, Store.readRow_id hread⟩

/-- Where ids are unique a query and its inversion show no media item in common. -/
theorem Finds.disjoint_ids (hfound : service.Finds caller catalog q found rows)
    (hopposite : service.Finds caller catalog q.inverted opposite rows')
    (hdisjoint : ∀ row ∈ found, row ∉ opposite) (hids : (service.store.items.map (·.id)).Nodup) :
    ∀ shown ∈ rows, ∀ shown' ∈ rows', shown.id ≠ shown'.id := by
  intro shown hshown shown' hshown' hid
  obtain ⟨row, hrow, hview, hrowid⟩ := hfound.exists_row hshown
  obtain ⟨row', hrow', hview', hrowid'⟩ := hopposite.exists_row hshown'
  have hsame : row = row' := List.inj_on_of_nodup_map (Store.nodup_view_ids hids) hview hview'
    (hrowid.trans (hid.trans hrowid'.symm))
  exact hdisjoint row hrow (hsame ▸ hrow')

/-- An accepted query can be inverted. Unless one of the two exceeds a limit they find no row in common,
and together all rows but those on which the query is unknown, where no stored location is malformed and
the rows can be read back. Two inversions around a query leave its search as it is. -/
theorem search_inverted (service : SearchService) (caller catalog : String) (q : Query)
    (hread : (service.authorize caller catalog).canRead = true)
    (hcheck : q.check false service.maxDepth = .ok ()) (hdocuments : service.store.hasMalformed = false)
    (hrows : ∀ row ∈ service.store.view catalog, service.store.Readable row) :
    q.inverted.check false service.maxDepth = .ok () ∧
      (service.IsRefused caller catalog q ∨ service.IsRefused caller catalog q.inverted ∨
        ∃ found opposite rows rows', service.Finds caller catalog q found rows ∧
          service.Finds caller catalog q.inverted opposite rows' ∧
          q.Inverts service.store catalog found opposite ∧
          ((service.store.items.map (·.id)).Nodup →
            ∀ shown ∈ rows, ∀ shown' ∈ rows', shown.id ≠ shown'.id)) ∧
      (q.twiceInverted.check false service.maxDepth = .ok () →
        service.search caller catalog q.twiceInverted = service.search caller catalog q) := by
  have hinverted : q.inverted.check false service.maxDepth = .ok () := Query.check_inverted.trans hcheck
  refine ⟨hinverted, ?_, search_twiceInverted hcheck⟩
  rcases exists_finds hread hcheck hdocuments hrows with hrefused | ⟨found, rows, hfound⟩
  · exact .inl hrefused
  rcases exists_finds hread hinverted hdocuments hrows with hrefused | ⟨opposite, rows', hopposite⟩
  · exact .inr (.inl hrefused)
  have hinverts := hfound.2.2.inverts hopposite.2.2 hcheck
  exact .inr (.inr ⟨found, opposite, rows, rows', hfound, hopposite, hinverts,
    hfound.disjoint_ids hopposite hinverts.disjoint⟩)

/-- Titles that contain a text: the item has none, so the inversion finds it. -/
theorem search_inverted_titled :
    ((openService.authorize "someone" "home").canRead = true ∧
      (Query.titled "sea").check false openService.maxDepth = .ok () ∧
      openService.store.hasMalformed = false ∧
      ∀ row ∈ openService.store.view "home", openService.store.Readable row) ∧
    (Query.titled "sea").inverted.check false openService.maxDepth = .ok () ∧
      (openService.IsRefused "someone" "home" (.titled "sea") ∨
        openService.IsRefused "someone" "home" (Query.titled "sea").inverted ∨
        ∃ opposite rows', openService.Finds "someone" "home" (Query.titled "sea").inverted opposite rows' ∧
          ∀ row ∈ openService.store.view "home", row ∈ opposite) := by
  obtain ⟨hinverted, hsearch, -⟩ := search_inverted openService "someone" "home" (.titled "sea") rfl rfl
    rfl openService_rows
  refine ⟨⟨rfl, rfl, rfl, openService_rows⟩, hinverted, ?_⟩
  rcases hsearch with hrefused | hrefused | ⟨found, opposite, rows, rows', hfound, hopposite, hlaw, -⟩
  · exact .inl hrefused
  · exact .inr (.inl hrefused)
  · refine .inr (.inr ⟨opposite, rows', hopposite, fun row hrow => ?_⟩)
    have hview : openService.store.view "home" = [_] := rfl
    refine hlaw.missing _ rfl (.inr rfl) row hrow ⟨.metadata (.text .title), rfl, ?_⟩
    rw [hview, List.mem_singleton] at hrow
    rw [hrow]
    rfl

/-- A text that is too long fails on the first row, and so does the inversion. -/
theorem search_titled {text : String} (h : maxWildcardBytes ≤ text.length) (invert : Bool) :
    openService.search "someone" "home"
        (.field ⟨"title", none, .contains, some (.string text), invert⟩) =
      .error (.storage .longPattern) := by
  have hlong : maxWildcardBytes < (wildcardPattern .contains text).utf8ByteSize :=
    Nat.lt_of_le_of_lt h length_lt_wildcardPattern
  let p : Predicate := .compare ⟨.media (.text .title), none, .contains, some (.text text), invert⟩
  have hfailure : p.failure? Query.oneItem "home" = some .longPattern :=
    Predicate.failure_compare rfl (fun _ => if_pos hlong) (by simp [Query.oneItem, Store.view])
  have hcompile : (Query.field ⟨"title", none, .contains, some (.string text), invert⟩).compile "home"
      .media = .ok p := rfl
  have hnormal : p.normalize = p := rfl
  have hshallow : p.isShallow = true := by cases invert <;> rfl
  have hbindable : p.isBindable = true := by cases invert <;> rfl
  have hscoped : p.isScoped [] = true := rfl
  have hdocuments : Query.oneItem.hasMalformed = false := rfl
  rw [search_eq rfl rfl hcompile, hnormal, openService, Store.queryMedia, hshallow, hbindable, hscoped,
    hdocuments, hfailure]
  rfl

/-- Neither an accepted query nor its inversion finds the only row of the view, though the query is known
of it. -/
theorem search_titled_longText :
    (Query.titled Query.longText).check false openService.maxDepth = .ok () ∧
      openService.store.hasMalformed = false ∧
      (∀ row ∈ openService.store.view "home", openService.store.Readable row) ∧
      (openService.store.view "home").length = 1 ∧
      openService.search "someone" "home" (.titled Query.longText) = .error (.storage .longPattern) ∧
      openService.search "someone" "home" (Query.titled Query.longText).inverted =
        .error (.storage .longPattern) :=
  have hlong : maxWildcardBytes ≤ Query.longText.length := Nat.le_of_eq Query.length_longText.symm
  ⟨rfl, rfl, openService_rows, rfl, search_titled hlong false, search_titled hlong true⟩

end SearchService

end MediaCatalog
