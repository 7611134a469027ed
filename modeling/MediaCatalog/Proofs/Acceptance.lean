import MediaCatalog.Proofs.Results
import MediaCatalog.Proofs.Tree
/-!
# What the check lets through

A condition is accepted when it names a field, its modifier applies to the type of the field, and
its operator and value fit the type that comes out. A group is accepted when its relation is and all
its parts are.
-/

namespace MediaCatalog

/-- The operators that ask for an order or for equality. -/
def Operator.isOrder (op : Operator) : Bool := op = .equal || op = .less || op = .lessOrEqual

namespace FieldQuery

/-- The operator and the value of a condition fit a type. -/
inductive Fits (c : FieldQuery) : FieldType → Prop
  | empty {t : FieldType} : c.operator = .empty → c.value = none → Fits c t
  | text {s : String} : c.operator ≠ .empty → c.value = some (.string s) →
      (c.operator = .matches → Pattern.isValid s = true) → Fits c .text
  | number {t : FieldType} {n : Json.Number} : t = .integer ∨ t = .real →
      c.operator.isOrder = true → c.value = some (.number n) → Fits c t
  | date {s : String} {z : Time.ZonedInstant} : c.operator.isOrder = true →
      c.value = some (.string s) → Time.parse? s = some z → Fits c .date

variable {c : FieldQuery} {t : FieldType} {related : Bool}

theorem checkPattern_eq_ok {s : String} : c.checkPattern s = .ok () ↔ Pattern.isValid s = true := by
  unfold checkPattern Pattern.isValid Pattern.parse?
  cases Pattern.read s <;> simp [Except.toOption]

theorem checkValue_eq_ok {expected : ValueType} :
    c.checkValue expected = .ok () ↔ ∃ v, c.value = some v ∧ expected.admits v = true ∧
      ∀ s, c.operator = .matches → v = .string s → Pattern.isValid s = true := by
  unfold checkValue
  cases hv : c.value with
  | none => simp
  | some v =>
    cases hadmits : expected.admits v
    · simp [hadmits]
    · cases v <;> cases c.operator <;> simp [hadmits, Json.text?, checkPattern_eq_ok]

end FieldQuery

namespace ValueType

variable {v : Json}

theorem admits_text : text.admits v = true ↔ ∃ s, v = .string s := by
  cases v <;> simp [admits, Json.text?]

theorem admits_number : number.admits v = true ↔ ∃ n, v = .number n := by
  cases v <;> simp [admits, Json.number?]

theorem admits_date : date.admits v = true ↔ ∃ s z, v = .string s ∧ Time.parse? s = some z := by
  cases v <;> simp [admits, Json.date?, Json.text?, Option.isSome_iff_exists]

end ValueType

namespace FieldType

variable {t : FieldType} {op : Operator} {expected : ValueType}

theorem demand_eq_nothing : t.demand op = .nothing ↔ op = .empty := by
  cases t <;> cases op <;> simp [demand]

theorem demand_eq_value : t.demand op = .value expected ↔
    (t = .text ∧ op ≠ .empty ∧ expected = .text) ∨
      ((t = .integer ∨ t = .real) ∧ op.isOrder = true ∧ expected = .number) ∨
      (t = .date ∧ op.isOrder = true ∧ expected = .date) := by
  cases t <;> cases op <;> simp [demand, Operator.isOrder, eq_comm]

end FieldType

namespace FieldQuery

variable {c : FieldQuery} {t : FieldType} {related : Bool}

/-- A condition fits a type when there is what its operator takes beside the type. -/
theorem fits_iff : c.Fits t ↔
    (t.demand c.operator = .nothing ∧ c.value = none) ∨
      ∃ expected, t.demand c.operator = .value expected ∧ c.checkValue expected = .ok () := by
  simp only [checkValue_eq_ok, FieldType.demand_eq_nothing, FieldType.demand_eq_value]
  constructor
  · rintro (⟨hop, hv⟩ | ⟨hop, hv, hm⟩ | ⟨ht, hop, hv⟩ | ⟨hop, hv, hz⟩)
    · exact .inl ⟨hop, hv⟩
    · exact .inr ⟨.text, .inl ⟨rfl, hop, rfl⟩, _, hv, rfl, by simpa using hm⟩
    · exact .inr ⟨.number, .inr (.inl ⟨ht, hop, rfl⟩), _, hv, rfl, by simp⟩
    · refine .inr ⟨.date, .inr (.inr ⟨rfl, hop, rfl⟩), _, hv, ?_, fun s hm => ?_⟩
      · exact ValueType.admits_date.2 ⟨_, _, rfl, hz⟩
      · simp [hm, Operator.isOrder] at hop
  · rintro (⟨hop, hv⟩ | ⟨_, ⟨rfl, hop, rfl⟩ | ⟨ht, hop, rfl⟩ | ⟨rfl, hop, rfl⟩, v, hv, ha, hm⟩)
    · exact .empty hop hv
    · obtain ⟨s, rfl⟩ := ValueType.admits_text.1 ha
      exact .text hop hv fun h => hm s h rfl
    · obtain ⟨n, rfl⟩ := ValueType.admits_number.1 ha
      exact .number ht hop hv
    · obtain ⟨s, z, rfl, hz⟩ := ValueType.admits_date.1 ha
      exact .date hop hv hz

/-- A condition is accepted when it names a field whose type, after the modifier, it fits. -/
theorem check_eq_ok : c.check related = .ok () ↔
    ∃ f t, c.resolve related = .ok f ∧ c.effectiveType f = .ok t ∧ c.Fits t := by
  simp only [check, bind_eq_ok, fits_iff]
  refine exists_congr fun f => ?_
  rw [exists_and_left]
  refine and_congr_right fun _ => exists_congr fun t => and_congr_right fun _ => ?_
  cases t.demand c.operator with
  | refused => simp [throw, throwThe, MonadExceptOf.throw]
  | nothing => cases c.value <;> simp [throw, throwThe, MonadExceptOf.throw, pure, Except.pure]
  | value expected => simp

theorem resolve_eq_ok {f : Field} :
    c.resolve related = .ok f ↔ Field.ofName? related c.field = some f := by
  unfold resolve
  cases Field.ofName? related c.field <;> simp

end FieldQuery

namespace Query

variable {limit depth : Nat} {related : Bool} {qs : List Query}

/-- A list of nodes is accepted when each of them is. -/
theorem checkParts_eq_ok : checkParts limit related depth qs = .ok () ↔
    ∀ q ∈ qs, checkNode limit related depth q = .ok () := by
  induction qs with
  | nil => simp [checkParts]
  | cons q qs ih => simp [checkParts, guard_eq_ok, ih]

theorem checkNode_field {c : FieldQuery} : checkNode limit related depth (.field c) = .ok () ↔
    depth ≤ limit ∧ c.check related = .ok () := by
  rw [checkNode]
  split
  · simp [Nat.not_le.2 ‹_›]
  · simp [Nat.not_lt.1 ‹_›]

/-- A group is accepted when its relation and each of its parts is. -/
theorem checkNode_group {how : Grouping} : checkNode limit related depth (.group how qs) = .ok () ↔
    depth ≤ limit ∧ how.check related = .ok () ∧
      ∀ q ∈ qs, checkNode limit (related || how.relation.isSome) (depth + 1) q = .ok () := by
  rw [checkNode]
  split
  · simp [Nat.not_le.2 ‹_›]
  · simp [Nat.not_lt.1 ‹_›, guard_eq_ok, checkParts_eq_ok]

end Query

theorem Grouping.check_eq_ok {how : Grouping} {related : Bool} : how.check related = .ok () ↔
    ∀ r, how.relation = some r → related = false ∧ (how.recursive → r.isHierarchical) := by
  unfold Grouping.check
  cases how.relation with
  | none => simp
  | some r => cases related <;> cases how.recursive <;> cases r.isHierarchical <;> simp

end MediaCatalog
