import MediaCatalog.Proofs.Compiled
import Mathlib.Data.List.Lex
/-!
# The first fault of a query

Which queries are well formed is said of each node for itself, by its depth and by whether a
relation stands above it. A query is accepted when all its nodes are, and is refused for the first
that is not, in the order of reading. A node that breaks several rules is refused for the first of
these.
-/

namespace MediaCatalog

/-! ## Rules of fields -/

namespace Field

/-- The names of fields: those of media items outside relations, of related things inside. -/
inductive Names : Bool → String → Field → Prop
  | metadata (f : MetadataField) : Names false f.name (.metadata f)
  | entity (f : EntityField) : Names true f.column (.entity f)

variable {inside : Bool} {s : String} {f : Field}

theorem ofName?_name (f : MetadataField) : MetadataField.ofName? f.name = some f := by
  rcases f with f | f | f | _ <;> first | rfl | (cases f <;> rfl)

theorem ofName?_column (f : EntityField) : EntityField.ofName? f.column = some f := by
  cases f <;> rfl

theorem ofName?_eq_some : ofName? inside s = some f ↔ Names inside s f := by
  constructor
  · intro h
    cases inside with
    | false =>
      obtain ⟨g, hg, rfl⟩ := Option.map_eq_some_iff.1 (by simpa [ofName?] using h)
      have hname : g.name = s := by simpa using List.find?_some hg
      exact hname ▸ .metadata g
    | true =>
      obtain ⟨g, hg, rfl⟩ := Option.map_eq_some_iff.1 (by simpa [ofName?] using h)
      have hname : g.column = s := by simpa using List.find?_some hg
      exact hname ▸ .entity g
  · rintro (f | f)
    · simp [ofName?, ofName?_name]
    · simp [ofName?, ofName?_column]

end Field

/-- The operators that a type takes. -/
def FieldType.Takes (t : FieldType) (op : Operator) : Prop :=
  op = .empty ∨ t = .text ∨ op.isOrder = true

/-- The type of the values that the fields of a type are compared with. -/
def FieldType.valueType : FieldType → ValueType
  | .text => .text
  | .integer | .real => .number
  | .date => .date

/-- The values of a type. -/
inductive ValueType.Has : ValueType → Json → Prop
  | text (s : String) : Has .text (.string s)
  | number (n : Json.Number) : Has .number (.number n)
  | date {s : String} {z : Time.ZonedInstant} : Time.parse? s = some z → Has .date (.string s)

theorem ValueType.admits_iff {t : ValueType} {v : Json} : t.admits v = true ↔ t.Has v := by
  constructor
  · intro h
    cases t with
    | text =>
      obtain ⟨s, rfl⟩ := admits_text.1 h
      exact .text s
    | number =>
      obtain ⟨n, rfl⟩ := admits_number.1 h
      exact .number n
    | date =>
      obtain ⟨s, z, rfl, hz⟩ := admits_date.1 h
      exact .date hz
  · rintro (s | n | hz)
    · exact admits_text.2 ⟨s, rfl⟩
    · exact admits_number.2 ⟨n, rfl⟩
    · exact admits_date.2 ⟨_, _, rfl, hz⟩

theorem FieldType.demand_eq_refused {t : FieldType} {op : Operator} :
    t.demand op = .refused ↔ ¬t.Takes op := by
  cases t <;> cases op <;> simp [demand, Takes, Operator.isOrder]

theorem FieldType.demand_eq_valueType {t : FieldType} {op : Operator} {expected : ValueType} :
    t.demand op = .value expected ↔ op ≠ .empty ∧ t.Takes op ∧ expected = t.valueType := by
  cases t <;> cases op <;> simp [demand, Takes, Operator.isOrder, valueType, eq_comm]

namespace FieldQuery

/-- The types that the field of a condition has after the modifier. -/
inductive HasType (c : FieldQuery) (inside : Bool) : FieldType → Prop
  | plain {f : Field} : Field.Names inside c.field f → c.modifier = none → HasType c inside f.type
  | modified {f : Field} {m : Modifier} : Field.Names inside c.field f → c.modifier = some m →
      m ∈ f.type.modifiers → HasType c inside m.resultType

/-- The errors of a condition whose operator or value does not fit a type. -/
inductive Misfits (c : FieldQuery) (t : FieldType) : ValidationError → Prop
  | operator : ¬t.Takes c.operator → Misfits c t (.invalidOperator c.field c.operator)
  | unexpected {v : Json} : c.operator = .empty → c.value = some v →
      Misfits c t (.unexpectedValue c.field c.operator)
  | type : c.operator ≠ .empty → t.Takes c.operator →
      (∀ v, c.value = some v → ¬t.valueType.Has v) →
      Misfits c t (.typeMismatch c.field t.valueType c.foundType)
  | pattern {s : String} {fault : Pattern.Fault} : t = .text → c.operator = .matches →
      c.value = some (.string s) → Pattern.read s = .error fault →
      Misfits c t (.invalidPattern c.field fault)

/-- The errors of a condition that breaks a rule. A rule binds once those before it are kept. -/
inductive Fault (c : FieldQuery) (inside : Bool) : ValidationError → Prop
  | name : (∀ f, ¬Field.Names inside c.field f) → Fault c inside (.unknownField c.field)
  | modifier {f : Field} {m : Modifier} : Field.Names inside c.field f → c.modifier = some m →
      m ∉ f.type.modifiers → Fault c inside (.invalidModifier c.field m)
  | misfits {t : FieldType} {e : ValidationError} : c.HasType inside t → c.Misfits t e →
      Fault c inside e

variable {c : FieldQuery} {inside : Bool} {t : FieldType} {f : Field} {e : ValidationError}

theorem resolve_eq_ok_iff : c.resolve inside = .ok f ↔ Field.Names inside c.field f := by
  rw [resolve_eq_ok, Field.ofName?_eq_some]

theorem resolve_eq_error : c.resolve inside = .error e ↔
    (∀ f, ¬Field.Names inside c.field f) ∧ e = .unknownField c.field := by
  simp only [← Field.ofName?_eq_some, resolve]
  cases Field.ofName? inside c.field <;> simp [eq_comm]

theorem effectiveType_eq_error : c.effectiveType f = .error e ↔
    ∃ m, c.modifier = some m ∧ m ∉ f.type.modifiers ∧ e = .invalidModifier c.field m := by
  unfold effectiveType
  cases c.modifier with
  | none => simp
  | some m => by_cases h : m ∈ f.type.modifiers <;> simp [h, eq_comm]

/-- The type that the check goes by. -/
theorem hasType_iff : c.HasType inside t ↔
    ∃ f, c.resolve inside = .ok f ∧ c.effectiveType f = .ok t := by
  simp only [resolve_eq_ok_iff, effectiveType_eq_ok]
  constructor
  · rintro (⟨hf, hm⟩ | ⟨hf, hm, hmem⟩)
    · exact ⟨_, hf, by simp [hm], by simp [hm]⟩
    · exact ⟨_, hf, by simp [hm, hmem], by simp [hm]⟩
  · rintro ⟨f, hf, hmem, rfl⟩
    cases hm : c.modifier with
    | none => exact .plain hf hm
    | some m => exact .modified hf hm (hmem m hm)

theorem check_eq_ok_iff : c.check inside = .ok () ↔ ∃ t, c.HasType inside t ∧ c.Fits t := by
  simp only [check_eq_ok, hasType_iff]
  exact ⟨fun ⟨f, t, hf, ht, hfits⟩ => ⟨t, ⟨f, hf, ht⟩, hfits⟩,
    fun ⟨t, ⟨f, hf, ht⟩, hfits⟩ => ⟨f, t, hf, ht, hfits⟩⟩

theorem checkPattern_eq_error {s : String} : c.checkPattern s = .error e ↔
    ∃ fault, Pattern.read s = .error fault ∧ e = .invalidPattern c.field fault := by
  unfold checkPattern
  cases Pattern.read s <;> simp [eq_comm]

theorem checkValue_eq_error {expected : ValueType} : c.checkValue expected = .error e ↔
    ((∀ v, c.value = some v → ¬expected.Has v) ∧ e = .typeMismatch c.field expected c.foundType) ∨
      ∃ s, c.value = some (.string s) ∧ expected.Has (.string s) ∧ c.operator = .matches ∧
        c.checkPattern s = .error e := by
  simp only [← ValueType.admits_iff, checkValue]
  cases c.value with
  | none => simp [eq_comm (a := e)]
  | some v =>
    cases hadmits : expected.admits v
    · cases v <;> simp [hadmits, eq_comm (a := e)]
    · cases v <;> cases c.operator <;> simp [hadmits, Json.text?]

/-- A condition misfits a type when there is not what its operator takes beside the type. -/
theorem misfits_iff : c.Misfits t e ↔
    (t.demand c.operator = .refused ∧ e = .invalidOperator c.field c.operator) ∨
      (t.demand c.operator = .nothing ∧ c.value.isSome = true ∧
        e = .unexpectedValue c.field c.operator) ∨
      ∃ expected, t.demand c.operator = .value expected ∧ c.checkValue expected = .error e := by
  simp only [FieldType.demand_eq_refused, FieldType.demand_eq_nothing,
    FieldType.demand_eq_valueType, checkValue_eq_error, checkPattern_eq_error]
  constructor
  · rintro (htakes | ⟨hop, hv⟩ | ⟨hop, htakes, hhas⟩ | ⟨rfl, hop, hv, hread⟩)
    · exact .inl ⟨htakes, rfl⟩
    · exact .inr (.inl ⟨hop, by simp [hv], rfl⟩)
    · exact .inr (.inr ⟨_, ⟨hop, htakes, rfl⟩, .inl ⟨hhas, rfl⟩⟩)
    · exact .inr (.inr ⟨_, ⟨by simp [hop], .inr (.inl rfl), rfl⟩,
        .inr ⟨_, hv, .text _, hop, _, hread, rfl⟩⟩)
  · rintro (⟨htakes, rfl⟩ | ⟨hop, hv, rfl⟩ | ⟨_, ⟨hop, htakes, rfl⟩,
      ⟨hhas, rfl⟩ | ⟨s, hv, hhas, hmatches, fault, hread, rfl⟩⟩)
    · exact .operator htakes
    · obtain ⟨v, hv⟩ := Option.isSome_iff_exists.1 hv
      exact .unexpected hop hv
    · exact .type hop htakes hhas
    · have htext : t = .text := by
        rcases htakes with h | h | h
        · exact absurd h hop
        · exact h
        · simp [hmatches, Operator.isOrder] at h
      exact .pattern htext hmatches hv hread

/-- The steps in which a check can end with an error. -/
theorem check_eq_error_iff : c.check inside = .error e ↔ c.resolve inside = .error e ∨
    ∃ f, c.resolve inside = .ok f ∧ (c.effectiveType f = .error e ∨
      ∃ t, c.effectiveType f = .ok t ∧ c.Misfits t e) := by
  simp only [check, bind_eq_error, misfits_iff]
  refine or_congr_right (exists_congr fun f => and_congr_right fun _ => or_congr_right ?_)
  refine exists_congr fun t => and_congr_right fun _ => ?_
  cases t.demand c.operator with
  | refused => simp [throw, throwThe, MonadExceptOf.throw, eq_comm (a := e)]
  | nothing =>
    cases c.value <;>
      simp [throw, throwThe, MonadExceptOf.throw, pure, Except.pure, eq_comm (a := e)]
  | value expected => simp

/-- A condition is refused for the first rule that it breaks. -/
theorem check_eq_error : c.check inside = .error e ↔ c.Fault inside e := by
  rw [check_eq_error_iff]
  constructor
  · rintro (h | ⟨f, hf, h | ⟨t, ht, h⟩⟩)
    · obtain ⟨hname, rfl⟩ := resolve_eq_error.1 h
      exact .name hname
    · obtain ⟨m, hm, hmem, rfl⟩ := effectiveType_eq_error.1 h
      exact .modifier (resolve_eq_ok_iff.1 hf) hm hmem
    · exact .misfits (hasType_iff.2 ⟨f, hf, ht⟩) h
  · rintro (hname | ⟨hf, hm, hmem⟩ | ⟨ht, h⟩)
    · exact .inl (resolve_eq_error.2 ⟨hname, rfl⟩)
    · exact .inr ⟨_, resolve_eq_ok_iff.2 hf, .inl (effectiveType_eq_error.2 ⟨_, hm, hmem, rfl⟩)⟩
    · obtain ⟨f, hf, ht⟩ := hasType_iff.1 ht
      exact .inr ⟨f, hf, .inr ⟨_, ht, h⟩⟩

end FieldQuery

/-! ## Rules of groups -/

namespace Grouping

/-- A group keeps the rules of relations. -/
structure Keeps (how : Grouping) (inside : Bool) : Prop where
  flat : inside = true → how.relation = none
  hierarchical : how.recursive = true → how.relation ≠ some .person

/-- The errors of a group that breaks a rule. -/
inductive Fault (how : Grouping) (inside : Bool) : ValidationError → Prop
  | nested {r : Relation} : how.relation = some r → inside = true → Fault how inside .nestedRelation
  | flat {r : Relation} : how.relation = some r → inside = false → how.recursive = true →
      r = .person → Fault how inside (.notHierarchical r)

variable {how : Grouping} {inside : Bool} {e : ValidationError}

theorem check_eq_ok_iff : how.check inside = .ok () ↔ how.Keeps inside := by
  constructor
  · intro h
    rw [check_eq_ok] at h
    refine ⟨fun hinside => ?_, fun hrec hperson => ?_⟩
    · cases hr : how.relation with
      | none => rfl
      | some r => exact absurd hinside (by simp [(h r hr).1])
    · exact absurd ((h _ hperson).2 hrec) (by decide)
  · rintro ⟨hflat, hhier⟩
    refine check_eq_ok.2 fun r hr => ⟨?_, fun hrec => ?_⟩
    · cases inside
      · rfl
      · simp [hflat rfl] at hr
    · cases r
      · rfl
      · rfl
      · exact absurd hr (hhier hrec)

theorem check_eq_error : how.check inside = .error e ↔ how.Fault inside e := by
  unfold check
  constructor
  · intro h
    cases hr : how.relation with
    | none => simp [hr] at h
    | some r =>
      cases hinside : inside
      · cases hrec : how.recursive <;> cases r <;>
          simp [hr, hinside, hrec, Relation.isHierarchical] at h
        exact h ▸ .flat hr rfl hrec rfl
      · have he : .nestedRelation = e := by simpa [hr, hinside] using h
        exact he ▸ .nested hr rfl
  · rintro (⟨hr, rfl⟩ | ⟨hr, rfl, hrec, rfl⟩)
    · simp [hr]
    · simp [hr, hrec, Relation.isHierarchical]

end Grouping

/-! ## Nodes -/

namespace Query

/-- A node at a depth keeps its rule. -/
inductive Keeps (limit depth : Nat) (inside : Bool) : Query → Prop
  | field {c : FieldQuery} {t : FieldType} : depth ≤ limit → c.HasType inside t → c.Fits t →
      Keeps limit depth inside (.field c)
  | group {how : Grouping} {parts : List Query} : depth ≤ limit → how.Keeps inside →
      Keeps limit depth inside (.group how parts)

/-- The errors of a node that breaks its rule. Its depth comes first. -/
inductive Fault (limit depth : Nat) (inside : Bool) : Query → ValidationError → Prop
  | deep {q : Query} : limit < depth → Fault limit depth inside q (.tooDeep limit)
  | field {c : FieldQuery} {e : ValidationError} : depth ≤ limit → c.Fault inside e →
      Fault limit depth inside (.field c) e
  | group {how : Grouping} {parts : List Query} {e : ValidationError} : depth ≤ limit →
      how.Fault inside e → Fault limit depth inside (.group how parts) e

/-- The node at the end of a path, which takes a part of each group by its place. -/
def node? : Query → List Nat → Option Query
  | q, [] => some q
  | .field _, _ :: _ => none
  | .group _ parts, i :: path => parts[i]?.bind (·.node? path)

/-- The node is a group that turns to related things. -/
def isRelation : Query → Bool
  | .field _ => false
  | .group how _ => how.relation.isSome

/-- A relation stands above the end of a path, or `related` says so of the whole query. -/
def isInside (q : Query) (related : Bool) (path : List Nat) : Bool :=
  related || (List.range path.length).any fun n => (q.node? (path.take n)).any isRelation

/-- The node at the end of a path keeps its rule, if there is one. The depth counts from the root. -/
def KeepsAt (limit depth : Nat) (related : Bool) (q : Query) (path : List Nat) : Prop :=
  ∀ node, q.node? path = some node →
    node.Keeps limit (depth + path.length) (q.isInside related path)

/-- There is a node at the end of a path, and it breaks its rule. -/
def FaultsAt (limit depth : Nat) (related : Bool) (q : Query) (path : List Nat)
    (e : ValidationError) : Prop :=
  ∃ node, q.node? path = some node ∧
    node.Fault limit (depth + path.length) (q.isInside related path) e

/-- Every node keeps its rule. -/
def KeepsAll (limit depth : Nat) (related : Bool) (q : Query) : Prop :=
  ∀ path, q.KeepsAt limit depth related path

/-- The error of the first node that breaks its rule. Paths are in the order of their places, so that
a group comes before its parts. -/
def FirstFault (limit depth : Nat) (related : Bool) (q : Query) (e : ValidationError) : Prop :=
  ∃ path, q.FaultsAt limit depth related path e ∧
    ∀ earlier < path, q.KeepsAt limit depth related earlier

variable {limit depth : Nat} {related : Bool} {c : FieldQuery} {how : Grouping} {parts : List Query}
  {p q : Query} {i : Nat} {path : List Nat} {e : ValidationError}

/-! ## Nodes of a part -/

theorem node?_group (hp : parts[i]? = some p) :
    (group how parts).node? (i :: path) = p.node? path := by
  simp [node?, hp]

/-- What stands above a node of a part is the group and what stands above it in the part. -/
theorem isInside_group (hp : parts[i]? = some p) :
    (group how parts).isInside related (i :: path) =
      p.isInside (related || how.relation.isSome) path := by
  simp only [isInside, List.length_cons, List.range_succ_eq_map, List.any_cons, List.any_map]
  simp [node?, hp, isRelation, Function.comp_def, Bool.or_assoc]

theorem depth_cons : depth + (i :: path).length = depth + 1 + path.length := by
  rw [List.length_cons, Nat.add_comm path.length, Nat.add_assoc]

theorem exists_of_node?_cons {node : Query}
    (h : (group how parts).node? (i :: path) = some node) :
    ∃ p, parts[i]? = some p ∧ p.node? path = some node := by
  simpa [node?, Option.bind_eq_some_iff] using h

theorem keepsAt_nil : q.KeepsAt limit depth related [] ↔ q.Keeps limit depth related := by
  simp [KeepsAt, node?, isInside]

theorem keepsAt_field_cons : (field c).KeepsAt limit depth related (i :: path) := by
  simp [KeepsAt, node?]

theorem keepsAt_group_cons : (group how parts).KeepsAt limit depth related (i :: path) ↔
    ∀ p, parts[i]? = some p →
      p.KeepsAt limit (depth + 1) (related || how.relation.isSome) path := by
  constructor
  · intro h p hp node hnode
    have hkeeps := h node (by rw [node?_group hp, hnode])
    rwa [isInside_group hp, depth_cons] at hkeeps
  · intro h node hnode
    obtain ⟨p, hp, hnode⟩ := exists_of_node?_cons hnode
    rw [isInside_group hp, depth_cons]
    exact h p hp node hnode

theorem faultsAt_nil : q.FaultsAt limit depth related [] e ↔ q.Fault limit depth related e := by
  simp [FaultsAt, node?, isInside]

theorem not_faultsAt_field_cons : ¬(field c).FaultsAt limit depth related (i :: path) e := by
  simp [FaultsAt, node?]

theorem faultsAt_group_cons : (group how parts).FaultsAt limit depth related (i :: path) e ↔
    ∃ p, parts[i]? = some p ∧
      p.FaultsAt limit (depth + 1) (related || how.relation.isSome) path e := by
  constructor
  · rintro ⟨node, hnode, hfault⟩
    obtain ⟨p, hp, hnode⟩ := exists_of_node?_cons hnode
    rw [isInside_group hp, depth_cons] at hfault
    exact ⟨p, hp, node, hnode, hfault⟩
  · rintro ⟨p, hp, node, hnode, hfault⟩
    refine ⟨node, by rw [node?_group hp, hnode], ?_⟩
    rwa [isInside_group hp, depth_cons]

/-! ## All nodes -/

theorem keepsAll_field : (field c).KeepsAll limit depth related ↔
    (field c).Keeps limit depth related := by
  constructor
  · exact fun h => keepsAt_nil.1 (h [])
  · rintro h (_ | ⟨i, path⟩)
    · exact keepsAt_nil.2 h
    · exact keepsAt_field_cons

theorem keepsAll_group : (group how parts).KeepsAll limit depth related ↔
    (group how parts).Keeps limit depth related ∧
      ∀ p ∈ parts, p.KeepsAll limit (depth + 1) (related || how.relation.isSome) := by
  constructor
  · intro h
    refine ⟨keepsAt_nil.1 (h []), fun p hp path => ?_⟩
    obtain ⟨i, hi⟩ := List.mem_iff_getElem?.1 hp
    exact keepsAt_group_cons.1 (h (i :: path)) p hi
  · rintro ⟨hself, hparts⟩ (_ | ⟨i, path⟩)
    · exact keepsAt_nil.2 hself
    · exact keepsAt_group_cons.2 fun p hi => hparts p (List.mem_of_getElem? hi) path

theorem firstFault_field : (field c).FirstFault limit depth related e ↔
    (field c).Fault limit depth related e := by
  constructor
  · rintro ⟨_ | ⟨i, path⟩, hfault, -⟩
    · exact faultsAt_nil.1 hfault
    · exact absurd hfault not_faultsAt_field_cons
  · exact fun h => ⟨[], faultsAt_nil.2 h, fun _ hlt => absurd hlt (List.not_lt_nil _)⟩

/-- The first fault of a group is its own, or else that of the first part that has one. -/
theorem firstFault_group : (group how parts).FirstFault limit depth related e ↔
    (group how parts).Fault limit depth related e ∨
      (group how parts).Keeps limit depth related ∧ ∃ (i : Nat) (p : Query), parts[i]? = some p ∧
        FirstFault limit (depth + 1) (related || how.relation.isSome) p e ∧
        ∀ j < i, ∀ p', parts[j]? = some p' →
          KeepsAll limit (depth + 1) (related || how.relation.isSome) p' := by
  constructor
  · rintro ⟨_ | ⟨i, path⟩, hfault, hearlier⟩
    · exact .inl (faultsAt_nil.1 hfault)
    · obtain ⟨p, hi, hp⟩ := faultsAt_group_cons.1 hfault
      refine .inr ⟨keepsAt_nil.1 (hearlier [] (List.nil_lt_cons i path)), i, p, hi,
        ⟨path, hp, fun earlier hlt => ?_⟩, fun j hj p' hp' earlier => ?_⟩
      · have hsame := hearlier (i :: earlier) (List.cons_lt_cons_iff.2 (.inr ⟨rfl, hlt⟩))
        exact keepsAt_group_cons.1 hsame p hi
      · have hbefore := hearlier (j :: earlier) (List.cons_lt_cons_iff.2 (.inl hj))
        exact keepsAt_group_cons.1 hbefore p' hp'
  · rintro (h | ⟨hself, i, p, hi, ⟨path, hfault, hearlier⟩, hbefore⟩)
    · exact ⟨[], faultsAt_nil.2 h, fun _ hlt => absurd hlt (List.not_lt_nil _)⟩
    · refine ⟨i :: path, faultsAt_group_cons.2 ⟨p, hi, hfault⟩, ?_⟩
      rintro (_ | ⟨j, earlier⟩) hlt
      · exact keepsAt_nil.2 hself
      · refine keepsAt_group_cons.2 fun p' hj => ?_
        rcases List.cons_lt_cons_iff.1 hlt with hji | ⟨rfl, hbelow⟩
        · exact hbefore j hji p' hj earlier
        · obtain rfl : p = p' := Option.some.inj (hi.symm.trans hj)
          exact hearlier earlier hbelow

/-! ## The check -/

/-- A list of nodes is refused for the first that is. -/
theorem checkParts_eq_error : checkParts limit related depth parts = .error e ↔
    ∃ (i : Nat) (p : Query), parts[i]? = some p ∧ checkNode limit related depth p = .error e ∧
      ∀ j < i, ∀ p', parts[j]? = some p' → checkNode limit related depth p' = .ok () := by
  induction parts with
  | nil => simp [checkParts]
  | cons q qs ih =>
    rw [checkParts, bind_eq_error]
    constructor
    · rintro (h | ⟨⟨⟩, hq, h⟩)
      · exact ⟨0, q, rfl, h, by simp⟩
      · obtain ⟨i, p, hi, hp, hbefore⟩ := ih.1 h
        refine ⟨i + 1, p, hi, hp, fun j hj p' hp' => ?_⟩
        cases j with
        | zero => exact Option.some.inj hp' ▸ hq
        | succ j => exact hbefore j (Nat.lt_of_succ_lt_succ hj) p' hp'
    · rintro ⟨i, p, hi, hp, hbefore⟩
      cases i with
      | zero => exact .inl (Option.some.inj hi ▸ hp)
      | succ i =>
        exact .inr ⟨(), hbefore 0 (Nat.succ_pos i) q rfl, ih.2 ⟨i, p, hi, hp,
          fun j hj p' hp' => hbefore (j + 1) (Nat.succ_lt_succ hj) p' hp'⟩⟩

theorem keeps_field : (field c).Keeps limit depth related ↔
    depth ≤ limit ∧ c.check related = .ok () := by
  rw [FieldQuery.check_eq_ok_iff]
  constructor
  · rintro ⟨hdepth, ht, hfits⟩
    exact ⟨hdepth, _, ht, hfits⟩
  · rintro ⟨hdepth, t, ht, hfits⟩
    exact .field hdepth ht hfits

theorem keeps_group : (group how parts).Keeps limit depth related ↔
    depth ≤ limit ∧ how.check related = .ok () := by
  rw [Grouping.check_eq_ok_iff]
  constructor
  · rintro (_ | ⟨hdepth, hkeeps⟩)
    exact ⟨hdepth, hkeeps⟩
  · rintro ⟨hdepth, hkeeps⟩
    exact .group hdepth hkeeps

theorem fault_field : (field c).Fault limit depth related e ↔
    (limit < depth ∧ e = .tooDeep limit) ∨ (depth ≤ limit ∧ c.check related = .error e) := by
  rw [FieldQuery.check_eq_error]
  constructor
  · rintro (hdeep | ⟨hdepth, hfault⟩)
    · exact .inl ⟨hdeep, rfl⟩
    · exact .inr ⟨hdepth, hfault⟩
  · rintro (⟨hdeep, rfl⟩ | ⟨hdepth, hfault⟩)
    · exact .deep hdeep
    · exact .field hdepth hfault

theorem fault_group : (group how parts).Fault limit depth related e ↔
    (limit < depth ∧ e = .tooDeep limit) ∨ (depth ≤ limit ∧ how.check related = .error e) := by
  rw [Grouping.check_eq_error]
  constructor
  · rintro (hdeep | _ | ⟨hdepth, hfault⟩)
    · exact .inl ⟨hdeep, rfl⟩
    · exact .inr ⟨hdepth, hfault⟩
  · rintro (⟨hdeep, rfl⟩ | ⟨hdepth, hfault⟩)
    · exact .deep hdeep
    · exact .group hdepth hfault

/-- A query is accepted when all its nodes keep their rules. -/
theorem checkNode_eq_ok :
    q.checkNode limit related depth = .ok () ↔ q.KeepsAll limit depth related := by
  induction q generalizing related depth with
  | field c => rw [checkNode_field, keepsAll_field, keeps_field]
  | group how parts ih =>
    rw [checkNode_group, keepsAll_group, keeps_group, and_assoc]
    refine and_congr_right fun _ => and_congr_right fun _ => ?_
    exact forall₂_congr fun p hp => ih p hp

/-- A query is refused for the first node that breaks its rule. -/
theorem checkNode_eq_error :
    q.checkNode limit related depth = .error e ↔ q.FirstFault limit depth related e := by
  induction q generalizing related depth with
  | field c =>
    rw [firstFault_field, fault_field, checkNode]
    by_cases hdepth : limit < depth
    · simp [hdepth, Nat.not_le.2 hdepth, eq_comm (a := e)]
    · simp [hdepth, Nat.not_lt.1 hdepth]
  | group how parts ih =>
    rw [firstFault_group, fault_group, keeps_group, checkNode]
    by_cases hdepth : limit < depth
    · simp [hdepth, Nat.not_le.2 hdepth, eq_comm (a := e)]
    · simp only [hdepth, Nat.not_lt.1 hdepth, if_false, false_and, true_and, false_or,
        bind_eq_error, checkParts_eq_error]
      refine or_congr_right ⟨?_, ?_⟩
      · rintro ⟨⟨⟩, hhow, i, p, hi, hp, hbefore⟩
        exact ⟨hhow, i, p, hi, (ih p (List.mem_of_getElem? hi)).1 hp,
          fun j hj p' hp' => checkNode_eq_ok.1 (hbefore j hj p' hp')⟩
      · rintro ⟨hhow, i, p, hi, hp, hbefore⟩
        exact ⟨(), hhow, i, p, hi, (ih p (List.mem_of_getElem? hi)).2 hp,
          fun j hj p' hp' => checkNode_eq_ok.2 (hbefore j hj p' hp')⟩

/-! ## What the answer depends on -/

mutual

/-- The query without its joins and inversions. -/
def bare : Query → Query
  | .field c => .field { c with invert := false }
  | .group how parts => .group { how with join := .all, invert := false } (bareAll parts)

def bareAll : List Query → List Query
  | [] => []
  | q :: qs => q.bare :: bareAll qs

end

/-- Joins and inversions are not looked at. -/
theorem checkNode_bare :
    q.bare.checkNode limit related depth = q.checkNode limit related depth := by
  have hparts : ∀ (parts : List Query) (related : Bool) (depth : Nat),
      (∀ q ∈ parts, ∀ related depth,
        q.bare.checkNode limit related depth = q.checkNode limit related depth) →
      checkParts limit related depth (bareAll parts) = checkParts limit related depth parts := by
    intro parts related depth heach
    induction parts with
    | nil => rfl
    | cons q qs ih =>
      rw [bareAll, checkParts, checkParts, heach q (by simp), ih fun p hp => heach p (by simp [hp])]
  induction q generalizing related depth with
  | field c => rw [bare, checkNode, checkNode]; rfl
  | group how parts ih =>
    rw [bare, checkNode, checkNode, hparts parts _ _ fun q hq _ _ => ih q hq]
    rfl

/-- A node that is not too deep for a limit is not too deep for a greater one. -/
theorem Keeps.mono {limit' : Nat} (hlimit : limit ≤ limit')
    (h : q.Keeps limit depth related) : q.Keeps limit' depth related := by
  cases h with
  | field hdepth ht hfits => exact .field (hdepth.trans hlimit) ht hfits
  | group hdepth hkeeps => exact .group (hdepth.trans hlimit) hkeeps

/-- The check accepts the well-formed queries and names the first fault of any other. A greater
limit refuses nothing more, and joins and inversions make no difference. -/
theorem check_names_first_fault (q : Query) (related : Bool) (limit : Nat) :
    (q.check related limit = .ok () ↔ q.KeepsAll limit 1 related) ∧
      (∀ e, q.check related limit = .error e ↔ q.FirstFault limit 1 related e) ∧
      (∀ limit', limit ≤ limit' → q.check related limit = .ok () →
        q.check related limit' = .ok ()) ∧
      ∀ q' : Query, q'.bare = q.bare → q'.check related limit = q.check related limit := by
  refine ⟨checkNode_eq_ok, fun e => checkNode_eq_error, fun limit' hlimit h => ?_, fun q' h => ?_⟩
  · exact checkNode_eq_ok.2 fun path node hnode =>
      (checkNode_eq_ok.1 h path node hnode).mono hlimit
  · rw [check, check, ← checkNode_bare, h, checkNode_bare]

/-- A query with three faults: an album inside an album, a pattern on a number below it, and a field
that there is not beside them. -/
def faulty : Query :=
  .group ⟨.any, false, some .album, false⟩
    [.group ⟨.all, false, some .album, true⟩ [.field ⟨"rating", none, .matches, none, false⟩],
      .field ⟨"mood", none, .equal, some .null, true⟩]

example : faulty.check false 32 = .error .nestedRelation ∧
    faulty.check false 1 = .error (.tooDeep 1) := ⟨rfl, rfl⟩

end Query

end MediaCatalog
