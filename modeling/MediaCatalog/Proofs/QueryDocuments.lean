import MediaCatalog.Query.Wire
import MediaCatalog.Proofs.JsonTree
import MediaCatalog.Proofs.Tree
/-!
# Queries and their documents

What a document describes nests no deeper than the document, and its values are sorted. The document
of such a query describes the query.
-/

namespace MediaCatalog

/-! ## Names -/

theorem Join.ofName?_name {j : Join} : Join.ofName? j.name = some j := by
  cases j <;> rfl

theorem Modifier.ofName?_name {m : Modifier} : Modifier.ofName? m.name = some m := by
  cases m <;> rfl

theorem Operator.ofName?_name {op : Operator} : Operator.ofName? op.name = some op := by
  cases op <;> rfl

theorem Relation.ofName?_name {r : Relation} : Relation.ofName? r.name = some r := by
  cases r <;> rfl

theorem NodeKind.ofName?_name {kind : NodeKind} : NodeKind.ofName? kind.name = some kind := by
  cases kind <;> rfl

/-! ## Members -/

namespace Json

variable {key : String} {v w : Json} {members others : List (String × Json)}

theorem mem_of_named (h : named key members = .once v) : (key, v) ∈ members := by
  induction members with
  | nil => cases h
  | cons m members ih =>
    obtain ⟨k, w⟩ := m
    rw [named_cons] at h
    split at h
    next hk =>
      split at h
      · cases h
        rw [hk]
        exact List.mem_cons_self
      · cases h
    next => exact List.mem_cons_of_mem _ (ih h)

theorem named_absent (h : ∀ m ∈ members, m.1 ≠ key) : named key members = .absent := by
  induction members with
  | nil => rfl
  | cons m members ih =>
    rw [named_cons, if_neg (h m (by simp))]
    exact ih fun m' hm => h m' (by simp [hm])

theorem named_eq_absent : named key members = .absent ↔ ∀ m ∈ members, m.1 ≠ key := by
  refine ⟨fun h => ?_, named_absent⟩
  induction members with
  | nil => exact fun m hm => absurd hm List.not_mem_nil
  | cons m members ih =>
    obtain ⟨k, v⟩ := m
    rw [named_cons] at h
    split at h
    next => split at h <;> cases h
    next hk =>
      intro m hm
      rcases List.mem_cons.1 hm with rfl | hm
      · exact hk
      · exact ih h m hm

theorem named_cons_of_ne {k : String} (h : k ≠ key) : named key ((k, v) :: members) = named key members := by
  rw [named_cons, if_neg h]

theorem named_cons_self (h : named key members = .absent) : named key ((key, v) :: members) = .once v := by
  rw [named_cons, if_pos rfl, h]

theorem named_cons_eq_once :
    named key ((key, v) :: members) = .once w ↔ v = w ∧ named key members = .absent := by
  rw [named_cons, if_pos rfl]
  cases named key members <;> simp

/-- What a key names does not depend on the order of the members. -/
theorem named_perm (h : members.Perm others) : named key members = named key others := by
  induction h with
  | nil => rfl
  | cons m _ ih => rw [named_cons, named_cons, ih]
  | swap a b members =>
    obtain ⟨k, v⟩ := a
    obtain ⟨l, w⟩ := b
    simp only [named_cons]
    by_cases hk : k = key
    · by_cases hl : l = key
      · cases named key members <;> simp [hk, hl]
      · simp [hk, hl]
    · simp [hk]
  | trans _ _ ih₁ ih₂ => exact ih₁.trans ih₂

theorem Named.optional_once {α : Type} {read : Json → Option α} (h : v ≠ .null) :
    (Named.once v).optional read = (read v).map some := by
  cases v
  case null => exact absurd rfl h
  all_goals rfl

end Json

/-! ## What a document describes -/

/-- The condition has a value that nests no deeper than `n`, sorted, or none. -/
def FieldQuery.Nests (n : Nat) (c : FieldQuery) : Prop :=
  ∀ v ∈ c.value, v.Nests n ∧ v.sorted = v ∧ v ≠ .null

/-- The query is one that a document can describe that nests no deeper than `n`. -/
inductive Query.Nests : Nat → Query → Prop
  | field {n : Nat} {c : FieldQuery} : c.Nests n → Nests (n + 1) (.field c)
  | group {n : Nat} {how : Grouping} {parts : List Query} : (∀ q ∈ parts, Nests n q) →
      Nests (n + 2) (.group how parts)

variable {n : Nat} {j : Json} {items : List Json} {members : List (String × Json)}
  {c : FieldQuery} {how : Grouping} {q : Query} {parts : List Query}

theorem FieldQuery.nests_of_ofMembers? (h : FieldQuery.ofMembers? members = some c)
    (hmembers : ∀ m ∈ members, m.2.Nests n) : c.Nests n := by
  simp only [FieldQuery.ofMembers?, Option.bind_eq_bind, Option.bind_eq_some_iff] at h
  obtain ⟨_, -, _, -, _, -, value, hvalue, _, -, h⟩ := h
  cases h
  intro v hv
  cases hnamed : Json.named "value" members with
  | absent =>
    rw [hnamed] at hvalue
    cases hvalue
    cases hv
  | repeated =>
    rw [hnamed] at hvalue
    cases hvalue
  | once w =>
    rw [hnamed] at hvalue
    by_cases hnull : w = .null
    · rw [hnull] at hvalue
      cases hvalue
      cases hv
    · rw [Json.Named.optional_once hnull] at hvalue
      cases hvalue
      cases hv
      exact ⟨(hmembers _ (Json.mem_of_named hnamed)).sorted, Json.sorted_sorted,
        Json.sorted_ne_null hnull⟩

namespace Query

theorem exists_of_nodesOf? (h : nodesOf? items = some parts) :
    ∀ q ∈ parts, ∃ j ∈ items, ofNode? j = some q := by
  induction items generalizing parts with
  | nil =>
    cases h
    exact fun q hq => absurd hq List.not_mem_nil
  | cons j items ih =>
    rw [nodesOf?_cons] at h
    split at h
    next q qs hq hqs =>
      cases h
      intro p hp
      rcases List.mem_cons.1 hp with rfl | hp
      · exact ⟨j, List.mem_cons_self, hq⟩
      · obtain ⟨i, hi, hp⟩ := ih hqs p hp
        exact ⟨i, List.mem_cons_of_mem j hi, hp⟩
    next => cases h

theorem partsOfElements_eq : partsOfElements items = items.map partsOf? := by
  induction items with
  | nil => rfl
  | cons j items ih => rw [partsOfElements_cons, ih, List.map_cons]

theorem exists_of_partsOfMembers? (h : partsOfMembers? members = some parts) :
    ∃ m ∈ members, partsOf? m.2 = some parts := by
  induction members with
  | nil => cases h
  | cons m members ih =>
    obtain ⟨k, v⟩ := m
    rw [partsOfMembers?_cons] at h
    split at h
    · split at h
      · exact ⟨_, List.mem_cons_self, h⟩
      · cases h
    · obtain ⟨m', hm, hparts⟩ := ih h
      exact ⟨m', List.mem_cons_of_mem _ hm, hparts⟩

/-- The parts that are read nest less deep than their array. -/
def PartsNest (n : Nat) (parts : List Query) : Prop :=
  ∃ k, n = k + 1 ∧ ∀ q ∈ parts, q.Nests k

/-- A node nests one deeper than what it is built from. -/
theorem nests_of_ofMembers? {kind : NodeKind} {found : Option (List Query)}
    (h : ofMembers? kind members found = some q) (hmembers : ∀ m ∈ members, m.2.Nests n)
    (hparts : ∀ parts, found = some parts → PartsNest n parts) : q.Nests (n + 1) := by
  cases kind with
  | field =>
    obtain ⟨c, hc, rfl⟩ := Option.map_eq_some_iff.1 h
    exact .field (FieldQuery.nests_of_ofMembers? hc hmembers)
  | compound =>
    simp only [ofMembers?, Option.bind_eq_bind, Option.bind_eq_some_iff] at h
    obtain ⟨how, -, parts, hfound, h⟩ := h
    cases h
    obtain ⟨k, rfl, hnests⟩ := hparts parts hfound
    exact .group hnests

/-- A node in an array is its tag and the parts in an element. -/
theorem nests_of_array {tag : Json} {items : List Json} (hq : ofNode? (.array (tag :: items)) = some q)
    (hitems : ∀ i ∈ items, i.Nests n)
    (hparts : ∀ i ∈ items, ∀ parts, partsOf? i = some parts → PartsNest n parts) : q.Nests (n + 1) := by
  simp only [ofNode?_elements, Option.bind_eq_some_iff, ofElements?] at hq
  obtain ⟨kind, -, hq⟩ := hq
  split at hq
  · cases hq
  refine nests_of_ofMembers? hq (fun m hm => hitems m.2 (List.of_mem_zip hm).2) fun parts hfound => ?_
  rw [partsOfElements_eq, List.getElem?_map] at hfound
  cases hitem : items[2]? with
  | none =>
    rw [hitem] at hfound
    cases hfound
  | some item =>
    rw [hitem] at hfound
    exact hparts item (List.mem_of_getElem? hitem) parts hfound

/-- The parts of a node in an object are under one of its keys. -/
theorem nests_of_object (hq : ofNode? (.object members) = some q) (hmembers : ∀ m ∈ members, m.2.Nests n)
    (hparts : ∀ m ∈ members, ∀ parts, partsOf? m.2 = some parts → PartsNest n parts) :
    q.Nests (n + 1) := by
  rw [ofNode?_members] at hq
  split at hq
  · simp only [Option.bind_eq_some_iff] at hq
    obtain ⟨kind, -, hq⟩ := hq
    refine nests_of_ofMembers? hq hmembers fun parts hfound => ?_
    obtain ⟨m, hm, hmparts⟩ := exists_of_partsOfMembers? hfound
    exact hparts m hm parts hmparts
  · cases hq

/-- What a document describes nests no deeper than the document. The parts of a node are those of an
array below it, so both are shown at once. -/
theorem nests_and_partsNest :
    (∀ n q, j.Nests n → ofNode? j = some q → q.Nests n) ∧
      ∀ n parts, j.Nests n → partsOf? j = some parts → PartsNest n parts := by
  induction j with
  | null => exact ⟨nofun, nofun⟩
  | bool b => exact ⟨nofun, nofun⟩
  | number k => exact ⟨nofun, nofun⟩
  | string s => exact ⟨nofun, nofun⟩
  -- An array is the tag of a node and its elements, or the parts of a node.
  | array items ih =>
    constructor
    · intro n q hn hq
      cases items with
      | nil => cases hq
      | cons tag items =>
        rcases hn with _ | _ | _ | _ | hitems
        obtain ⟨-, hitems⟩ := List.forall_mem_cons.1 hitems
        obtain ⟨-, ih⟩ := List.forall_mem_cons.1 ih
        exact nests_of_array hq hitems fun i hi parts => (ih i hi).2 _ parts (hitems i hi)
    · intro n parts hn hparts
      rcases hn with _ | _ | _ | _ | hitems
      refine ⟨_, rfl, fun q hq => ?_⟩
      obtain ⟨i, hi, hiq⟩ := exists_of_nodesOf? hparts q hq
      exact (ih i hi).1 _ _ (hitems i hi) hiq
  | object members ih =>
    refine ⟨fun n q hn hq => ?_, nofun⟩
    rcases hn with _ | _ | _ | _ | _ | hmembers
    exact nests_of_object hq hmembers fun m hm parts => (ih m hm).2 _ parts (hmembers m hm)

theorem nests_of_ofNode? (hj : j.Nests n) (h : ofNode? j = some q) : q.Nests n :=
  nests_and_partsNest.1 n q hj h

end Query

/-! ## The document of a query -/

variable {documents : List Json}

theorem FieldQuery.ofMembers?_members (h : c.Nests n) : FieldQuery.ofMembers? c.members = some c := by
  obtain ⟨field, modifier, op, value, invert⟩ := c
  have hmodifier : (Json.named "modifier"
      (FieldQuery.members ⟨field, modifier, op, value, invert⟩)).optional
        (Json.choice? Modifier.ofName?) = some modifier := by
    cases value <;> cases modifier <;>
    simp [members, Json.named, Json.Named.optional, Json.choice?, Modifier.ofName?_name]
  have hvalue : (Json.named "value"
      (FieldQuery.members ⟨field, modifier, op, value, invert⟩)).optional (some ·.sorted) =
        some value := by
    cases value with
    | none => rfl
    | some v =>
      obtain ⟨-, hsorted, hnull⟩ := h v rfl
      have hnamed : Json.named "value"
          (FieldQuery.members ⟨field, modifier, op, some v, invert⟩) = .once v := rfl
      rw [hnamed, Json.Named.optional_once hnull, hsorted]
      rfl
  rw [FieldQuery.ofMembers?, hmodifier, hvalue]
  cases value <;>
  simp [members, Json.named, Json.Named.required, Json.Named.orElse, Json.choice?, Json.bool?,
    Json.text?, Operator.ofName?_name]

theorem Grouping.ofMembers?_members : Grouping.ofMembers? (how.members documents) = some how := by
  obtain ⟨join, invert, relation, recursive⟩ := how
  cases relation <;> cases recursive <;>
  simp [Grouping.ofMembers?, members, Json.named, Json.Named.required, Json.Named.orElse,
    Json.Named.optional, Json.choice?, Json.bool?, Join.ofName?_name, Relation.ofName?_name]

namespace Query

theorem documents_eq : Query.documents parts = parts.map toJson := by
  induction parts with
  | nil => rfl
  | cons q parts ih => rw [Query.documents, ih]; rfl

/-- The kind of a query's outermost node. -/
def kind : Query → NodeKind
  | .field _ => .field
  | .group .. => .compound

theorem exists_members_eq : ∃ others, q.members = ("type", .string q.kind.name) :: others ∧
    ∀ m ∈ others, m.1 ≠ "type" ∧ m.1 ≠ "catalog" := by
  cases q with
  | field c =>
    obtain ⟨field, modifier, op, value, invert⟩ := c
    refine ⟨_, rfl, ?_⟩
    cases value <;> simp
  | group how parts =>
    obtain ⟨join, invert, relation, recursive⟩ := how
    refine ⟨_, rfl, ?_⟩
    cases relation <;> cases recursive <;> simp

theorem named_type_members : Json.named "type" q.members = .once (.string q.kind.name) := by
  obtain ⟨others, hmembers, hothers⟩ := @exists_members_eq q
  rw [hmembers, Json.named, if_pos rfl, Json.named_absent fun m hm => (hothers m hm).1]

theorem partsOfMembers?_members : partsOfMembers? (how.members documents) = nodesOf? documents := by
  obtain ⟨join, invert, relation, recursive⟩ := how
  cases relation <;> cases recursive <;> simp [Grouping.members, partsOfMembers?_cons, Json.named, partsOf?]

theorem nodesOf?_map (h : ∀ q ∈ parts, ofNode? q.toJson = some q) :
    nodesOf? (parts.map toJson) = some parts := by
  induction parts with
  | nil => rfl
  | cons q parts ih =>
    rw [List.map_cons, nodesOf?_cons, h q (by simp), ih fun p hp => h p (by simp [hp])]

/-- The document of a query describes the query. -/
theorem ofNode?_toJson (h : q.Nests n) : ofNode? q.toJson = some q := by
  induction h with
  | @field n c hc =>
    rw [toJson, ofNode?_members, named_type_members]
    simp [kind, NodeKind.ofJson?, NodeKind.ofName?_name, ofMembers?, members,
      FieldQuery.ofMembers?_members hc]
  | @group n how parts _ ih =>
    have hparts : nodesOf? (documents parts) = some parts := by
      rw [documents_eq]
      exact nodesOf?_map ih
    rw [toJson, ofNode?_members, named_type_members]
    simp [kind, NodeKind.ofJson?, NodeKind.ofName?_name, ofMembers?, members,
      Grouping.ofMembers?_members, partsOfMembers?_members, hparts]

end Query

theorem FieldQuery.nests_of_mem_members {m : String × Json} (h : c.Nests n) (hm : m ∈ c.members) :
    m.2.Nests n := by
  obtain ⟨field, modifier, op, value, invert⟩ := c
  simp only [FieldQuery.members, List.mem_append, List.mem_cons, List.not_mem_nil, or_false] at hm
  rcases hm with (hm | hm) | rfl
  · rcases hm with rfl | rfl | rfl | rfl
    · exact .string
    · exact .string
    · cases modifier
      · exact .null
      · exact .string
    · exact .string
  · cases value with
    | none => cases hm
    | some v =>
      obtain rfl := List.mem_singleton.1 hm
      exact (h v rfl).1
  · exact .bool

theorem Grouping.nests_of_mem_members {m : String × Json} (h : (Json.array documents).Nests n)
    (hm : m ∈ how.members documents) : m.2.Nests n := by
  obtain ⟨join, invert, relation, recursive⟩ := how
  simp only [Grouping.members, List.mem_append, List.mem_cons, List.not_mem_nil, or_false] at hm
  rcases hm with (hm | hm) | hm
  · rcases hm with rfl | rfl | rfl | rfl
    · exact .string
    · exact .string
    · exact .bool
    · exact h
  · cases relation with
    | none => cases hm
    | some r =>
      obtain rfl := List.mem_singleton.1 hm
      exact .string
  · cases recursive with
    | false => cases hm
    | true =>
      obtain rfl := List.mem_singleton.1 hm
      exact .bool

/-- The document of a query nests no deeper than the document that it was read from. -/
theorem Query.Nests.toJson (h : q.Nests n) : q.toJson.Nests n := by
  induction h with
  | field hc => exact .object fun m hm => FieldQuery.nests_of_mem_members hc hm
  | @group n how parts _ ih =>
    have hparts : (Json.array (Query.documents parts)).Nests (n + 1) := by
      rw [Query.documents_eq]
      refine .array fun j hj => ?_
      obtain ⟨q, hq, rfl⟩ := List.mem_map.1 hj
      exact ih q hq
    exact .object fun m hm => Grouping.nests_of_mem_members hparts hm

/-! ## Whole documents -/

namespace Query

theorem nests_of_ofJson? (hj : j.Nests n) (h : ofJson? j = some q) : q.Nests n := by
  unfold ofJson? at h
  split at h
  · split at h
    · exact nests_of_ofNode? hj h
    · cases h
  · exact nests_of_ofNode? hj h
  · cases h

theorem ofJson?_toJson (h : q.Nests n) : ofJson? q.toJson = some q := by
  have hnode := ofNode?_toJson h
  rw [toJson] at hnode ⊢
  simp only [ofJson?, named_type_members, hnode]

end Query

namespace Search

variable {s : Search}

theorem nests_of_ofJson? (hj : j.Nests n) (h : ofJson? j = some s) : s.query.Nests n := by
  cases hj with
  | object hmembers =>
    simp only [ofJson?, Option.bind_eq_bind, Option.bind_eq_some_iff] at h
    obtain ⟨catalog, -, q, hq, h⟩ := h
    cases h
    exact Query.nests_of_ofNode? (.object fun m hm => hmembers m (List.mem_of_mem_filter hm)) hq
  | _ => cases h

/-- No key of a query is the key of the catalog. -/
theorem ne_catalog_of_mem_members : ∀ m ∈ q.members, m.1 ≠ "catalog" := by
  obtain ⟨others, hmembers, hothers⟩ := @Query.exists_members_eq q
  rw [hmembers]
  intro m hm
  rcases List.mem_cons.1 hm with rfl | hm
  · simp
  · exact (hothers m hm).2

theorem ofJson?_toJson (h : s.query.Nests n) : ofJson? s.toJson = some s := by
  have hnode := Query.ofNode?_toJson h
  rw [Query.toJson] at hnode
  have hfilter : (("catalog", Json.string s.catalog) :: s.query.members).filter (·.1 ≠ "catalog") =
      s.query.members := by
    rw [List.filter_cons_of_neg (by simp), List.filter_eq_self]
    exact fun m hm => decide_eq_true (ne_catalog_of_mem_members m hm)
  have habsent : Json.named "catalog" s.query.members = .absent :=
    Json.named_absent ne_catalog_of_mem_members
  simp only [ofJson?, toJson, Json.named, if_true, habsent, hfilter, hnode]
  rfl

end Search

end MediaCatalog
