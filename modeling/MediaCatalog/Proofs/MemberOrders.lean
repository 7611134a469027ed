import MediaCatalog.Proofs.QueryDocuments
/-!
# The order of members

No reader of queries tells documents apart by the order of the members of their objects, as long as no
key is repeated in an object that is put in another order. So it is at any depth: what is read from a
node depends on what is read under its keys, and a structured value is kept sorted.
-/

namespace MediaCatalog

/-! ## Orders of members -/

namespace Json

variable {k k' : String} {v v' : Json} {members others done : List (String × Json)}

theorem insertMember_comm_of_lt (h : k < k') :
    insertMember k v (insertMember k' v' done) = insertMember k' v' (insertMember k v done) := by
  have hne : k' ≠ k := (String.ne_of_lt h).symm
  have hnlt : ¬k' < k := String.lt_asymm h
  induction done with
  | nil => simp only [insertMember, h, hne, hnlt, if_true, if_false]
  | cons m done ih =>
    obtain ⟨a, w⟩ := m
    by_cases hlt : k < a
    · by_cases hlt' : k' < a
      · simp only [insertMember, h, hne, hnlt, hlt, hlt', if_true, if_false]
      · by_cases heq' : k' = a
        · subst heq'
          simp only [insertMember, hne, hnlt, hlt, String.lt_irrefl, if_true, if_false]
        · simp only [insertMember, hne, hnlt, hlt, hlt', heq', if_true, if_false]
    · have hlt' : ¬k' < a := fun h' => hlt (String.lt_trans h h')
      have heq' : k' ≠ a := fun h' => hlt (h' ▸ h)
      by_cases heq : k = a
      · subst heq
        simp only [insertMember, String.lt_irrefl, hne, hnlt, if_true, if_false]
      · simp only [insertMember, hlt, hlt', heq, heq', ih, if_false]

/-- Members with different keys may be put in either order. -/
theorem insertMember_comm (h : k ≠ k') :
    insertMember k v (insertMember k' v' done) = insertMember k' v' (insertMember k v done) := by
  by_cases hlt : k < k'
  · exact insertMember_comm_of_lt hlt
  · by_cases hlt' : k' < k
    · exact (insertMember_comm_of_lt hlt').symm
    · exact absurd (String.le_antisymm (String.not_lt.1 hlt') (String.not_lt.1 hlt)) h

/-- The sorted members do not depend on the order, if no key is repeated. -/
theorem sortedMembers_perm (h : members.Perm others) (hkeys : (members.map (·.1)).Nodup) :
    sortedMembers members done = sortedMembers others done := by
  induction h generalizing done with
  | nil => rfl
  | cons m _ ih => exact ih (List.nodup_cons.1 hkeys).2
  | swap a b members =>
    have hne : b.1 ≠ a.1 := by
      intro heq
      simp [heq] at hkeys
    exact congrArg (sortedMembers members) (insertMember_comm hne).symm
  | trans h₁ _ ih₁ ih₂ => exact (ih₁ hkeys).trans (ih₂ ((h₁.map _).nodup_iff.1 hkeys))

end Json

/-! ## What a node reads -/

variable {kind : NodeKind} {members others : List (String × Json)} {key : String}
  {tag v w j j' : Json} {xs ys : List Json}

/-- The kind that the members of a node name. -/
def NodeKind.named? (members : List (String × Json)) : Option NodeKind :=
  (Json.named "type" members).required NodeKind.ofJson?

namespace Query

/-- The query that the members of a node describe, those of its parts among them. -/
def ofKind? (kind : NodeKind) (members : List (String × Json)) : Option Query :=
  ofMembers? kind members ((Json.named "queries" members).required partsOf?)

theorem partsOfMembers?_eq :
    partsOfMembers? members = (Json.named "queries" members).required partsOf? := by
  induction members with
  | nil => rfl
  | cons m members ih =>
    obtain ⟨k, v⟩ := m
    rw [partsOfMembers?_cons, Json.named, ih]
    split
    · cases Json.named "queries" members <;> rfl
    · rfl

theorem ofNode?_object :
    ofNode? (.object members) = (NodeKind.named? members).bind fun kind => ofKind? kind members := by
  rw [ofNode?_members, NodeKind.named?, partsOfMembers?_eq]
  cases Json.named "type" members <;> rfl

theorem ofJson?_object : ofJson? (.object members) =
    ((Json.named "type" members).required Json.text?).bind fun _ => ofNode? (.object members) := by
  rw [ofJson?]
  cases Json.named "type" members with
  | once tag => cases tag <;> rfl
  | _ => rfl

theorem ofJson?_array :
    ofJson? (.array (tag :: xs)) = tag.text?.bind fun _ => ofNode? (.array (tag :: xs)) := by
  cases tag <;> rfl

/-- The parts of a group in the form of an array are its third element. -/
theorem required_zip_queries : ((partsOfElements xs)[2]?).getD none =
    (Json.named "queries" (NodeKind.compound.keys.zip xs)).required partsOf? := by
  rw [partsOfElements_eq]
  rcases xs with _ | ⟨a, _ | ⟨b, _ | ⟨c, _ | ⟨d, _ | ⟨e, xs⟩⟩⟩⟩⟩ <;>
  simp [NodeKind.keys, Json.named, Json.Named.required]

theorem ofNode?_array : ofNode? (.array (tag :: xs)) = (NodeKind.ofJson? tag).bind fun kind =>
    if kind.keys.length < xs.length then none else ofKind? kind (kind.keys.zip xs) := by
  rw [ofNode?_elements]
  congr 1
  funext kind
  rw [ofElements?, required_zip_queries]
  cases kind <;> rfl

end Query

/-! ## Documents that no reader tells apart -/

namespace Json

/-- Whatever is read from one of the documents is read from the other. -/
structure Alike (j j' : Json) : Prop where
  null : j = .null ↔ j' = .null
  empty : j = .object [] ↔ j' = .object []
  text : j.text? = j'.text?
  bool : j.bool? = j'.bool?
  choice : ∀ {α : Type} (ofName? : String → Option α), j.choice? ofName? = j'.choice? ofName?
  sorted : j.sorted = j'.sorted
  kind : NodeKind.ofJson? j = NodeKind.ofJson? j'
  node : Query.ofNode? j = Query.ofNode? j'
  document : Query.ofJson? j = Query.ofJson? j'
  parts : Query.partsOf? j = Query.partsOf? j'

theorem Alike.refl (j : Json) : Alike j j :=
  ⟨Iff.rfl, Iff.rfl, rfl, rfl, fun _ => rfl, rfl, rfl, rfl, rfl, rfl⟩

/-- What a key names is absent, repeated or alike. -/
inductive Named.Alike : Named → Named → Prop
  | absent : Alike .absent .absent
  | once {v w : Json} : Json.Alike v w → Alike (.once v) (.once w)
  | repeated : Alike .repeated .repeated

namespace Named

variable {α : Type} {a b : Named} {read : Json → Option α} {default : α}

theorem Alike.refl : ∀ a : Named, Alike a a
  | .absent => .absent
  | .once v => .once (.refl v)
  | .repeated => .repeated

theorem Alike.of_eq (h : a = b) : Alike a b := h ▸ .refl a

theorem Alike.required (h : Alike a b) (hread : ∀ v w, Json.Alike v w → read v = read w) :
    a.required read = b.required read := by
  cases h with
  | once hv => exact hread _ _ hv
  | _ => rfl

theorem Alike.orElse (h : Alike a b) (hread : ∀ v w, Json.Alike v w → read v = read w) :
    a.orElse read default = b.orElse read default := by
  cases h with
  | once hv => exact hread _ _ hv
  | _ => rfl

theorem Alike.optional (h : Alike a b) (hread : ∀ v w, Json.Alike v w → read v = read w) :
    a.optional read = b.optional read := by
  cases h with
  | @once v w hv =>
    by_cases hnull : v = .null
    · rw [hnull, hv.null.1 hnull]
    · rw [Named.optional_once hnull, Named.optional_once (mt hv.null.2 hnull), hread _ _ hv]
  | _ => rfl

end Named

/-- The members have the same keys, with values that are alike. -/
abbrev MembersAlike : List (String × Json) → List (String × Json) → Prop :=
  List.Forall₂ fun m m' => m.1 = m'.1 ∧ Alike m.2 m'.2

theorem MembersAlike.named (h : MembersAlike members others) :
    (named key members).Alike (named key others) := by
  induction h with
  | nil => exact .absent
  | @cons m m' members others hm _ ih =>
    obtain ⟨k, v⟩ := m
    obtain ⟨k', v'⟩ := m'
    obtain ⟨rfl, hv⟩ := hm
    rw [Json.named, Json.named]
    generalize Json.named key members = a at ih ⊢
    generalize Json.named key others = b at ih ⊢
    split
    · cases ih with
      | absent => exact .once hv
      | once => exact .repeated
      | repeated => exact .repeated
    · exact ih

theorem MembersAlike.sorted {done : List (String × Json)} (h : MembersAlike members others) :
    sortedMembers members done = sortedMembers others done := by
  induction h generalizing done with
  | nil => rfl
  | @cons m m' members others hm _ ih =>
    obtain ⟨hkey, hv⟩ := hm
    rw [sortedMembers, sortedMembers, hkey, hv.sorted, ih]

theorem MembersAlike.zip {keys : List String} (h : List.Forall₂ Alike xs ys) :
    MembersAlike (keys.zip xs) (keys.zip ys) := by
  induction h generalizing keys with
  | nil => simp
  | cons hx _ ih =>
    cases keys with
    | nil => exact .nil
    | cons key keys => exact .cons ⟨rfl, hx⟩ ih

end Json

/-- A node reads the same from members that are alike under each of its keys. -/
theorem Query.ofKind?_alike
    (h : ∀ key ∈ kind.keys, (Json.named key members).Alike (Json.named key others)) :
    ofKind? kind members = ofKind? kind others := by
  have hchoice {α : Type} (ofName? : String → Option α) (v w : Json) (h : v.Alike w) :
      v.choice? ofName? = w.choice? ofName? := h.choice ofName?
  have hvalue (v w : Json) (h : v.Alike w) : some v.sorted = some w.sorted := by rw [h.sorted]
  cases kind with
  | field =>
    have hfield := (h "field" (by decide)).required fun _ _ h => h.text
    have hmodifier := (h "modifier" (by decide)).optional (hchoice Modifier.ofName?)
    have hoperator := (h "operator" (by decide)).required (hchoice Operator.ofName?)
    have hvalue := (h "value" (by decide)).optional hvalue
    have hinvert : (Json.named "invert" members).orElse Json.bool? false = _ :=
      (h "invert" (by decide)).orElse fun _ _ h => h.bool
    simp only [ofKind?, ofMembers?, FieldQuery.ofMembers?, hfield, hmodifier, hoperator, hvalue, hinvert]
  | compound =>
    have hjoin := (h "join" (by decide)).required (hchoice Join.ofName?)
    have hinvert : (Json.named "invert" members).orElse Json.bool? false = _ :=
      (h "invert" (by decide)).orElse fun _ _ h => h.bool
    have hqueries := (h "queries" (by decide)).required fun _ _ h => h.parts
    have hrelation := (h "relation" (by decide)).optional (hchoice Relation.ofName?)
    have hrecursive : (Json.named "recursive" members).orElse Json.bool? false = _ :=
      (h "recursive" (by decide)).orElse fun _ _ h => h.bool
    simp only [ofKind?, ofMembers?, Grouping.ofMembers?, hjoin, hinvert, hqueries, hrelation, hrecursive]

namespace Json

/-- Objects are alike if their members are alike under each key and are sorted alike. -/
theorem Alike.object (hnamed : ∀ key, (named key members).Alike (named key others))
    (hempty : members = [] ↔ others = [])
    (hchoice : ∀ {α : Type} (ofName? : String → Option α),
      (Json.object members).choice? ofName? = (Json.object others).choice? ofName?)
    (hsorted : sortedMembers members [] = sortedMembers others []) :
    Alike (.object members) (.object others) := by
  have hkind : NodeKind.named? members = NodeKind.named? others :=
    (hnamed "type").required fun _ _ h => h.kind
  have hnode : Query.ofNode? (.object members) = Query.ofNode? (.object others) := by
    rw [Query.ofNode?_object, Query.ofNode?_object, hkind]
    congr 1
    funext kind
    exact Query.ofKind?_alike fun key _ => hnamed key
  have htext : (named "type" members).required text? = (named "type" others).required text? :=
    (hnamed "type").required fun _ _ h => h.text
  have hdocument : Query.ofJson? (.object members) = Query.ofJson? (.object others) := by
    rw [Query.ofJson?_object, Query.ofJson?_object, htext, hnode]
  exact ⟨by simp, by simpa using hempty, rfl, rfl, hchoice, congrArg Json.object hsorted, rfl, hnode,
    hdocument, rfl⟩

theorem Alike.array (h : List.Forall₂ Alike xs ys) : Alike (.array xs) (.array ys) := by
  have hnode : Query.ofNode? (.array xs) = Query.ofNode? (.array ys) := by
    cases h with
    | nil => rfl
    | cons htag h =>
      rw [Query.ofNode?_array, Query.ofNode?_array, htag.kind, h.length_eq]
      congr 1
      funext kind
      rw [Query.ofKind?_alike fun key _ => (MembersAlike.zip h).named]
  have hdocument : Query.ofJson? (.array xs) = Query.ofJson? (.array ys) := by
    cases h with
    | nil => rfl
    | cons htag h => rw [Query.ofJson?_array, Query.ofJson?_array, htag.text, hnode]
  have hsorted : sortedItems xs = sortedItems ys := by
    clear hnode hdocument
    induction h with
    | nil => rfl
    | cons hx _ ih => rw [sortedItems, sortedItems, hx.sorted, ih]
  have hparts : Query.nodesOf? xs = Query.nodesOf? ys := by
    clear hnode hdocument hsorted
    induction h with
    | nil => rfl
    | cons hx _ ih => rw [Query.nodesOf?_cons, Query.nodesOf?_cons, hx.node, ih]
  exact ⟨by simp, by simp, rfl, rfl, fun _ => rfl, congrArg Json.array hsorted, rfl, hnode, hdocument,
    hparts⟩

section

variable {α : Type} {ofName? : String → Option α}

theorem choice?_single (hnull : v ≠ .null) (hempty : v ≠ .object []) :
    choice? ofName? (.object [(key, v)]) = none := by
  cases v with
  | null => exact absurd rfl hnull
  | object members =>
    cases members with
    | nil => exact absurd rfl hempty
    | cons m members => rfl
  | _ => rfl

theorem choice?_several {m m' : String × Json} :
    choice? ofName? (.object (m :: m' :: members)) = none := by
  rw [choice?] <;> simp

theorem MembersAlike.choice (h : MembersAlike members others) :
    choice? ofName? (.object members) = choice? ofName? (.object others) := by
  cases h with
  | nil => rfl
  | @cons m m' _ _ hm h =>
    obtain ⟨k, v⟩ := m
    obtain ⟨k', w⟩ := m'
    obtain ⟨rfl, hv⟩ : k = k' ∧ v.Alike w := hm
    cases h with
    | nil =>
      by_cases hnull : v = .null
      · rw [hnull, hv.null.1 hnull]
      · by_cases hempty : v = .object []
        · rw [hempty, hv.empty.1 hempty]
        · rw [choice?_single hnull hempty, choice?_single (mt hv.null.2 hnull) (mt hv.empty.2 hempty)]
    | cons => rw [choice?_several, choice?_several]

/-- An object of several members is no choice, and one member has only one order. -/
theorem choice?_perm (h : members.Perm others) :
    choice? ofName? (.object members) = choice? ofName? (.object others) := by
  have hlength := h.length_eq
  match members, others, hlength with
  | [], [], _ => rfl
  | [m], [m'], _ => rw [List.singleton_perm_singleton.1 h]
  | _ :: _ :: _, _ :: _ :: _, _ => rw [choice?_several, choice?_several]

end

theorem Alike.of_members (h : MembersAlike members others) : Alike (.object members) (.object others) := by
  refine .object (fun _ => h.named) ?_ (fun _ => h.choice) h.sorted
  cases h <;> simp

theorem Alike.of_perm (hkeys : (members.map (·.1)).Nodup) (h : members.Perm others) :
    Alike (.object members) (.object others) := by
  refine .object (fun _ => .of_eq (named_perm h)) ?_ (fun _ => choice?_perm h) (sortedMembers_perm h hkeys)
  rw [← List.length_eq_zero_iff, ← List.length_eq_zero_iff, h.length_eq]

/-- One object somewhere in a document, in which no key is repeated, has its members in another
order. -/
inductive Reorders : Json → Json → Prop
  | permute {members others : List (String × Json)} : (members.map (·.1)).Nodup →
      members.Perm others → Reorders (.object members) (.object others)
  | item {before after : List Json} {x y : Json} : Reorders x y →
      Reorders (.array (before ++ x :: after)) (.array (before ++ y :: after))
  | member {before after : List (String × Json)} {key : String} {v w : Json} : Reorders v w →
      Reorders (.object (before ++ (key, v) :: after)) (.object (before ++ (key, w) :: after))

/-- No reader tells documents apart by the order of the members of their objects. -/
theorem Reorders.alike (h : Reorders j j') : Alike j j' := by
  induction h with
  | permute hkeys h => exact .of_perm hkeys h
  | item _ ih =>
    have hrest (xs : List Json) : List.Forall₂ Alike xs xs := List.forall₂_same.2 fun x _ => .refl x
    exact .array (List.rel_append (hrest _) (.cons ih (hrest _)))
  | member _ ih =>
    have hrest (ms : List (String × Json)) : MembersAlike ms ms :=
      List.forall₂_same.2 fun m _ => ⟨rfl, .refl m.2⟩
    exact .of_members (List.rel_append (hrest _) (.cons ⟨rfl, ih⟩ (hrest _)))

end Json

end MediaCatalog
