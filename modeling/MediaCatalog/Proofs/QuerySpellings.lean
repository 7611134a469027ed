import MediaCatalog.Proofs.MemberOrders
import MediaCatalog.Proofs.QueryTexts
/-!
# Queries that are spelled differently

A document that describes a query still describes it when its objects have their members in another
order, when its nodes have keys that are not known, when keys that have their default value are left
out or spelled out, and when nodes are written as arrays. A node that repeats a key it knows, or that is
an array with an element too many, is refused wherever it stands.
-/

namespace MediaCatalog

variable {kind : NodeKind} {members others : List (String × Json)} {key : String}
  {tag v w x y j j' : Json} {xs ys : List Json}

namespace NodeKind

/-- The members of a node that are left out when they have these values. -/
def defaults : NodeKind → List (String × Json)
  | .field => [("modifier", .null), ("value", .null), ("invert", .bool false)]
  | .compound => [("invert", .bool false), ("relation", .null), ("recursive", .bool false)]

theorem type_not_mem_keys : "type" ∉ kind.keys := by
  cases kind <;> decide

theorem ne_type_of_mem_keys (h : key ∈ kind.keys) : key ≠ "type" := by
  rintro rfl
  exact type_not_mem_keys h

theorem keys_nodup : kind.keys.Nodup := by
  cases kind <;> decide

theorem mem_keys_of_mem_defaults (h : (key, v) ∈ kind.defaults) : key ∈ kind.keys := by
  cases kind <;>
  · simp only [defaults, List.mem_cons, List.not_mem_nil, Prod.mk.injEq, or_false] at h
    rcases h with ⟨rfl, -⟩ | ⟨rfl, -⟩ | ⟨rfl, -⟩ <;> decide

end NodeKind

namespace Query

/-! ## What does not matter to a node -/

theorem ofKind?_congr (h : ∀ key ∈ kind.keys, Json.named key members = Json.named key others) :
    ofKind? kind members = ofKind? kind others :=
  ofKind?_alike fun key hkey => .of_eq (h key hkey)

/-- A key with its default value may as well be absent. -/
theorem ofKind?_default (hdefault : (key, v) ∈ kind.defaults)
    (habsent : Json.named key members = .absent) :
    ofKind? kind ((key, v) :: members) = ofKind? kind members := by
  cases kind <;>
  · simp only [NodeKind.defaults, List.mem_cons, List.not_mem_nil, Prod.mk.injEq, or_false] at hdefault
    rcases hdefault with ⟨rfl, rfl⟩ | ⟨rfl, rfl⟩ | ⟨rfl, rfl⟩ <;>
    simp [ofKind?, ofMembers?, FieldQuery.ofMembers?, Grouping.ofMembers?, Json.named, habsent,
      Json.Named.optional, Json.Named.orElse, Json.bool?]

/-- A node reads nothing but the parts from its key for them. -/
theorem ofKind?_parts (h : partsOf? v = partsOf? w) :
    ofKind? kind (("queries", v) :: members) = ofKind? kind (("queries", w) :: members) := by
  have hparts : (Json.named "queries" (("queries", v) :: members)).required partsOf? =
      (Json.named "queries" (("queries", w) :: members)).required partsOf? := by
    rw [Json.named, Json.named]
    cases Json.named "queries" members with
    | absent => exact h
    | _ => rfl
  rw [ofKind?, ofKind?, hparts]
  cases kind <;>
  simp [ofMembers?, FieldQuery.ofMembers?, Grouping.ofMembers?, Json.named]

/-! ## Other spellings -/

/-- The documents are spellings of one query. -/
inductive Respells : Json → Json → Prop
  | refl (j : Json) : Respells j j
  | symm {j j' : Json} : Respells j j' → Respells j' j
  | trans {j j' j'' : Json} : Respells j j' → Respells j' j'' → Respells j j''
  /-- An object at any depth has its members in another order. -/
  | reorder {j j' : Json} : Json.Reorders j j' → Respells j j'
  /-- A node has its members in another order, among which keys that it does not know may be
  repeated. -/
  | permute {members others : List (String × Json)} : members.Perm others →
      Respells (.object members) (.object others)
  /-- A node has a key that it does not know, with any value. -/
  | unknown {kind : NodeKind} {members : List (String × Json)} {key : String} {v : Json} :
      NodeKind.named? members = some kind → key ≠ "type" → key ∉ kind.keys →
        Respells (.object members) (.object ((key, v) :: members))
  /-- A node has a key with its default value. -/
  | default {kind : NodeKind} {members : List (String × Json)} {key : String} {v : Json} :
      NodeKind.named? members = some kind → (key, v) ∈ kind.defaults →
        Json.named key members = .absent → Respells (.object members) (.object ((key, v) :: members))
  /-- A node is the array of its kind and the values of its first keys. -/
  | array {kind : NodeKind} {tag : Json} {xs : List Json} : NodeKind.ofJson? tag = some kind →
      xs.length ≤ kind.keys.length →
        Respells (.object (("type", tag) :: kind.keys.zip xs)) (.array (tag :: xs))
  /-- A part of a node has another spelling. -/
  | part {members : List (String × Json)} {before after : List Json} {x y : Json} : Respells x y →
      Respells (.object (("queries", .array (before ++ x :: after)) :: members))
        (.object (("queries", .array (before ++ y :: after)) :: members))

instance : Trans Respells Respells Respells := ⟨.trans⟩

/-- Objects describe the same, as nodes and as whole documents, if they name their kind alike and it
reads the same from them. -/
theorem describes_congr (htype : Json.named "type" members = Json.named "type" others)
    (h : ∀ kind, NodeKind.named? members = some kind → ofKind? kind members = ofKind? kind others) :
    ofNode? (.object members) = ofNode? (.object others) ∧
      ofJson? (.object members) = ofJson? (.object others) := by
  have hnode : ofNode? (.object members) = ofNode? (.object others) := by
    have hkind : NodeKind.named? others = NodeKind.named? members := by
      rw [NodeKind.named?, NodeKind.named?, htype]
    rw [ofNode?_object, ofNode?_object, hkind]
    cases hnamed : NodeKind.named? members with
    | none => rfl
    | some kind => exact h kind hnamed
  exact ⟨hnode, by rw [ofJson?_object, ofJson?_object, htype, hnode]⟩

theorem describes_cons (htype : key ≠ "type") (hkind : NodeKind.named? members = some kind)
    (h : ofKind? kind ((key, v) :: members) = ofKind? kind members) :
    ofNode? (.object members) = ofNode? (.object ((key, v) :: members)) ∧
      ofJson? (.object members) = ofJson? (.object ((key, v) :: members)) := by
  refine describes_congr (Json.named_cons_of_ne htype).symm fun kind' hkind' => ?_
  obtain rfl : kind = kind' := Option.some.inj (hkind.symm.trans hkind')
  exact h.symm

theorem named_zip_keys (h : key ∉ kind.keys) : Json.named key (kind.keys.zip xs) = .absent := by
  refine Json.named_absent fun m hm => ?_
  rintro rfl
  exact h (List.of_mem_zip hm).1

/-- A node as an array describes what the object with its elements under its keys does. -/
theorem describes_array (hkind : NodeKind.ofJson? tag = some kind) (hlength : xs.length ≤ kind.keys.length) :
    ofNode? (.object (("type", tag) :: kind.keys.zip xs)) = ofNode? (.array (tag :: xs)) ∧
      ofJson? (.object (("type", tag) :: kind.keys.zip xs)) = ofJson? (.array (tag :: xs)) := by
  have htype : Json.named "type" (("type", tag) :: kind.keys.zip xs) = .once tag :=
    Json.named_cons_self <| named_zip_keys NodeKind.type_not_mem_keys
  have hreads : ofKind? kind (("type", tag) :: kind.keys.zip xs) = ofKind? kind (kind.keys.zip xs) :=
    ofKind?_congr fun key hkey => Json.named_cons_of_ne (NodeKind.ne_type_of_mem_keys hkey).symm
  have hnode : ofNode? (.object (("type", tag) :: kind.keys.zip xs)) = ofNode? (.array (tag :: xs)) := by
    rw [ofNode?_object, ofNode?_array, NodeKind.named?, htype, Json.Named.required, hkind,
      Option.bind_some, Option.bind_some, hreads, if_neg (Nat.not_lt.2 hlength)]
  exact ⟨hnode, by rw [ofJson?_object, ofJson?_array, htype, hnode, Json.Named.required]⟩

theorem nodesOf?_append {xs ys : List Json} {x y : Json} (h : ofNode? x = ofNode? y) :
    nodesOf? (xs ++ x :: ys) = nodesOf? (xs ++ y :: ys) := by
  induction xs with
  | nil => rw [List.nil_append, List.nil_append, nodesOf?_cons, nodesOf?_cons, h]
  | cons z xs ih => rw [List.cons_append, List.cons_append, nodesOf?_cons, nodesOf?_cons, ih]

/-- What is spelled differently describes the same, as a node and as a whole document. -/
theorem Respells.eq (h : Respells j j') : ofNode? j = ofNode? j' ∧ ofJson? j = ofJson? j' := by
  induction h with
  | refl => exact ⟨rfl, rfl⟩
  | symm _ ih => exact ⟨ih.1.symm, ih.2.symm⟩
  | trans _ _ ih₁ ih₂ => exact ⟨ih₁.1.trans ih₂.1, ih₁.2.trans ih₂.2⟩
  | reorder h => exact ⟨h.alike.node, h.alike.document⟩
  | permute h =>
    exact describes_congr (Json.named_perm h) fun _ _ => ofKind?_congr fun _ _ => Json.named_perm h
  | unknown hkind htype hkey =>
    refine describes_cons htype hkind (ofKind?_congr fun key hkey' => Json.named_cons_of_ne ?_)
    rintro rfl
    exact hkey hkey'
  | default hkind hdefault habsent =>
    have htype := NodeKind.ne_type_of_mem_keys (NodeKind.mem_keys_of_mem_defaults hdefault)
    exact describes_cons htype hkind (ofKind?_default hdefault habsent)
  | array hkind hlength => exact describes_array hkind hlength
  | @part members before after x y _ ih =>
    have htype {v : Json} : Json.named "type" (("queries", v) :: members) = Json.named "type" members :=
      Json.named_cons_of_ne (by decide)
    exact describes_congr (htype.trans htype.symm) fun kind _ => ofKind?_parts (nodesOf?_append ih.1)

theorem zip_append_singleton {keys : List String} (h : keys[xs.length]? = some key) :
    keys.zip (xs ++ [v]) = keys.zip xs ++ [(key, v)] := by
  induction xs generalizing keys with
  | nil =>
    cases keys with
    | nil => cases h
    | cons k keys =>
      cases h
      simp
  | cons x xs ih =>
    cases keys with
    | nil => cases h
    | cons k keys => simpa using ih h

theorem named_zip_next {keys : List String} (hkeys : keys.Nodup) (h : keys[xs.length]? = some key) :
    Json.named key (keys.zip xs) = .absent := by
  induction xs generalizing keys with
  | nil => rw [List.zip_nil_right, Json.named]
  | cons x xs ih =>
    cases keys with
    | nil => cases h
    | cons k keys =>
      obtain ⟨hk, hkeys⟩ := List.nodup_cons.1 hkeys
      have hne : k ≠ key := by
        rintro rfl
        exact hk (List.mem_of_getElem? h)
      rw [List.zip_cons_cons, Json.named_cons_of_ne hne]
      exact ih hkeys h

/-- The next element of an array may as well be left off if it has its default value. -/
theorem Respells.trailing (hkind : NodeKind.ofJson? tag = some kind)
    (hnext : kind.keys[xs.length]? = some key) (hdefault : (key, v) ∈ kind.defaults) :
    Respells (.array (tag :: xs)) (.array (tag :: (xs ++ [v]))) := by
  obtain ⟨hlt, -⟩ := List.getElem?_eq_some_iff.1 hnext
  have htype : key ≠ "type" := NodeKind.ne_type_of_mem_keys (NodeKind.mem_keys_of_mem_defaults hdefault)
  have hnamed : NodeKind.named? (("type", tag) :: kind.keys.zip xs) = some kind := by
    rw [NodeKind.named?, Json.named_cons_self (named_zip_keys NodeKind.type_not_mem_keys)]
    exact hkind
  have habsent : Json.named key (("type", tag) :: kind.keys.zip xs) = .absent := by
    rw [Json.named_cons_of_ne htype.symm, named_zip_next NodeKind.keys_nodup hnext]
  have hlong : (xs ++ [v]).length ≤ kind.keys.length := by
    rw [List.length_append]
    exact hlt
  calc
    Respells (.array (tag :: xs)) (.object (("type", tag) :: kind.keys.zip xs)) :=
      .symm (.array hkind (Nat.le_of_lt hlt))
    Respells _ (.object ((key, v) :: ("type", tag) :: kind.keys.zip xs)) :=
      .default hnamed hdefault habsent
    Respells _ (.object (("type", tag) :: kind.keys.zip (xs ++ [v]))) := by
      rw [zip_append_singleton hnext]
      exact .permute (List.perm_append_singleton _ (("type", tag) :: kind.keys.zip xs)).symm
    Respells _ (.array (tag :: (xs ++ [v]))) := .array hkind hlong

/-! ## Spoilt spellings -/

/-- A document is a node of a kind, and has these members or their values in order. -/
inductive IsNode : Json → NodeKind → List (String × Json) → Prop
  | object {kind : NodeKind} {members : List (String × Json)} : NodeKind.named? members = some kind →
      IsNode (.object members) kind members
  | array {kind : NodeKind} {tag : Json} {xs : List Json} : NodeKind.ofJson? tag = some kind →
      xs.length ≤ kind.keys.length → IsNode (.array (tag :: xs)) kind (kind.keys.zip xs)

/-- A node, or one below it among its parts, repeats a key that it knows or is an array with an element
too many. -/
inductive Spoilt : Json → Prop
  | type {members : List (String × Json)} : Json.named "type" members = .repeated →
      Spoilt (.object members)
  | key {j : Json} {kind : NodeKind} {members : List (String × Json)} {key : String} :
      IsNode j kind members → key ∈ kind.keys → Json.named key members = .repeated → Spoilt j
  | element {kind : NodeKind} {tag : Json} {xs : List Json} : NodeKind.ofJson? tag = some kind →
      kind.keys.length < xs.length → Spoilt (.array (tag :: xs))
  | part {j x : Json} {members : List (String × Json)} {xs : List Json} : IsNode j .compound members →
      Json.named "queries" members = .once (.array xs) → x ∈ xs → Spoilt x → Spoilt j

theorem IsNode.ofNode?_eq (h : IsNode j kind members) : ofNode? j = ofKind? kind members := by
  cases h with
  | object hkind => rw [ofNode?_object, hkind, Option.bind_some]
  | array hkind hlength =>
    rw [ofNode?_array, hkind, Option.bind_some, if_neg (Nat.not_lt.2 hlength)]

theorem ofKind?_repeated (hkey : key ∈ kind.keys) (h : Json.named key members = .repeated) :
    ofKind? kind members = none := by
  cases kind <;>
  · simp only [NodeKind.keys, List.mem_cons, List.not_mem_nil, or_false] at hkey
    rcases hkey with rfl | rfl | rfl | rfl | rfl <;>
    simp [ofKind?, ofMembers?, FieldQuery.ofMembers?, Grouping.ofMembers?, h, Json.Named.required,
      Json.Named.optional, Json.Named.orElse]

theorem nodesOf?_eq_none {x : Json} (hx : x ∈ xs) (h : ofNode? x = none) : nodesOf? xs = none := by
  induction xs with
  | nil => cases hx
  | cons y xs ih =>
    rw [nodesOf?_cons]
    rcases List.mem_cons.1 hx with rfl | hx
    · rw [h]
    · rw [ih hx]
      cases ofNode? y <;> rfl

theorem Spoilt.ofNode?_eq_none (h : Spoilt j) : ofNode? j = none := by
  induction h with
  | type h => rw [ofNode?_object, NodeKind.named?, h]; rfl
  | key hnode hkey h => rw [hnode.ofNode?_eq, ofKind?_repeated hkey h]
  | element hkind hlength => rw [ofNode?_array, hkind, Option.bind_some, if_pos hlength]
  | @part j x members xs hnode hqueries hx _ ih =>
    have hparts : partsOf? (.array xs) = none := nodesOf?_eq_none hx ih
    rw [hnode.ofNode?_eq, ofKind?, hqueries, Json.Named.required, hparts]
    simp [ofMembers?]

theorem ofJson?_eq_none (h : ofNode? j = none) : ofJson? j = none := by
  unfold ofJson?
  split
  · split
    · exact h
    · rfl
  · exact h
  · rfl

/-- A text that is a query is the same query however its document is spelled. A text whose document, if
it is one at all, is spoilt is no query. -/
theorem parse_respelled :
    (∀ (text : String) (q : Query), parse text = .ok q → ∃ j, Json.parse text = .ok j ∧
      ∀ (other : String) (j' : Json), Json.parse other = .ok j' → Respells j j' → parse other = .ok q) ∧
    ∀ text : String, (∀ j, Json.parse text = .ok j → Spoilt j) → ∃ fault, parse text = .error fault := by
  constructor
  · intro text q h
    obtain ⟨j, hj, hq⟩ := parse_eq_ok.1 h
    refine ⟨j, hj, fun other j' hj' hrespells => parse_eq_ok.2 ⟨j', hj', ?_⟩⟩
    rw [← hrespells.eq.2, hq]
  · intro text hspoilt
    cases h : parse text with
    | error fault => exact ⟨fault, rfl⟩
    | ok q =>
      obtain ⟨j, hj, hq⟩ := parse_eq_ok.1 h
      rw [ofJson?_eq_none (hspoilt j hj).ofNode?_eq_none] at hq
      cases hq

/-- A group of two conditions, with nothing that can be left out. -/
def plain : Json :=
  .object [("type", .string "compound"), ("join", .string "||"), ("queries", .array [
    .object [("type", .string "field"), ("field", .string "title"), ("operator", .string "="),
      ("value", .object [("a", .null), ("b", .array [])])],
    .object [("type", .string "field"), ("field", .string "label"), ("operator", .string "empty")]])]

/-- The same group as an array. One condition has its kind late, a key that is not known and its value in
another order; the other is an array with one of the defaults at its end. -/
def respelt : Json :=
  .array [.string "compound", .string "||", .bool false, .array [
    .object [("value", .object [("b", .array []), ("a", .null)]), ("operator", .string "="),
      ("field", .string "title"), ("type", .string "field"), ("x", .array [.bool true])],
    .array [.string "field", .string "label", .null, .string "empty", .null]]]

/-- A group whose only condition is an array with an element too many. -/
def overlong : Json :=
  .object [("type", .string "compound"), ("join", .string "||"), ("queries", .array [
    .array [.string "field", .string "label", .null, .string "empty", .null, .bool false, .null]])]

theorem respells_title : Respells
    (.object [("type", .string "field"), ("field", .string "title"), ("operator", .string "="),
      ("value", .object [("a", .null), ("b", .array [])])])
    (.object [("value", .object [("b", .array []), ("a", .null)]), ("operator", .string "="),
      ("field", .string "title"), ("type", .string "field"), ("x", .array [.bool true])]) := calc
  Respells _ (.object [("type", .string "field"), ("field", .string "title"), ("operator", .string "="),
      ("value", .object [("b", .array []), ("a", .null)])]) :=
    .reorder (@Json.Reorders.member [_, _, _] [] "value" _ _ (.permute (by decide) (.swap _ _ _)))
  Respells _ (.object (("x", .array [.bool true]) :: _)) :=
    @Respells.unknown .field _ _ _ rfl (by decide) (by decide)
  Respells _ _ := .permute (List.reverse_perm _).symm

theorem respells_label : Respells
    (.object [("type", .string "field"), ("field", .string "label"), ("operator", .string "empty")])
    (.array [.string "field", .string "label", .null, .string "empty", .null]) := calc
  Respells _ (.object (("modifier", .null) :: _)) :=
    @Respells.default .field _ _ _ rfl (by simp [NodeKind.defaults]) rfl
  Respells _ (.object [("type", .string "field"), ("field", .string "label"), ("modifier", .null),
      ("operator", .string "empty")]) :=
    .permute (@List.perm_middle _ _ [_, _] [_]).symm
  Respells _ (.array [.string "field", .string "label", .null, .string "empty"]) :=
    @Respells.array .field (.string "field") [_, _, _] rfl (by decide)
  Respells _ (.array [.string "field", .string "label", .null, .string "empty", .null]) :=
    @Respells.trailing .field "value" _ _ [_, _, _] rfl rfl (by simp [NodeKind.defaults])

theorem respells_plain : Respells plain respelt := calc
  Respells plain (.object (("queries", .array _) :: _)) :=
    .permute (@List.perm_append_comm _ [_, _] [_])
  Respells _ (.object (("queries", .array _) :: _)) := @Respells.part _ [] [_] _ _ respells_title
  Respells _ (.object (("queries", .array _) :: _)) := @Respells.part _ [_] [] _ _ respells_label
  Respells _ (.object (("invert", .bool false) :: _)) :=
    @Respells.default .compound _ _ _ rfl (by simp [NodeKind.defaults]) rfl
  Respells _ (.object [("type", _), ("join", _), ("invert", _), ("queries", _)]) :=
    .permute (@List.perm_append_comm _ [_, _] [_, _])
  Respells _ respelt := @Respells.array .compound (.string "compound") [_, _, _] rfl (by decide)

theorem parse_respelled_group : ∃ q, parse plain.compact = .ok q ∧ parse respelt.compact = .ok q ∧
    ∃ fault, parse overlong.compact = .error fault := by
  have hplain : Json.parse plain.compact = .ok plain := by
    refine Json.parse_compact ?_ (by simp [plain, Json.doubles, Json.memberDoubles, Json.doublesOf])
    simp [plain, Json.maxNesting, Json.nests_object, Json.nests_array, Json.Nests.string, Json.Nests.null]
  have hrespelt : Json.parse respelt.compact = .ok respelt := by
    refine Json.parse_compact ?_ (by simp [respelt, Json.doubles, Json.memberDoubles, Json.doublesOf])
    simp [respelt, Json.maxNesting, Json.nests_object, Json.nests_array, Json.Nests.string,
      Json.Nests.null, Json.Nests.bool]
  have hoverlong : Json.parse overlong.compact = .ok overlong := by
    refine Json.parse_compact ?_ (by simp [overlong, Json.doubles, Json.memberDoubles, Json.doublesOf])
    simp [overlong, Json.maxNesting, Json.nests_object, Json.nests_array, Json.Nests.string,
      Json.Nests.null, Json.Nests.bool]
  obtain ⟨q, hq⟩ : ∃ q, ofJson? plain = some q := ⟨_, rfl⟩
  have hparse : parse plain.compact = .ok q := parse_eq_ok.2 ⟨plain, hplain, hq⟩
  obtain ⟨j, hj, hrespelled⟩ := parse_respelled.1 plain.compact q hparse
  obtain rfl : plain = j := Except.ok.inj (hplain.symm.trans hj)
  refine ⟨q, hparse, hrespelled _ _ hrespelt respells_plain, parse_respelled.2 _ fun j hj => ?_⟩
  obtain rfl : overlong = j := Except.ok.inj (hoverlong.symm.trans hj)
  exact .part (.object rfl) rfl List.mem_cons_self (@Spoilt.element .field _ _ rfl (by decide))

end Query

end MediaCatalog
