import MediaCatalog.Proofs.JsonScalars
/-!
# Documents as trees

How deep a document nests, which doubles stand in it, and what its sorted form keeps of it: the
sorted form nests no deeper, and sorting it again changes nothing.
-/

namespace MediaCatalog.Json

/-- Induction with a hypothesis for each item of an array and each member of an object. -/
@[induction_eliminator]
theorem induction {motive : Json → Prop} (null : motive .null) (bool : ∀ b, motive (.bool b))
    (number : ∀ k, motive (.number k)) (string : ∀ s, motive (.string s))
    (array : ∀ items, (∀ j ∈ items, motive j) → motive (.array items))
    (object : ∀ members, (∀ m ∈ members, motive m.2) → motive (.object members)) :
    ∀ j, motive j :=
  Json.rec (motive_2 := fun items => ∀ j ∈ items, motive j)
    (motive_3 := fun members => ∀ m ∈ members, motive m.2) (motive_4 := fun m => motive m.2)
    null bool number string array object (by simp) (by simp_all) (by simp) (by simp_all)
    (fun _ _ h => h)

/-! ## Nesting -/

/-- A document as it is read where `n` more arrays and objects may be open at once. -/
inductive Nests : Nat → Json → Prop
  | null {n : Nat} : Nests n .null
  | bool {n : Nat} {b : Bool} : Nests n (.bool b)
  | number {n : Nat} {k : Number} : k.IsRead → Nests n (.number k)
  | string {n : Nat} {s : String} : Nests n (.string s)
  | array {n : Nat} {items : List Json} : (∀ j ∈ items, Nests n j) → Nests (n + 1) (.array items)
  | object {n : Nat} {members : List (String × Json)} : (∀ m ∈ members, Nests n m.2) →
      Nests (n + 1) (.object members)

theorem nests_array {n : Nat} {items : List Json} :
    Nests (n + 1) (.array items) ↔ ∀ j ∈ items, Nests n j :=
  ⟨fun | .array h => h, .array⟩

theorem nests_object {n : Nat} {members : List (String × Json)} :
    Nests (n + 1) (.object members) ↔ ∀ m ∈ members, Nests n m.2 :=
  ⟨fun | .object h => h, .object⟩

/-! ## Doubles -/

mutual

/-- The doubles of a document. -/
def doubles : Json → List Binary64
  | .number (.double x) => [x]
  | .array items => doublesOf items
  | .object members => memberDoubles members
  | _ => []

def doublesOf : List Json → List Binary64
  | [] => []
  | j :: js => j.doubles ++ doublesOf js

def memberDoubles : List (String × Json) → List Binary64
  | [] => []
  | (_, v) :: ms => v.doubles ++ memberDoubles ms

end

variable {x : Binary64} {j : Json} {items : List Json} {members : List (String × Json)}
  {m : String × Json}

theorem mem_doublesOf (hj : j ∈ items) (hx : x ∈ j.doubles) : x ∈ doublesOf items := by
  induction items with
  | nil => cases hj
  | cons i items ih =>
    rw [doublesOf, List.mem_append]
    rcases List.mem_cons.1 hj with rfl | hj
    · exact .inl hx
    · exact .inr (ih hj)

theorem mem_memberDoubles (hm : m ∈ members) (hx : x ∈ m.2.doubles) : x ∈ memberDoubles members := by
  induction members with
  | nil => cases hm
  | cons m' members ih =>
    rw [memberDoubles, List.mem_append]
    rcases List.mem_cons.1 hm with rfl | hm
    · exact .inl hx
    · exact .inr (ih hm)

/-! ## Sorting -/

variable {n : Nat} {done : List (String × Json)} {k : String} {v : Json}

/-- The keys of members ascend. -/
def Ascending (members : List (String × Json)) : Prop := members.Pairwise fun a b => a.1 < b.1

theorem sortedItems_eq : sortedItems items = items.map sorted := by
  induction items with
  | nil => rfl
  | cons j items ih => rw [sortedItems, ih]; rfl

theorem mem_insertMember (h : m ∈ insertMember k v members) : m = (k, v) ∨ m ∈ members := by
  induction members with
  | nil => simpa [insertMember] using h
  | cons m' members ih =>
    rw [insertMember] at h
    split at h
    · simpa using h
    · split at h
      · rcases List.mem_cons.1 h with h | h
        · exact .inl h
        · exact .inr (by simp [h])
      · rcases List.mem_cons.1 h with h | h
        · exact .inr (by simp [h])
        · rcases ih h with h | h
          · exact .inl h
          · exact .inr (by simp [h])

/-- Every member of a sorted object is one of the object, with its value sorted. -/
theorem mem_sortedMembers (h : m ∈ sortedMembers members done) :
    m ∈ done ∨ ∃ m' ∈ members, m = (m'.1, m'.2.sorted) := by
  induction members generalizing done with
  | nil => exact .inl h
  | cons m' members ih =>
    rcases ih h with h | ⟨m'', hm, rfl⟩
    · rcases mem_insertMember h with rfl | h
      · exact .inr ⟨m', by simp, rfl⟩
      · exact .inl h
    · exact .inr ⟨m'', by simp [hm], rfl⟩

/-- Sorting does not nest a document any deeper. -/
theorem Nests.sorted (h : Nests n j) : Nests n j.sorted := by
  induction h with
  | null => exact .null
  | bool => exact .bool
  | number hk => exact .number hk
  | string => exact .string
  | array _ ih =>
    rw [Json.sorted, sortedItems_eq]
    refine .array fun j hj => ?_
    obtain ⟨i, hi, rfl⟩ := List.mem_map.1 hj
    exact ih i hi
  | object _ ih =>
    refine .object fun m hm => ?_
    rcases mem_sortedMembers hm with hm | ⟨m', hm', rfl⟩
    · cases hm
    · exact ih m' hm'

theorem Ascending.insertMember (h : Ascending members) :
    Ascending (Json.insertMember k v members) := by
  induction members with
  | nil => exact List.pairwise_singleton _ _
  | cons m' members ih =>
    obtain ⟨hfirst, hrest⟩ := List.pairwise_cons.1 h
    rw [Json.insertMember]
    split
    next hlt =>
      refine List.pairwise_cons.2 ⟨fun a ha => ?_, h⟩
      rcases List.mem_cons.1 ha with rfl | ha
      · exact hlt
      · exact String.lt_trans hlt (hfirst a ha)
    next hnlt =>
      split
      next heq => exact List.pairwise_cons.2 ⟨fun a ha => heq ▸ hfirst a ha, hrest⟩
      next hne =>
        refine List.pairwise_cons.2 ⟨fun a ha => ?_, ih hrest⟩
        rcases mem_insertMember ha with rfl | ha
        · by_contra hle
          exact hne (String.le_antisymm (String.not_lt.1 hle) (String.not_lt.1 hnlt))
        · exact hfirst a ha

theorem Ascending.sortedMembers (h : Ascending done) :
    Ascending (Json.sortedMembers members done) := by
  induction members generalizing done with
  | nil => exact h
  | cons m' members ih => exact ih h.insertMember

theorem insertMember_last (h : ∀ m ∈ members, m.1 < k) :
    insertMember k v members = members ++ [(k, v)] := by
  induction members with
  | nil => rfl
  | cons m' members ih =>
    have hlt : m'.1 < k := h m' (by simp)
    rw [insertMember, if_neg (String.lt_asymm hlt), if_neg (String.ne_of_lt hlt).symm,
      ih fun m hm => h m (by simp [hm])]
    rfl

/-- Members in the order of their keys stay as they are. -/
theorem sortedMembers_of_ascending (h : Ascending (done ++ members))
    (hvalues : ∀ m ∈ members, m.2.sorted = m.2) : sortedMembers members done = done ++ members := by
  induction members generalizing done with
  | nil => simp [sortedMembers]
  | cons m' members ih =>
    have hlast : ∀ m ∈ done, m.1 < m'.1 := fun m hm =>
      (List.pairwise_append.1 h).2.2 m hm m' (by simp)
    rw [sortedMembers, insertMember_last hlast, hvalues m' (by simp)]
    -- The member comes after those that are done, and before those that are left.
    have hsplit : done ++ m' :: members = done ++ [(m'.1, m'.2)] ++ members := by simp
    rw [hsplit] at h ⊢
    exact ih h fun m hm => hvalues m (by simp [hm])

/-- A sorted document is sorted. -/
theorem sorted_sorted : j.sorted.sorted = j.sorted := by
  induction j with
  | null => rfl
  | bool b => rfl
  | number k => rfl
  | string s => rfl
  | array items ih =>
    simp only [sorted, sortedItems_eq, List.map_map]
    congr 1
    exact List.map_congr_left ih
  | object members ih =>
    have hascending : Ascending (sortedMembers members []) := Ascending.sortedMembers .nil
    simp only [sorted]
    rw [sortedMembers_of_ascending hascending, List.nil_append]
    intro m hm
    rcases mem_sortedMembers hm with hm | ⟨m', hm', rfl⟩
    · cases hm
    · exact ih m' hm'

theorem sorted_ne_null (h : j ≠ .null) : j.sorted ≠ .null := by
  cases j <;> simp_all [sorted]

end MediaCatalog.Json
