import MediaCatalog.Proofs.Writes
import Mathlib.Data.List.Nodup
import Mathlib.Order.Lattice
/-!
# Keys

No two media items have one id, no two things of a kind either, and no two links join the same two. A
row that is looked up by its key is the only one.
-/

namespace MediaCatalog

/-! ## Looking up -/

namespace Entity

/-- What tells albums, tags and people apart. -/
def key (e : Entity) : Relation × String := (e.relation, e.id)

end Entity

namespace Link

/-- What tells links apart. -/
def key (l : Link) : Relation × String × String := (l.relation, l.media, l.entity)

end Link

namespace Store

section Rows

variable {α κ : Type} {xs ys : List α} {key : α → κ} {k : κ} {q : α → Bool} {le : α → α → Bool}

/-- What is looked up by its key is found in whichever order the rows stand. -/
theorem find?_of_perm (hperm : xs.Perm ys) (hkeys : (xs.map key).Nodup)
    (hq : ∀ x, q x = true → key x = k) : xs.find? q = ys.find? q := by
  cases hx : xs.find? q with
  | none =>
    rw [List.find?_eq_none] at hx
    exact (List.find?_eq_none.2 fun y hy => hx y (hperm.mem_iff.2 hy)).symm
  | some x =>
    have hmem := List.mem_of_find?_eq_some hx
    obtain ⟨y, hy⟩ : ∃ y, ys.find? q = some y :=
      Option.isSome_iff_exists.1 (List.find?_isSome.2 ⟨x, hperm.mem_iff.1 hmem, List.find?_some hx⟩)
    have hsame : key x = key y := (hq x (List.find?_some hx)).trans (hq y (List.find?_some hy)).symm
    have hmem' := hperm.mem_iff.2 (List.mem_of_find?_eq_some hy)
    rw [hy, List.inj_on_of_nodup_map hkeys hmem hmem' hsame]

theorem pairwise_mergeSort_of_key [LinearOrder κ] (hle : ∀ x y, le x y = true ↔ key x ≤ key y) :
    (xs.mergeSort le).Pairwise fun x y => key x ≤ key y := by
  refine (List.pairwise_mergeSort ?_ ?_ xs).imp fun h => (hle _ _).1 h
  · exact fun x y z hxy hyz => (hle x z).2 (le_trans ((hle x y).1 hxy) ((hle y z).1 hyz))
  · intro x y
    rw [Bool.or_eq_true, hle, hle]
    exact le_total _ _

/-- Sorted rows stand in one order where no two of them have one place. -/
theorem mergeSort_eq_of_perm {R : α → α → Prop} (hperm : xs.Perm ys)
    (hsorted : ∀ zs : List α, (zs.mergeSort le).Pairwise R)
    (hplaces : ∀ x ∈ xs, ∀ y ∈ xs, R x y → R y x → x = y) : xs.mergeSort le = ys.mergeSort le := by
  refine List.Perm.eq_of_pairwise (fun x y hx hy => ?_) (hsorted xs) (hsorted ys)
    ((List.mergeSort_perm _ _).trans (hperm.trans (List.mergeSort_perm _ _).symm))
  exact hplaces x (List.mem_mergeSort.1 hx) y (hperm.mem_iff.2 (List.mem_mergeSort.1 hy))

end Rows

/-- The rows of each table are told apart by their keys. -/
structure Keyed (s : Store) : Prop where
  items : (s.items.map (·.id)).Nodup
  entities : (s.entities.map Entity.key).Nodup
  links : (s.links.map Link.key).Nodup

variable {s : Store} {r : Relation} {id media entity : String} {e : Entity} {i : MediaItem}

theorem mem_of_entity? (h : s.entity? r id = some e) : e ∈ s.entities ∧ e.relation = r ∧ e.id = id :=
  ⟨List.mem_of_find?_eq_some h, by simpa using List.find?_some h⟩

theorem hasEntity_iff : s.hasEntity r id = true ↔ ∃ e ∈ s.entities, e.relation = r ∧ e.id = id := by
  simp [hasEntity, entity?]

theorem hasItem_iff : s.hasItem id = true ↔ ∃ i ∈ s.items, i.id = id := by
  simp [hasItem]

/-- A new thing differs from all that are there. -/
theorem key_ne_of_new (hnew : s.hasEntity e.relation e.id = false) {e' : Entity}
    (he' : e' ∈ s.entities) : e'.key ≠ e.key := by
  intro hkey
  obtain ⟨hrelation, hid⟩ := Prod.mk.inj hkey
  rw [hasEntity_iff.2 ⟨e', he', hrelation, hid⟩] at hnew
  cases hnew

/-- A new item differs from all that are there. -/
theorem id_ne_of_new (hnew : s.hasItem id = false) (hi : i ∈ s.items) : i.id ≠ id := by
  intro hid
  rw [hasItem_iff.2 ⟨i, hi, hid⟩] at hnew
  cases hnew

/-- What is there stays when one more thing comes. -/
theorem hasEntity_append (h : s.hasEntity r id = true) :
    ({ s with entities := s.entities ++ [e] } : Store).hasEntity r id = true := by
  obtain ⟨e', he', hkey⟩ := hasEntity_iff.1 h
  exact hasEntity_iff.2 ⟨e', List.mem_append_left _ he', hkey⟩

theorem hasItem_append (h : s.hasItem id = true) :
    ({ s with items := s.items ++ [i] } : Store).hasItem id = true := by
  obtain ⟨i', hi', hid⟩ := hasItem_iff.1 h
  exact hasItem_iff.2 ⟨i', List.mem_append_left _ hi', hid⟩

theorem link?_eq_none : s.link? r media entity = none ↔ ∀ l ∈ s.links, l.key ≠ (r, media, entity) := by
  simp [link?, Link.key]

/-- A thing is found by its key. -/
theorem entity?_of_mem (h : (s.entities.map Entity.key).Nodup) (he : e ∈ s.entities) :
    s.entity? e.relation e.id = some e := by
  have hfound : s.hasEntity e.relation e.id = true := hasEntity_iff.2 ⟨e, he, rfl, rfl⟩
  obtain ⟨e', he'⟩ := Option.isSome_iff_exists.1 hfound
  obtain ⟨hmem, hrelation, hid⟩ := mem_of_entity? he'
  have hkey : e'.key = e.key := by rw [Entity.key, hrelation, hid, Entity.key]
  rw [he', List.inj_on_of_nodup_map h hmem he hkey]

theorem Keyed.entity?_of_mem (h : s.Keyed) (he : e ∈ s.entities) :
    s.entity? e.relation e.id = some e :=
  Store.entity?_of_mem h.entities he

/-! ## Runs -/

theorem map_key_map {α β : Type} {f : α → β} {g : α → α} {xs : List α} (h : ∀ x, f (g x) = f x) :
    (xs.map g).map f = xs.map f := by
  rw [List.map_map]
  exact List.map_congr_left fun x _ => h x

theorem nodup_append_fresh {α β : Type} {f : α → β} {xs : List α} {x : α} (h : (xs.map f).Nodup)
    (hfresh : ∀ y ∈ xs, f y ≠ f x) : ((xs ++ [x]).map f).Nodup := by
  rw [List.map_append, List.nodup_append]
  refine ⟨h, List.nodup_singleton _, ?_⟩
  simpa using hfresh

/-- Links that were not there are told apart from those that were. -/
theorem Linkable.nodup_keys {catalog : String} {named added : List (String × String)}
    (hadded : s.Linkable r named added) (h : (s.links.map Link.key).Nodup) :
    ((s.links ++ linksOf r catalog added).map Link.key).Nodup := by
  rw [List.map_append, List.nodup_append, linksOf, List.map_map]
  refine ⟨h, ?_, ?_⟩
  · exact hadded.once.map fun x y hxy => by simpa [Link.key, Prod.ext_iff] using hxy
  · rintro _ hl _ hnew rfl
    obtain ⟨l, hl, hkey⟩ := List.mem_map.1 hl
    obtain ⟨x, hx, hxkey⟩ := List.mem_map.1 hnew
    exact link?_eq_none.1 (hadded.fresh x hx) l hl (hkey.trans hxkey.symm)

theorem Keyed.changeLive (h : s.Keyed) {change : MediaItem → MediaItem}
    (hchange : ∀ i, (change i).id = i.id) : ((s.changeLive id change).2.items.map (·.id)).Nodup := by
  have hkeys := h.items
  rwa [Store.changeLive, map_key_map fun i => by split; exacts [hchange i, rfl]]

/-- Keys stay keys, whatever is done. -/
theorem kept_keyed : Operation.Kept (fun _ _ => True) Keyed where
  flag h := ⟨h.items, h.entities, h.links⟩
  changes {s op s'} hchanges _ h := by
    cases hchanges with
    | createEntity hnew =>
      exact ⟨h.items, nodup_append_fresh h.entities fun _ => key_ne_of_new hnew, h.links⟩
    | setParent =>
      refine ⟨h.items, ?_, h.links⟩
      have hkeys := h.entities
      rwa [setParent, map_key_map fun e => by split <;> rfl]
    | createMedia hnew =>
      exact ⟨nodup_append_fresh h.items fun _ => id_ne_of_new hnew, h.entities, h.links⟩
    | updateMedia | deleteMedia => exact ⟨h.changeLive fun _ => rfl, h.entities, h.links⟩
    | addRelations hadded => exact ⟨h.items, h.entities, hadded.nodup_keys h.links⟩
    | removeRelations => exact ⟨h.items, h.entities, h.links.sublist (List.filter_sublist.map _)⟩
    | setRelations hadded =>
      exact ⟨h.items, h.entities, hadded.nodup_keys (h.links.sublist (List.filter_sublist.map _))⟩
    | setLocation =>
      refine ⟨h.items, h.entities, ?_⟩
      have hkeys := h.links
      rwa [setPersonLocation, map_key_map fun l => by split <;> rfl]
    | _ => exact ⟨h.items, h.entities, h.links⟩

theorem keyed_after {history : List Operation} : (after history).Keyed :=
  kept_keyed.applyAll (Operation.allAlong_of_forall fun _ _ => trivial)
    ⟨List.nodup_nil, List.nodup_nil, List.nodup_nil⟩

end Store

end MediaCatalog
