import MediaCatalog.Proofs.Isolation
import MediaCatalog.Proofs.Logs
import Mathlib.Data.List.Sort
/-!
# What links say of a run

A media item is linked to a thing when the last operation of a log that is about the two has put the
link there. The ids that an item is linked to, the things that its row shows, and the search for the
items of a thing all tell the same links.
-/

namespace MediaCatalog

/-- Whether an operation puts a link between a media item and a thing or takes it away, if it is about
the two. -/
def Operation.linking? (r : Relation) (media entity : String) : Operation → Option Bool
  | addRelations r' _ items things =>
    if r' = r ∧ media ∈ items ∧ entity ∈ things then some true else none
  | removeRelations r' items things =>
    if r' = r ∧ media ∈ items ∧ entity ∈ things then some false else none
  | setRelations r' _ item things =>
    if r' = r ∧ item = media then some (decide (entity ∈ things)) else none
  | _ => none

namespace Store

/-- There is a link between a media item and a thing of a kind. -/
def isLinked (s : Store) (r : Relation) (media entity : String) : Bool := (s.link? r media entity).isSome

variable {s t : Store} {r r' : Relation} {catalog media media' entity : String}
  {named added : List (String × String)} {items entities : List String}

theorem isLinked_iff : s.isLinked r media entity = true ↔ ∃ l ∈ s.links, l.key = (r, media, entity) := by
  simp [isLinked, link?, Link.key, and_assoc]

/-! ## Links that are added -/

/-- A pair that is not linked is, if both exist. -/
theorem addLink_eq_ok : s.addLink r catalog media entity = .ok t ↔
    s.isLinked r media entity = true ∧ t = s ∨
      s.isLinked r media entity = false ∧ (s.hasItem media = true ∧ s.hasEntity r entity = true) ∧
        t = { s with links := s.links ++ [⟨r, catalog, media, entity, none⟩] } := by
  unfold addLink isLinked
  cases (s.link? r media entity).isSome <;> cases s.hasItem media <;> cases s.hasEntity r entity <;>
    simp [@eq_comm _ t]

theorem mem_pairs : (media, entity) ∈ pairs items entities ↔ media ∈ items ∧ entity ∈ entities := by
  simp [pairs]

theorem isLinked_linksOf :
    ({ s with links := s.links ++ linksOf r' catalog added } : Store).isLinked r media entity = true ↔
      s.isLinked r media entity = true ∨ r' = r ∧ (media, entity) ∈ added := by
  simp only [isLinked_iff, List.mem_append, linksOf, List.mem_map]
  constructor
  · rintro ⟨l, hl | ⟨x, hx, rfl⟩, hkey⟩
    · exact .inl ⟨l, hl, hkey⟩
    · obtain ⟨rfl, rfl⟩ : r' = r ∧ x = (media, entity) := by simpa [Link.key] using hkey
      exact .inr ⟨rfl, hx⟩
  · rintro (⟨l, hl, hkey⟩ | ⟨rfl, hx⟩)
    · exact ⟨l, .inl hl, hkey⟩
    · exact ⟨_, .inr ⟨_, hx, rfl⟩, rfl⟩

/-- Links that were there stay when others are added. -/
theorem isLinked_addLinks (h : s.isLinked r media entity = true) :
    (s.addLinks r' catalog named).2.isLinked r media entity = true := by
  obtain ⟨added, -, heq⟩ := @exists_addLinks s r' catalog named
  rw [heq]
  exact isLinked_linksOf.2 (.inl h)

theorem isLinked_of_addLink (h : s.addLink r catalog media entity = .ok t) :
    t.isLinked r media entity = true := by
  rcases addLink_eq_ok.1 h with ⟨hlinked, rfl⟩ | ⟨-, -, rfl⟩
  · exact hlinked
  · exact isLinked_iff.2 ⟨_, List.mem_append_right _ (List.mem_singleton_self _), rfl⟩

/-- When nothing fails every pair that is named is linked. -/
theorem isLinked_of_addLinks (h : (s.addLinks r catalog named).1 = .ok ())
    (hnamed : (media, entity) ∈ named) :
    (s.addLinks r catalog named).2.isLinked r media entity = true := by
  induction named generalizing s with
  | nil => cases hnamed
  | cons x named ih =>
    obtain ⟨media₀, entity₀⟩ := x
    rw [addLinks] at h ⊢
    cases hadd : s.addLink r catalog media₀ entity₀ with
    | error e =>
      rw [hadd] at h
      cases h
    | ok t =>
      rw [hadd] at h
      rcases List.mem_cons.1 hnamed with hfirst | hrest
      · cases hfirst
        exact isLinked_addLinks (isLinked_of_addLink hadd)
      · exact ih h hrest

/-- The links after pairs have been added are those before and those that are named. -/
theorem isLinked_addRelations (h : (s.addRelations r' catalog items entities).1 = .ok ()) :
    (s.addRelations r' catalog items entities).2.isLinked r media entity = true ↔
      s.isLinked r media entity = true ∨ r' = r ∧ media ∈ items ∧ entity ∈ entities := by
  obtain ⟨added, hadded, heq⟩ := @exists_addLinks s r' catalog (pairs items entities)
  constructor
  · intro hlinked
    rw [addRelations, heq, isLinked_linksOf] at hlinked
    rcases hlinked with hbefore | ⟨hr, hx⟩
    · exact .inl hbefore
    · exact .inr ⟨hr, mem_pairs.1 (hadded.named _ hx)⟩
  · rintro (hbefore | ⟨rfl, hx⟩)
    · exact isLinked_addLinks hbefore
    · exact isLinked_of_addLinks h (mem_pairs.2 hx)

/-! ## Links that are taken away -/

theorem isLinked_filter {p : Link → Bool} {kept : Prop}
    (h : ∀ l, l.relation = r → l.media = media → l.entity = entity → (p l = true ↔ kept)) :
    ({ s with links := s.links.filter p } : Store).isLinked r media entity = true ↔
      s.isLinked r media entity = true ∧ kept := by
  simp only [isLinked_iff, List.mem_filter, Link.key, Prod.mk.injEq]
  constructor
  · rintro ⟨l, ⟨hl, hp⟩, hr, hmedia, hentity⟩
    exact ⟨⟨l, hl, hr, hmedia, hentity⟩, (h l hr hmedia hentity).1 hp⟩
  · rintro ⟨⟨l, hl, hr, hmedia, hentity⟩, hkept⟩
    exact ⟨l, ⟨hl, (h l hr hmedia hentity).2 hkept⟩, hr, hmedia, hentity⟩

theorem isLinked_removeRelations :
    (s.removeRelations r' items entities).isLinked r media entity = true ↔
      s.isLinked r media entity = true ∧ ¬(r' = r ∧ media ∈ items ∧ entity ∈ entities) := by
  refine isLinked_filter ?_
  rintro l rfl rfl rfl
  simp [@eq_comm _ r', imp_iff_not_or, or_assoc]

theorem isLinked_clearRelations : (s.clearRelations r' media').isLinked r media entity = true ↔
    s.isLinked r media entity = true ∧ ¬(r' = r ∧ media' = media) := by
  refine isLinked_filter ?_
  rintro l rfl rfl rfl
  simp [@eq_comm _ r', @eq_comm _ media', imp_iff_not_or]

/-! ## Links that are replaced -/

theorem setRelations_of_ok (h : (s.setRelations r catalog media entities).1 = .ok ()) :
    let cleared := ({ s with inTransaction := true } : Store).clearRelations r media
    (cleared.addRelations r catalog [media] entities).1 = .ok () ∧
      (s.setRelations r catalog media entities).2 =
        { (cleared.addRelations r catalog [media] entities).2 with inTransaction := false } :=
  ⟨(atomically_eq_ok.1 h).2, atomically_of_ok h⟩

/-- The links of an item of the kind are those that are named, all others stay. -/
theorem isLinked_setRelations (h : (s.setRelations r' catalog media' entities).1 = .ok ()) :
    (s.setRelations r' catalog media' entities).2.isLinked r media entity = true ↔
      if r' = r ∧ media' = media then entity ∈ entities else s.isLinked r media entity = true := by
  obtain ⟨hadded, heq⟩ := setRelations_of_ok h
  have hlinked := (@isLinked_addRelations _ r r' catalog media entity _ _ hadded).trans
    (or_congr_left isLinked_clearRelations)
  rw [heq]
  refine hlinked.trans ?_
  split
  next hset =>
    obtain ⟨rfl, rfl⟩ := hset
    simp
  next hother =>
    have hnot : ¬(r' = r ∧ media ∈ [media'] ∧ entity ∈ entities) :=
      fun h => hother ⟨h.1, (List.mem_singleton.1 h.2.1).symm⟩
    rw [or_iff_left hnot]
    exact and_iff_left hother

/-- A location is recorded in a link that stays what it is. -/
theorem isLinked_setPersonLocation {location : Option Location} {person : String} :
    (s.setPersonLocation media' person location).2.isLinked r media entity =
      s.isLinked r media entity := by
  rw [Bool.eq_iff_iff, isLinked_iff, isLinked_iff]
  simp only [setPersonLocation, List.mem_map]
  constructor
  · rintro ⟨_, ⟨l, hl, rfl⟩, hkey⟩
    refine ⟨l, hl, ?_⟩
    split at hkey <;> exact hkey
  · rintro ⟨l, hl, hkey⟩
    refine ⟨_, ⟨l, hl, rfl⟩, ?_⟩
    split <;> exact hkey

end Store

/-! ## Operations -/

namespace Operation

variable {s : Store} {op : Operation} {r : Relation} {media entity : String}

/-- The operation puts links or takes them away. -/
def OnLinks : Operation → Prop
  | addRelations .. | removeRelations .. | setRelations .. => True
  | _ => False

theorem tried_of_succeeds {tried? : Except StoreError Unit × Store} (hop : op.apply s = tried tried?)
    (h : op.succeeds s = true) : tried?.1 = .ok () := by
  obtain ⟨r, t⟩ := tried?
  unfold succeeds at h
  rw [hop] at h
  cases r with
  | ok => rfl
  | error e => cases h

theorem isLinked_frame (hsingle : op.IsSingle) (hop : ¬op.OnLinks) :
    (op.apply s).2.isLinked r media entity = s.isLinked r media entity := by
  have hchanges := @changes_apply s op hsingle
  revert hchanges
  generalize (op.apply s).2 = t
  intro hchanges
  cases hchanges with
  | addRelations | removeRelations | setRelations => exact absurd trivial hop
  | setLocation => exact Store.isLinked_setPersonLocation
  | _ => rfl

/-- An operation that is carried out settles the links that it is about, and leaves all others. -/
theorem isLinked_apply (hsingle : op.IsSingle) (hdone : op.succeeds s = true) :
    (op.apply s).2.isLinked r media entity =
      (op.linking? r media entity).getD (s.isLinked r media entity) := by
  cases op with
  | addRelations r' catalog items things =>
    rw [Bool.eq_iff_iff, linking?]
    refine (Store.isLinked_addRelations (tried_of_succeeds rfl hdone)).trans ?_
    split <;> simp [*]
  | removeRelations r' items things =>
    rw [Bool.eq_iff_iff, linking?]
    refine Store.isLinked_removeRelations.trans ?_
    split <;> simp [*]
  | setRelations r' catalog item things =>
    rw [Bool.eq_iff_iff, linking?]
    refine (Store.isLinked_setRelations (tried_of_succeeds rfl hdone)).trans ?_
    split <;> simp
  | transaction => exact hsingle.elim
  | _ => exact isLinked_frame hsingle id

/-- The operation does not stop halfway. -/
def AddsAll (s : Store) (op : Operation) : Prop := op.AddsLinks → op.succeeds s = true

theorem AddsAll.apply_eq (hadds : AddsAll s op) (hsingle : op.IsSingle)
    (hmissed : op.succeeds s = false) : (op.apply s).2 = s := by
  refine apply_of_not_succeeds hsingle (fun hlinks => ?_) hmissed
  rw [hadds hlinks] at hmissed
  cases hmissed

/-- The links go on to be those that a log has put last. -/
theorem tracked_isLinked : Tracked AddsAll fun log s => ∀ r media entity,
    s.isLinked r media entity = (log.last? (linking? r media entity)).getD false where
  flag h := h
  missed hsingle hadds hmissed h := by rwa [hadds.apply_eq hsingle hmissed]
  done {log s op} hsingle _ hdone h := by
    intro r media entity
    rw [isLinked_apply hsingle hdone, h, Log.last?_append]
    cases op.linking? r media entity <;> rfl

end Operation

/-! ## Ids that an item is linked to -/

namespace Store

variable {s : Store} {r : Relation} {media id : String} {e : Entity} {row : ViewRow} {shown : MediaRow}

theorem mem_relatedIds : id ∈ s.relatedIds r media ↔ s.isLinked r media id = true := by
  simp only [relatedIds, isLinked_iff, List.mem_mergeSort, List.mem_map, List.mem_filter,
    Bool.and_eq_true, decide_eq_true_eq, Link.key, Prod.mk.injEq, and_assoc]

theorem pairwise_relatedIds : (s.relatedIds r media).Pairwise (· ≤ ·) :=
  List.pairwise_mergeSort' _ _

theorem Keyed.nodup_relatedIds (h : s.Keyed) : (s.relatedIds r media).Nodup := by
  rw [relatedIds, (List.mergeSort_perm _ _).nodup_iff]
  refine List.Nodup.of_map (fun entity => (r, media, entity)) ?_
  have hkeys : ((s.links.filter fun l => l.relation = r && l.media = media).map Link.key).Nodup :=
    h.links.sublist (List.filter_sublist.map _)
  rw [List.map_map]
  convert hkeys using 1
  refine List.map_congr_left fun l hl => ?_
  obtain ⟨hr, hmedia⟩ : l.relation = r ∧ l.media = media := by simpa using (List.mem_filter.1 hl).2
  rw [Function.comp_apply, Link.key, hr, hmedia]

end Store

/-! ## Things that a row shows -/

/-- The things of a kind that a row shows. -/
def MediaRow.things (shown : MediaRow) : Relation → List Entity
  | .album => shown.albums
  | .tag => shown.tags
  | .person => shown.people.map (·.person)

namespace Store

variable {s : Store} {r : Relation} {media id : String} {e : Entity} {row : ViewRow} {shown : MediaRow}

/-- A row shows the things that its item is linked to. -/
theorem things_of_readRow (h : s.readRow row = .ok shown) :
    shown.things r = (s.linked r row.id).map (·.1) := by
  have hpeople := people_of_readRow h
  simp only [readRow, bind_eq_ok, pure, Except.pure, Except.ok.injEq] at h
  obtain ⟨_, -, _, -, _, -, _, -, _, -, rfl⟩ := h
  cases r with
  | album | tag => rfl
  | person => exact map_of_mapM (fun _ _ ha => (readAppearance_eq_ok.1 ha).1) hpeople

theorem Keyed.mem_linked_map (h : s.Keyed) : e ∈ (s.linked r media).map (·.1) ↔
    e ∈ s.entities ∧ e.relation = r ∧ s.isLinked r media e.id = true := by
  simp only [List.mem_map, mem_linked, isLinked_iff, Link.key, Prod.mk.injEq]
  constructor
  · rintro ⟨⟨e, l⟩, ⟨hl, hr, hmedia, hfound⟩, rfl⟩
    obtain ⟨he, hrelation, hid⟩ := mem_of_entity? hfound
    exact ⟨he, hrelation, l, hl, hr, hmedia, hid.symm⟩
  · rintro ⟨he, rfl, l, hl, hr, hmedia, hid⟩
    exact ⟨(e, l), ⟨hl, hr, hmedia, by rw [hid]; exact h.entity?_of_mem he⟩, rfl⟩

/-- The things of a row stand in the order of their places, each once. -/
theorem Keyed.pairwise_linked_map (h : s.Keyed) :
    ((s.linked r media).map (·.1)).Pairwise fun e e' => e.place < e'.place := by
  rw [List.pairwise_map]
  refine (pairwise_linked.and h.nodup_linked).imp_of_mem fun hx hy hxy => ?_
  exact lt_of_le_of_ne hxy.1 fun hplace => hxy.2 (h.eq_of_place hx hy hplace)

/-! ## Searching for the items of a thing -/

end Store

/-- The query for the media items that are linked to a thing. -/
def Query.linkedTo (j : Join) (r : Relation) (id : String) : Query :=
  .group ⟨j, false, some r, false⟩ [.field ⟨"id", none, .equal, some (.string id), false⟩]

namespace Query

variable {s : Store} {j : Join} {r : Relation} {catalog id : String} {limit : Nat} {e : Entity}
  {row : ViewRow}

theorem check_linkedTo (h : 2 ≤ limit) : (linkedTo j r id).check false limit = .ok () := by
  refine checkNode_group.2 ⟨by omega, ?_, ?_⟩
  · cases r <;> rfl
  · intro q hq
    rw [List.mem_singleton.1 hq]
    exact checkNode_field.2 ⟨h, rfl⟩

/-- The query is true of a row when its item is linked to the thing. -/
theorem meaning_linkedTo (he : e ∈ s.entities) :
    (linkedTo j e.relation e.id).meaning s e.catalog row none = .yes ↔
      s.isLinked e.relation row.id e.id = true := by
  simp only [linkedTo, meaning, meanings_eq, List.map_cons, List.map_nil, meaning_id, truth_singleton,
    Truth.isYes_ofBool, Bool.bne_false, ← Truth.isYes_iff, decide_eq_true_eq, Store.isLinked_iff,
    Store.Selects, Bool.false_eq_true, if_false]
  refine exists_congr fun l => ?_
  simp only [Link.key, Prod.mk.injEq, List.mem_map, List.mem_filter, Bool.and_eq_true,
    decide_eq_true_eq]
  constructor
  · rintro ⟨hl, hr, hmedia, e', ⟨-, -, hid⟩, hentity⟩
    exact ⟨hl, hr, hmedia, hentity.symm.trans hid⟩
  · rintro ⟨hl, hr, hmedia, hentity⟩
    exact ⟨hl, hr, hmedia, e, ⟨he, ⟨rfl, rfl⟩, rfl⟩, hentity.symm⟩

/-- What the query is compiled to. -/
def linkedToPredicate (catalog : String) (j : Join) (r : Relation) (id : String) : Predicate :=
  .linked ⟨r, catalog, false, false⟩
    (.join j [.compare ⟨.entity r .id, none, .equal, some (.text id), false⟩])

theorem compile_linkedTo :
    (linkedTo j r id).compile catalog .media = .ok (linkedToPredicate catalog j r id) := rfl

theorem normalize_linkedTo :
    (linkedToPredicate catalog j r id).normalize = linkedToPredicate catalog j r id := by
  cases j <;> rfl

theorem isShallow_linkedTo : (linkedToPredicate catalog j r id).isShallow = true := by
  cases j <;> cases r <;> rfl

theorem isBindable_linkedTo : (linkedToPredicate catalog j r id).isBindable = true := by
  cases j <;> cases r <;> rfl

end Query

namespace SearchService

variable {service : SearchService} {caller : String} {j : Join} {e : Entity}

theorem search_linkedTo (hdepth : 2 ≤ service.maxDepth) (hdocuments : service.store.hasMalformed = false)
    (hread : (service.authorize caller e.catalog).canRead = true) (he : e ∈ service.store.entities) :
    ∃ selected : List ViewRow, service.search caller e.catalog (.linkedTo j e.relation e.id) =
        (selected.mapM service.store.readRow).mapError .storage ∧
      ∀ row, row ∈ selected ↔ row ∈ service.store.view e.catalog ∧
        service.store.isLinked e.relation row.id e.id = true := by
  obtain ⟨selected, hshows, hsearch⟩ := exists_selected_of_isModest hread (Query.check_linkedTo hdepth)
    hdocuments Query.compile_linkedTo (Query.normalize_linkedTo ▸ Query.isShallow_linkedTo)
    (Query.normalize_linkedTo ▸ Query.isBindable_linkedTo)
    (fun x hx => by rw [List.mem_singleton.1 hx]; rfl)
  refine ⟨selected, hsearch, fun row => ?_⟩
  rw [hshows.mem, Query.meaning_linkedTo he]

end SearchService

/-! ## Runs -/

namespace Store

variable {s : Store} {r : Relation} {catalog : String} {named added : List (String × String)}

/-- Every link is one to a thing that exists. -/
def LinksEntities (s : Store) : Prop := ∀ l ∈ s.links, s.hasEntity l.relation l.entity = true

theorem LinksEntities.addLinks (h : s.LinksEntities) (hadded : s.Linkable r named added) :
    LinksEntities { s with links := s.links ++ linksOf r catalog added } := by
  intro l hl
  rcases List.mem_append.1 hl with hl | hl
  · exact h l hl
  · obtain ⟨x, hx, rfl⟩ := List.mem_map.1 hl
    exact hadded.hasEntity x hx

theorem LinksEntities.filterLinks (h : s.LinksEntities) (p : Link → Bool) :
    LinksEntities { s with links := s.links.filter p } :=
  fun l hl => h l (List.mem_filter.1 hl).1

theorem kept_linksEntities : Operation.Kept (fun _ _ => True) LinksEntities where
  flag h := h
  changes {s op s'} hchanges _ h := by
    -- A link that is added has been looked at; nothing takes a thing away.
    cases hchanges with
    | createEntity => exact fun l hl => hasEntity_append (h l hl)
    | setParent =>
      intro l hl
      obtain ⟨e, he, hr, hid⟩ := hasEntity_iff.1 (h l hl)
      refine hasEntity_iff.2 ⟨_, List.mem_map_of_mem he, ?_⟩
      split
      · exact ⟨hr, hid⟩
      · exact ⟨hr, hid⟩
    | addRelations hadded => exact h.addLinks hadded
    | removeRelations => exact h.filterLinks _
    | setRelations hadded => exact (h.filterLinks _).addLinks hadded
    | setLocation =>
      intro l hl
      obtain ⟨old, hold, rfl⟩ := List.mem_map.1 hl
      split
      · exact h old hold
      · exact h old hold
    | _ => exact h

end Store

namespace SearchService

/-- After a run in which no links are added by halves, an item and a thing are linked when the last
operation about the two has linked them. The ids that are related to an item, the things that its row
shows and the search for the items of a thing tell these links, in order and each once. -/
theorem links_agree (service : SearchService) {log : Log}
    (h : Store.Logged Operation.AddsAll log service.store) :
    (∀ r media id, service.store.isLinked r media id = true ↔
        log.last? (Operation.linking? r media id) = some true) ∧
      (∀ r media, (service.store.relatedIds r media).Nodup ∧
        (service.store.relatedIds r media).Pairwise (· ≤ ·) ∧
        ∀ id, id ∈ service.store.relatedIds r media ↔ service.store.isLinked r media id = true) ∧
      (∀ r media id, service.store.isLinked r media id = true →
        ∃ e ∈ service.store.entities, e.relation = r ∧ e.id = id) ∧
      (∀ row shown, service.store.readRow row = .ok shown → ∀ r,
        ((shown.things r).Pairwise fun e e' => e.place < e'.place) ∧
          ∀ e, e ∈ shown.things r ↔ e ∈ service.store.entities ∧ e.relation = r ∧
            service.store.isLinked r row.id e.id = true) ∧
      ∀ e ∈ service.store.entities, ∀ j caller, 2 ≤ service.maxDepth →
        (service.authorize caller e.catalog).canRead = true →
        ∃ selected : List ViewRow, service.search caller e.catalog (.linkedTo j e.relation e.id) =
            (selected.mapM service.store.readRow).mapError .storage ∧
          ∀ row, row ∈ selected ↔ row ∈ service.store.view e.catalog ∧
            service.store.isLinked e.relation row.id e.id = true := by
  have hlinked := h.tracked Operation.tracked_isLinked fun _ _ _ => rfl
  have hkeyed := h.keyed
  have hentities := h.kept Store.kept_linksEntities nofun
  refine ⟨?_, ?_, ?_, ?_, ?_⟩
  · intro r media id
    rw [hlinked, Option.getD_eq_iff]
    simp
  · exact fun r media => ⟨hkeyed.nodup_relatedIds, Store.pairwise_relatedIds, fun id =>
      Store.mem_relatedIds⟩
  · intro r media id hid
    obtain ⟨l, hl, hkey⟩ := Store.isLinked_iff.1 hid
    cases hkey
    exact Store.hasEntity_iff.1 (hentities l hl)
  · intro row shown hshown r
    rw [Store.things_of_readRow hshown]
    exact ⟨hkeyed.pairwise_linked_map, fun e => hkeyed.mem_linked_map⟩
  · exact fun e he j caller hdepth hread =>
      search_linkedTo hdepth h.later.hasMalformed_eq_false hread he

/-- An item is put into two albums, one of them named twice, and then into one of them alone. -/
def albumLog : Log :=
  oneAtHome [.createEntity ⟨.album, "summer", "home", none, "Summer"⟩,
    .createEntity ⟨.album, "beach", "home", none, "Beach"⟩,
    .addRelations .album "home" ["one"] ["beach", "summer", "beach"],
    .removeRelations .album ["one", "two"] ["beach"],
    .setRelations .album "home" "one" ["beach"]]

theorem done_albumLog : Operation.allDone .empty albumLog = albumLog := rfl

/-- The item is in the album that is named last, and is not found by the other. -/
theorem links_agree_albumLog : Store.Logged Operation.AddsAll albumLog (.after albumLog) ∧
    (Store.after albumLog).isLinked .album "one" "beach" = true ∧
      (Store.after albumLog).isLinked .album "one" "summer" = false ∧
        ∃ selected : List ViewRow, (ofStore (.after albumLog)).search "owner@example.com" "home"
            (.linkedTo .all .album "summer") =
            (selected.mapM (Store.after albumLog).readRow).mapError .storage ∧
          ∀ row ∈ selected, row.id ≠ "one" := by
  have hadds : Operation.AllAlong Operation.AddsAll .empty albumLog :=
    ⟨fun _ => rfl, fun _ => rfl, fun _ => rfl, fun _ => rfl, fun _ => rfl, fun _ => rfl, fun _ => rfl,
      fun _ => rfl, fun _ => rfl, fun _ => rfl, trivial⟩
  have hlogged : Store.Logged Operation.AddsAll albumLog (.after albumLog) :=
    done_albumLog ▸ Store.logged_after hadds
  obtain ⟨hlinked, -, -, -, hsearch⟩ := links_agree (ofStore (.after albumLog)) hlogged
  have hsummer : (Store.after albumLog).isLinked .album "one" "summer" = false :=
    Bool.eq_false_iff.2 fun h => absurd ((hlinked .album "one" "summer").1 h) (by decide)
  refine ⟨hlogged, (hlinked .album "one" "beach").2 rfl, hsummer, ?_⟩
  obtain ⟨selected, hfound, hmem⟩ := hsearch ⟨.album, "summer", "home", none, "Summer"⟩ (by decide)
    .all "owner@example.com" (by decide) rfl
  refine ⟨selected, hfound, fun row hrow hid => ?_⟩
  have hrowLinked := ((hmem row).1 hrow).2
  rw [hid] at hrowLinked
  exact Bool.noConfusion (hsummer.symm.trans hrowLinked)

end SearchService

end MediaCatalog
