import MediaCatalog.Proofs.LinkHistory
import MediaCatalog.Search.Basic
/-!
# Replacing links and giving up

The links of a kind of a media item are replaced together or not at all. So is all that a transaction
does, and what is refused inside a transaction leaves what was done in it before.
-/

namespace MediaCatalog

namespace Store

variable {s t : Store} {r : Relation} {catalog media media' entity entity' : String}
  {named : List (String × String)} {items entities : List String}

/-! ## Links that can be added -/

/-- A media item is linked to a thing, or both are there to be linked. -/
def CanLink (s : Store) (r : Relation) (media entity : String) : Prop :=
  s.isLinked r media entity = true ∨ s.hasItem media = true ∧ s.hasEntity r entity = true

theorem exists_addLink : (∃ t, s.addLink r catalog media entity = .ok t) ↔
    s.CanLink r media entity := by
  constructor
  · rintro ⟨t, hadd⟩
    rcases addLink_eq_ok.1 hadd with ⟨hlinked, -⟩ | ⟨-, hexist, -⟩
    · exact .inl hlinked
    · exact .inr hexist
  · intro hcan
    cases hlinked : s.isLinked r media entity with
    | true => exact ⟨s, addLink_eq_ok.2 (.inl ⟨hlinked, rfl⟩)⟩
    | false =>
      rcases hcan with hlinked' | hexist
      · cases hlinked.symm.trans hlinked'
      · exact ⟨_, addLink_eq_ok.2 (.inr ⟨hlinked, hexist, rfl⟩)⟩

/-- A link that is added is between two that exist, so it does not change what can be linked. -/
theorem canLink_of_addLink (h : s.addLink r catalog media entity = .ok t) :
    t.CanLink r media' entity' ↔ s.CanLink r media' entity' := by
  rcases addLink_eq_ok.1 h with ⟨-, rfl⟩ | ⟨-, hexist, rfl⟩
  · rfl
  · have hnew := @isLinked_linksOf s r r catalog media' entity' [(media, entity)]
    refine (or_congr_left hnew).trans ?_
    constructor
    · rintro ((hold | ⟨-, hx⟩) | hexist')
      · exact .inl hold
      · cases List.mem_singleton.1 hx
        exact .inr hexist
      · exact .inr hexist'
    · rintro (hold | hexist')
      · exact .inl (.inl hold)
      · exact .inr hexist'

theorem addLinks_eq_ok : (s.addLinks r catalog named).1 = .ok () ↔
    ∀ x ∈ named, s.CanLink r x.1 x.2 := by
  induction named generalizing s with
  | nil => simp [addLinks]
  | cons x named ih =>
    rw [addLinks, List.forall_mem_cons]
    cases hadd : s.addLink r catalog x.1 x.2 with
    | error e =>
      have hcannot : ¬s.CanLink r x.1 x.2 := by
        intro hcan
        obtain ⟨t, ht⟩ := (@exists_addLink s r catalog _ _).2 hcan
        cases hadd.symm.trans ht
      simp [hcannot]
    | ok t =>
      rw [ih, and_iff_right (exists_addLink.1 ⟨t, hadd⟩)]
      exact forall₂_congr fun _ _ => canLink_of_addLink hadd

/-- Only what does not exist stops links from being added. -/
theorem missing_of_addLinks {e : StoreError} (h : (s.addLinks r catalog named).1 = .error e) :
    e = .missingReference := by
  induction named generalizing s with
  | nil => cases h
  | cons x named ih =>
    rw [addLinks] at h
    cases hadd : s.addLink r catalog x.1 x.2 with
    | ok t =>
      rw [hadd] at h
      exact ih h
    | error e' =>
      rw [hadd] at h
      cases h
      unfold addLink at hadd
      split at hadd
      · cases hadd
      · split at hadd
        · cases hadd
        · cases hadd
          rfl

theorem addRelations_eq_ok : (s.addRelations r catalog items entities).1 = .ok () ↔
    ∀ m ∈ items, ∀ e ∈ entities, s.CanLink r m e := by
  rw [addRelations, addLinks_eq_ok]
  simp only [Prod.forall, mem_pairs]
  exact ⟨fun h m hm e he => h m e ⟨hm, he⟩, fun h m e hx => h m hx.1 e hx.2⟩

/-! ## Links that are replaced -/

theorem canLink_clearRelations : (s.clearRelations r media).CanLink r media entity ↔
    s.hasItem media = true ∧ s.hasEntity r entity = true := by
  unfold CanLink
  rw [isLinked_clearRelations]
  simp only [and_self, not_true_eq_false, and_false, false_or]
  rfl

/-- Links are replaced outside of transactions, where all that are named exist. -/
theorem setRelations_eq_ok : (s.setRelations r catalog media entities).1 = .ok () ↔
    s.inTransaction = false ∧
      ∀ e ∈ entities, s.hasItem media = true ∧ s.hasEntity r e = true := by
  rw [setRelations, atomically_eq_ok, addRelations_eq_ok]
  refine and_congr_right fun _ => ?_
  rw [List.forall_mem_singleton]
  exact forall₂_congr fun _ _ => canLink_clearRelations

theorem setRelations_eq_error {e : StoreError}
    (h : (s.setRelations r catalog media entities).1 = .error e) :
    e = if s.inTransaction then .nestedTransaction else .missingReference := by
  cases hout : s.inTransaction with
  | true =>
    rw [setRelations, atomically_inside hout] at h
    cases h
    rfl
  | false =>
    rw [setRelations, atomically_eq_error hout] at h
    exact missing_of_addLinks h

/-- The links of an item to the things that are named, without a location. -/
def newLinks (r : Relation) (catalog media : String) (added : List String) : List Link :=
  added.map fun e => ⟨r, catalog, media, e, none⟩

/-- All links of the kind of the item are taken away, and one is put for each thing that is named. -/
theorem exists_setRelations_of_ok (h : (s.setRelations r catalog media entities).1 = .ok ()) :
    ∃ added : List String, added.Nodup ∧ (∀ e, e ∈ added ↔ e ∈ entities) ∧
      (s.setRelations r catalog media entities).2 =
        { s with links := (s.clearRelations r media).links ++ newLinks r catalog media added } := by
  obtain ⟨added, hlinkable, heq⟩ := exists_linkable_setRelations h
  have hmedia : ∀ x ∈ added, x = (media, x.2) := fun x hx =>
    Prod.ext (List.mem_singleton.1 (mem_pairs.1 (hlinkable.named x hx)).1) rfl
  have hentities : ∀ e, (media, e) ∈ added ↔ e ∈ entities := by
    intro e
    have hlinked := @isLinked_setRelations s r r catalog media media e entities h
    rw [if_pos ⟨rfl, rfl⟩, heq] at hlinked
    refine Iff.trans ?_ hlinked
    refine ((@isLinked_linksOf (s.clearRelations r media) r r catalog media e added).trans ?_).symm
    rw [isLinked_clearRelations]
    simp
  refine ⟨added.map (·.2), ?_, ?_, ?_⟩
  · refine hlinkable.once.map_on fun x hx y hy hsame => ?_
    rw [hmedia x hx, hmedia y hy, hsame]
  · intro e
    rw [← hentities, List.mem_map]
    constructor
    · rintro ⟨x, hx, rfl⟩
      exact hmedia x hx ▸ hx
    · intro he
      exact ⟨_, he, rfl⟩
  · have hnew : linksOf r catalog added = newLinks r catalog media (added.map (·.2)) := by
      rw [linksOf, newLinks, List.map_map]
      exact List.map_congr_left fun x hx => by rw [hmedia x hx]; rfl
    rw [heq, hnew]

end Store

/-! ## Inside a transaction -/

namespace Operation

variable {s : Store} {op : Operation} {parts : List Operation}

/-- The operation is a transaction of its own. -/
def opens : Operation → Bool
  | setRelations .. | transaction .. => true
  | _ => false

/-- No transaction is under way after an operation if none was before, and it stays under way else. -/
theorem inTransaction_apply : (op.apply s).2.inTransaction = s.inTransaction := by
  have hsingle : op.IsSingle → (op.apply s).2.inTransaction = s.inTransaction := by
    intro hsingle
    have hchanges := @changes_apply s op hsingle
    revert hchanges
    generalize (op.apply s).2 = t
    intro hchanges
    cases hchanges <;> rfl
  cases op with
  | transaction parts keep =>
    rw [apply_transaction]
    split
    next hkept => exact hkept.1.symm
    next => rfl
  | _ => exact hsingle trivial

theorem inTransaction_applyAll : (applyAll s parts).inTransaction = s.inTransaction := by
  induction parts generalizing s with
  | nil => rfl
  | cons op parts ih => rw [applyAll, ih, inTransaction_apply]

/-- There is no transaction inside another. -/
theorem apply_inside (h : s.inTransaction = true) (hop : op.opens = true) :
    op.apply s = (.error .nestedTransaction, s) := by
  cases op with
  | setRelations =>
    rw [apply, Store.setRelations, Store.atomically_inside h]
    rfl
  | transaction =>
    rw [apply]
    simp only [Store.atomically_inside h]
  | _ => cases hop

/-- Inside a transaction, operations come to what those of them that open none come to. -/
theorem applyAll_inside (h : s.inTransaction = true) :
    applyAll s parts = applyAll s (parts.filter (!·.opens)) := by
  induction parts generalizing s with
  | nil => rfl
  | cons op parts ih =>
    cases hop : op.opens with
    | true => rw [applyAll, apply_inside h hop, List.filter_cons_of_neg (by simp [hop]), ih h]
    | false =>
      rw [List.filter_cons_of_pos (by simp [hop]), applyAll, applyAll]
      exact ih (inTransaction_apply.trans h)

theorem transaction_kept (h : s.inTransaction = false) : (transaction parts true).apply s =
    (.ok true, { applyAll { s with inTransaction := true } parts with inTransaction := false }) := by
  rw [apply, Store.atomically, h]
  rfl

theorem transaction_givenUp (h : s.inTransaction = false) :
    (transaction parts false).apply s = (.ok false, s) := by
  rw [apply, Store.atomically, h]
  rfl

end Operation

namespace Store

/-- Links are replaced, and what is done in a transaction is kept, together or not at all. -/
structure AllOrNothing (s : Store) : Prop where
  /-- Links are replaced outside of transactions, where all that are named exist. -/
  accepted : ∀ {r catalog media entities},
    (s.setRelations r catalog media entities).1 = .ok () ↔ s.inTransaction = false ∧
      ∀ e ∈ entities, s.hasItem media = true ∧ s.hasEntity r e = true
  /-- Where they are not replaced the store is as it was. -/
  refused : ∀ {r catalog media entities e}, (s.setRelations r catalog media entities).1 = .error e →
    e = (if s.inTransaction then .nestedTransaction else .missingReference) ∧
      (s.setRelations r catalog media entities).2 = s
  /-- The links of the kind of the item are then one to each thing that is named, and nothing else has
  changed. -/
  replaced : ∀ {r catalog media entities}, (s.setRelations r catalog media entities).1 = .ok () →
    ∃ added : List String, added.Nodup ∧ (∀ e, e ∈ added ↔ e ∈ entities) ∧
      (s.setRelations r catalog media entities).2 =
        { s with links := (s.links.filter fun l => !(l.relation = r && l.media = media)) ++
          added.map fun e => ⟨r, catalog, media, e, none⟩ }
  /-- Whatever is done in a transaction, the store is as it was when it fails. -/
  failed : ∀ {ε α : Type} {nested e : ε} {body : Store → Except ε α × Store},
    (s.atomically nested body).1 = .error e → (s.atomically nested body).2 = s
  givenUp : s.inTransaction = false → ∀ parts,
    (Operation.transaction parts false).apply s = (.ok false, s)
  /-- At whatever point of a transaction another is begun, to replace links, for a shared search or by
  itself, it is refused and the store stays as it is at this point. -/
  inside : ∀ before : List Operation,
    let t := Operation.applyAll { s with inTransaction := true } before
    (∀ op : Operation, op.opens = true → op.apply t = (.error .nestedTransaction, t)) ∧
      (∀ {ε α : Type} {nested : ε} {body : Store → Except ε α × Store},
        t.atomically nested body = (.error nested, t)) ∧
      ∀ (service : SearchService) id, service.store = t →
        service.runShared id = .error (.storage .nestedTransaction)
  /-- The transaction comes to what it comes to without those that were refused. -/
  kept : s.inTransaction = false → ∀ parts, (Operation.transaction parts true).apply s =
    (.ok true,
      { Operation.applyAll { s with inTransaction := true } (parts.filter (!·.opens)) with
        inTransaction := false })

theorem allOrNothing (s : Store) : s.AllOrNothing where
  accepted := setRelations_eq_ok
  refused h := ⟨setRelations_eq_error h, atomically_of_error h⟩
  replaced := exists_setRelations_of_ok
  failed := atomically_of_error
  givenUp hout _ := Operation.transaction_givenUp hout
  inside before := by
    have hunderWay : (Operation.applyAll { s with inTransaction := true } before).inTransaction = true :=
      Operation.inTransaction_applyAll
    refine ⟨fun op hop => Operation.apply_inside hunderWay hop, atomically_inside hunderWay, ?_⟩
    intro service id hstore
    rw [SearchService.runShared, hstore, hunderWay]
    rfl
  kept hout parts := by
    rw [Operation.transaction_kept hout, Operation.applyAll_inside rfl]

end Store

end MediaCatalog
