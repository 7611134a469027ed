import MediaCatalog.Store.Operation
import Mathlib.Tactic.Common
/-!
# What operations write

A single operation leaves the store as it was or makes one change, after it has looked at the keys and
at the rows that it names. What all such changes keep holds after every run: a transaction makes the
changes of its parts or none.
-/

namespace MediaCatalog

namespace Store

variable {s : Store} {r : Relation} {catalog media : String} {named added : List (String × String)}

/-! ## Transactions -/

section Transactions

variable {ε α : Type} {nested e : ε} {x : α} {body : Store → Except ε α × Store}

theorem atomically_eq_ok : (s.atomically nested body).1 = .ok x ↔
    s.inTransaction = false ∧ (body { s with inTransaction := true }).1 = .ok x := by
  unfold atomically
  cases s.inTransaction with
  | true => simp
  | false => rcases body { s with inTransaction := true } with ⟨_ | y, t⟩ <;> simp

theorem atomically_of_ok (h : (s.atomically nested body).1 = .ok x) :
    (s.atomically nested body).2 =
      { (body { s with inTransaction := true }).2 with inTransaction := false } := by
  obtain ⟨hout, hbody⟩ := atomically_eq_ok.1 h
  rw [atomically, if_neg (by simp [hout])]
  rcases hresult : body { s with inTransaction := true } with ⟨_ | y, t⟩
  · rw [hresult] at hbody
    cases hbody
  · rfl

theorem atomically_eq_error (h : s.inTransaction = false) : (s.atomically nested body).1 = .error e ↔
    (body { s with inTransaction := true }).1 = .error e := by
  rw [atomically, if_neg (by simp [h])]
  rcases body { s with inTransaction := true } with ⟨_ | y, t⟩ <;> simp

/-- A transaction that fails leaves nothing of what was done in it. -/
theorem atomically_of_error (h : (s.atomically nested body).1 = .error e) :
    (s.atomically nested body).2 = s := by
  unfold atomically at h ⊢
  split
  next => rfl
  next hout =>
    rw [if_neg hout] at h
    split
    next x t hbody =>
      rw [hbody] at h
      cases h
    next => rfl

theorem atomically_inside (h : s.inTransaction = true) :
    s.atomically nested body = (.error nested, s) := if_pos h

end Transactions

/-! ## Links -/

/-- Pairs of a media item and a thing of a kind, out of some pairs, that exist and are not linked. -/
structure Linkable (s : Store) (r : Relation) (named added : List (String × String)) : Prop where
  named : ∀ x ∈ added, x ∈ named
  hasItem : ∀ x ∈ added, s.hasItem x.1 = true
  hasEntity : ∀ x ∈ added, s.hasEntity r x.2 = true
  fresh : ∀ x ∈ added, s.link? r x.1 x.2 = none
  once : added.Nodup

/-- The links between the two of each pair. -/
def linksOf (r : Relation) (catalog : String) (added : List (String × String)) : List Link :=
  added.map fun x => ⟨r, catalog, x.1, x.2, none⟩

theorem link?_append {media' entity entity' : String} {l : Link}
    (hl : l.relation = r ∧ l.media = media ∧ l.entity = entity) :
    ({ s with links := s.links ++ [l] } : Store).link? r media' entity' = none ↔
      s.link? r media' entity' = none ∧ ¬(media = media' ∧ entity = entity') := by
  obtain ⟨rfl, rfl, rfl⟩ := hl
  simp [link?, List.find?_append]

/-- However far it comes, a list of pairs adds links for some of them. -/
theorem exists_addLinks : ∃ added, s.Linkable r named added ∧
    (s.addLinks r catalog named).2 = { s with links := s.links ++ linksOf r catalog added } := by
  induction named generalizing s with
  | nil => exact ⟨[], ⟨by simp, by simp, by simp, by simp, by simp⟩, by simp [addLinks, linksOf]⟩
  | cons x named ih =>
    obtain ⟨media, entity⟩ := x
    rw [addLinks, addLink]
    split
    next s' hok =>
      split at hok
      next hlinked =>
        cases hok
        obtain ⟨added, hadded, heq⟩ := @ih s
        exact ⟨added,
          { hadded with named := fun x hx => List.mem_cons_of_mem _ (hadded.named x hx) }, heq⟩
      next hfresh =>
        split at hok
        next hexist =>
          cases hok
          simp only [Bool.and_eq_true] at hexist
          simp only [Bool.not_eq_true, Option.isSome_eq_false_iff, Option.isNone_iff_eq_none] at hfresh
          -- The pair is linked from here on, so it is not added again.
          obtain ⟨added, hadded, heq⟩ :=
            @ih { s with links := s.links ++ [⟨r, catalog, media, entity, none⟩] }
          have hrest := fun x hx => (link?_append ⟨rfl, rfl, rfl⟩).1 (hadded.fresh x hx)
          refine ⟨(media, entity) :: added, ⟨?_, ?_, ?_, ?_, ?_⟩, ?_⟩
          · exact List.cons_subset.2 ⟨List.mem_cons_self,
              fun x hx => List.mem_cons_of_mem _ (hadded.named x hx)⟩
          · exact List.forall_mem_cons.2 ⟨hexist.1, hadded.hasItem⟩
          · exact List.forall_mem_cons.2 ⟨hexist.2, hadded.hasEntity⟩
          · exact List.forall_mem_cons.2 ⟨hfresh, fun x hx => (hrest x hx).1⟩
          · exact List.nodup_cons.2 ⟨fun hx => (hrest _ hx).2 ⟨rfl, rfl⟩, hadded.once⟩
          · rw [heq]
            simp [linksOf]
        next => cases hok
    next => exact ⟨[], ⟨by simp, by simp, by simp, by simp, by simp⟩, by simp [linksOf]⟩

/-- Links that are replaced are taken away before others are added. -/
theorem exists_linkable_setRelations {entities : List String}
    (h : (s.setRelations r catalog media entities).1 = .ok ()) :
    ∃ added, (s.clearRelations r media).Linkable r (pairs [media] entities) added ∧
      (s.setRelations r catalog media entities).2 =
        { s with links := (s.clearRelations r media).links ++ linksOf r catalog added } := by
  obtain ⟨hout, -⟩ := atomically_eq_ok.1 h
  obtain ⟨added, hadded, hlinks⟩ := @exists_addLinks
    (({ s with inTransaction := true } : Store).clearRelations r media) r catalog
    (pairs [media] entities)
  refine ⟨added, ⟨hadded.1, hadded.2, hadded.3, hadded.4, hadded.5⟩, ?_⟩
  rw [setRelations, atomically_of_ok h, addRelations, hlinks, ← hout]
  rfl

/-- Links are replaced together or not at all. -/
theorem exists_setRelations {entities : List String} :
    (s.setRelations r catalog media entities).2 = s ∨
      ∃ added, (s.clearRelations r media).Linkable r (pairs [media] entities) added ∧
        (s.setRelations r catalog media entities).2 =
          { s with links := (s.clearRelations r media).links ++ linksOf r catalog added } := by
  cases hset : (s.setRelations r catalog media entities).1 with
  | error e => exact .inl (atomically_of_error hset)
  | ok => exact .inr (exists_linkable_setRelations hset)

end Store

/-! ## Single operations -/

namespace Operation

/-- An operation that is not made of others. -/
def IsSingle : Operation → Prop
  | transaction .. => False
  | _ => True

/-- What a single operation can make of a store. It is refused, or has looked at what it depends on. -/
inductive Changes (s : Store) : Operation → Store → Prop
  | nothing {op : Operation} : Changes s op s
  | createUser {email name : String} : s.hasUser email = false →
      Changes s (.createUser email name) { s with users := s.users ++ [⟨email, name⟩] }
  | createCatalog {id name : String} : s.hasCatalog id = false →
      Changes s (.createCatalog id name) { s with catalogs := s.catalogs ++ [⟨id, name⟩] }
  | grant {user catalog : String} {writable : Bool} :
      Changes s (.grant user catalog writable)
        { s with grants := (s.grants.filter fun g => !(g.user = user && g.catalog = catalog))
          ++ [⟨user, catalog, writable⟩] }
  | createEntity {e : Entity} : s.hasEntity e.relation e.id = false →
      e.parent.all (s.hasEntity e.relation) = true →
      Changes s (.createEntity e) { s with entities := s.entities ++ [e] }
  | setParent {h : Hierarchy} {id : String} {parent : Option String} :
      Changes s (.setParent h id parent) (s.setParent h id parent).2
  | createMedia {id catalog now : String} {m : Metadata} : s.hasItem id = false →
      Changes s (.createMedia id catalog now m)
        { s with items := s.items ++ [⟨id, catalog, now, now, false, m.stored⟩] }
  | updateMedia {id now : String} {m : Metadata} :
      Changes s (.updateMedia id now m) (s.updateMedia id now m).2
  | deleteMedia {id now : String} : Changes s (.deleteMedia id now) (s.deleteMedia id now).2
  | addFile {id media : String} {uploaded : Time.Instant} {details : FileDetails} {m : Metadata} :
      s.hasFile id = false → s.hasItem media = true →
      Changes s (.addFile id media uploaded details m)
        { s with files := s.files ++
          [⟨id, media, uploaded.stored, s.nextVersion media, details.stored, m.stored⟩] }
  | addRelations {r : Relation} {catalog : String} {media entities : List String}
      {added : List (String × String)} : s.Linkable r (Store.pairs media entities) added →
      Changes s (.addRelations r catalog media entities)
        { s with links := s.links ++ Store.linksOf r catalog added }
  | removeRelations {r : Relation} {media entities : List String} :
      Changes s (.removeRelations r media entities) (s.removeRelations r media entities)
  | setRelations {r : Relation} {catalog media : String} {entities : List String}
      {added : List (String × String)} :
      (s.clearRelations r media).Linkable r (Store.pairs [media] entities) added →
      Changes s (.setRelations r catalog media entities)
        { s with links := (s.clearRelations r media).links ++ Store.linksOf r catalog added }
  | setLocation {media person : String} {location : Option Location} :
      Changes s (.setLocation media person location) (s.setPersonLocation media person location).2
  | createSearch {x : SavedSearch} : s.hasSearch x.id = false →
      Changes s (.createSearch x) { s with searches := s.searches ++ [x.stored] }
  | insertSearch {x : StoredSearch} : s.hasSearch x.id = false →
      Changes s (.insertSearch x) { s with searches := s.searches ++ [x] }
  | updateSearch {id name : String} {q : Query} {shared : Bool} :
      Changes s (.updateSearch id name q shared) (s.updateSearch id name q shared).2
  | deleteSearch {id : String} : Changes s (.deleteSearch id) (s.deleteSearch id).2

variable {s : Store} {op : Operation}

section

variable {ε α : Type} {taken exist : Bool} {x y : α} {e e' : ε}

theorem unless_eq_ok : (if taken then .error e else .ok x : Except ε α) = .ok y ↔
    taken = false ∧ x = y := by
  cases taken <;> simp

theorem guarded_eq_ok : (if taken then .error e else if exist then .ok x else .error e' : Except ε α) =
    .ok y ↔ taken = false ∧ exist = true ∧ x = y := by
  cases taken <;> cases exist <;> simp

end

theorem changes_made {made? : Except StoreError Store}
    (h : ∀ s', made? = .ok s' → op.Changes s s') : op.Changes s (made s made?).2 := by
  cases made? with
  | ok s' => exact h s' rfl
  | error => exact .nothing

theorem changes_apply (h : op.IsSingle) : op.Changes s (op.apply s).2 := by
  cases op with
  | createUser =>
    refine changes_made fun s' hok => ?_
    obtain ⟨hnew, rfl⟩ := unless_eq_ok.1 hok
    exact .createUser hnew
  | createCatalog =>
    refine changes_made fun s' hok => ?_
    obtain ⟨hnew, rfl⟩ := unless_eq_ok.1 hok
    exact .createCatalog hnew
  | grant =>
    refine changes_made fun s' hok => ?_
    unfold Store.grant at hok
    split at hok
    · cases hok
      exact .grant
    · cases hok
  | createEntity =>
    refine changes_made fun s' hok => ?_
    obtain ⟨hnew, hexist, rfl⟩ := guarded_eq_ok.1 hok
    exact .createEntity hnew (Bool.and_eq_true_iff.1 hexist).2
  | setParent => exact .setParent
  | createMedia =>
    refine changes_made fun s' hok => ?_
    obtain ⟨hnew, -, rfl⟩ := guarded_eq_ok.1 hok
    exact .createMedia hnew
  | updateMedia => exact .updateMedia
  | deleteMedia => exact .deleteMedia
  | addFile =>
    refine changes_made fun s' hok => ?_
    obtain ⟨hnew, hexist, rfl⟩ := guarded_eq_ok.1 hok
    exact .addFile hnew hexist
  | addRelations r catalog media entities =>
    obtain ⟨added, hadded, heq⟩ := @Store.exists_addLinks s r catalog (Store.pairs media entities)
    have hchanges := @Changes.addRelations s r catalog media entities added hadded
    rwa [← heq] at hchanges
  | removeRelations => exact .removeRelations
  | setRelations r catalog media entities =>
    rcases @Store.exists_setRelations s r catalog media entities with heq | ⟨added, hadded, heq⟩
    · rw [apply, tried, heq]
      exact .nothing
    · have hchanges := @Changes.setRelations s r catalog media entities added hadded
      rwa [← heq] at hchanges
  | setLocation => exact .setLocation
  | createSearch =>
    refine changes_made fun s' hok => ?_
    obtain ⟨hnew, -, rfl⟩ := guarded_eq_ok.1 hok
    exact .createSearch hnew
  | insertSearch =>
    refine changes_made fun s' hok => ?_
    obtain ⟨hnew, -, rfl⟩ := guarded_eq_ok.1 hok
    exact .insertSearch hnew
  | updateSearch => exact .updateSearch
  | deleteSearch => exact .deleteSearch
  | transaction => exact h.elim

/-! ## Runs -/

/-- What comes of a transaction: that of its parts, or nothing if it is given up or stands in another. -/
theorem apply_transaction {parts : List Operation} {keep : Bool} :
    ((transaction parts keep).apply s).2 =
      if s.inTransaction = false ∧ keep = true then
        { applyAll { s with inTransaction := true } parts with inTransaction := false }
      else s := by
  rw [apply, Store.atomically]
  cases s.inTransaction <;> cases keep <;> rfl

mutual

/-- Each single operation that is carried out and not given up meets a condition, in the store in which
it is carried out. -/
def Along (C : Store → Operation → Prop) (s : Store) : Operation → Prop
  | transaction parts keep =>
    s.inTransaction = false → keep = true → AllAlong C { s with inTransaction := true } parts
  | op => C s op

def AllAlong (C : Store → Operation → Prop) (s : Store) : List Operation → Prop
  | [] => True
  | op :: ops => op.Along C s ∧ AllAlong C (op.apply s).2 ops

end

mutual

theorem along_of_forall {C : Store → Operation → Prop} (h : ∀ s op, C s op) {s : Store}
    {op : Operation} : op.Along C s := by
  cases op with
  | transaction parts keep => exact fun _ _ => allAlong_of_forall h
  | _ => exact h s _

theorem allAlong_of_forall {C : Store → Operation → Prop} (h : ∀ s op, C s op) {s : Store}
    {ops : List Operation} : AllAlong C s ops := by
  cases ops with
  | nil => trivial
  | cons op ops => exact ⟨along_of_forall h, allAlong_of_forall h⟩

end

/-- What holds of a store goes on to hold through the changes of operations that meet a condition. -/
structure Kept (C : Store → Operation → Prop) (I : Store → Prop) : Prop where
  changes : ∀ {s op s'}, op.Changes s s' → C s op → I s → I s'
  flag : ∀ {s b}, I s → I { s with inTransaction := b }

variable {C D : Store → Operation → Prop} {I : Store → Prop} {ops : List Operation}

theorem Kept.imp (h : Kept D I) (himp : ∀ s op, C s op → D s op) : Kept C I :=
  ⟨fun hchanges hop => h.changes hchanges (himp _ _ hop), h.flag⟩

mutual

theorem Kept.apply {s : Store} {op : Operation} (hkept : Kept C I) (hop : op.Along C s) (h : I s) :
    I (op.apply s).2 := by
  cases op with
  | transaction parts keep =>
    rw [apply_transaction]
    split
    next hdone => exact hkept.flag (hkept.applyAll (hop hdone.1 hdone.2) (hkept.flag h))
    next => exact h
  | _ => exact hkept.changes (changes_apply trivial) hop h

theorem Kept.applyAll {s : Store} {ops : List Operation} (hkept : Kept C I) (hops : AllAlong C s ops)
    (h : I s) : I (applyAll s ops) := by
  cases ops with
  | nil => exact h
  | cons op ops =>
    rw [Operation.applyAll]
    exact hkept.applyAll hops.2 (hkept.apply hops.1 h)

end

end Operation

namespace Store

/-- What becomes of a store through operations that meet a condition, at any time: a transaction may be
under way, and is kept at its end. What was given up has left no trace. -/
inductive Later (C : Store → Operation → Prop) (s : Store) : Store → Prop
  | refl : Later C s s
  | operation {t : Store} {op : Operation} : Later C s t → op.Along C t → Later C s (op.apply t).2
  | opening {t : Store} : Later C s t → t.inTransaction = false →
      Later C s { t with inTransaction := true }
  | commit {t : Store} : Later C s t → Later C s { t with inTransaction := false }

variable {C : Store → Operation → Prop} {s t : Store}

/-- A history that meets a condition makes a later store. -/
theorem Later.applyAll {ops : List Operation} (hlater : s.Later C t)
    (hops : Operation.AllAlong C t ops) : s.Later C (Operation.applyAll t ops) := by
  induction ops generalizing t with
  | nil => exact hlater
  | cons op ops ih =>
    rw [Operation.applyAll]
    exact ih (hlater.operation hops.1) hops.2

/-- Any history makes a later store of the empty one. -/
theorem later_after {history : List Operation} : empty.Later (fun _ _ => True) (after history) :=
  Later.refl.applyAll (Operation.allAlong_of_forall fun _ _ => trivial)

theorem Later.kept {I : Store → Prop} (hlater : s.Later C t) (hkept : Operation.Kept C I) (h : I s) :
    I t := by
  induction hlater with
  | refl => exact h
  | operation _ hop ih => exact hkept.apply hop ih
  | opening _ _ ih => exact hkept.flag ih
  | commit _ ih => exact hkept.flag ih

end Store

end MediaCatalog
