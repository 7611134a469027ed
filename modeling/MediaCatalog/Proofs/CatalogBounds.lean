import MediaCatalog.Proofs.Answers
import MediaCatalog.Proofs.Keys
import MediaCatalog.Proofs.Listings
/-!
# Bounds of catalogs

No operation looks at the catalogs of what it joins. Where callers join only things of one catalog,
what is shown of a catalog belongs to it, and so do the parents of its albums and tags.
-/

namespace MediaCatalog

namespace Store

/-! ## Stores without crossings -/

/-- No link and no parent joins rows of two catalogs. -/
structure IsApart (s : Store) : Prop where
  links : ∀ l ∈ s.links, ∀ i ∈ s.items, i.id = l.media →
    ∀ e ∈ s.entities, e.relation = l.relation → e.id = l.entity → e.catalog = i.catalog
  parents : ∀ e ∈ s.entities, ∀ e' ∈ s.entities, e'.relation = e.relation → e.parent = some e'.id →
    e'.catalog = e.catalog

/-- No row names another that does not exist, and none is joined to one of another catalog. -/
structure IsBounded (s : Store) : Prop where
  hasItem : ∀ l ∈ s.links, s.hasItem l.media = true
  hasEntity : ∀ l ∈ s.links, s.hasEntity l.relation l.entity = true
  hasParent : ∀ e ∈ s.entities, ∀ p, e.parent = some p → s.hasEntity e.relation p = true
  apart : s.IsApart

/-- The media item and the thing of each pair, where both exist, have one catalog. -/
def ShareCatalog (s : Store) (r : Relation) (named : List (String × String)) : Prop :=
  ∀ x ∈ named, ∀ i ∈ s.items, i.id = x.1 → ∀ e ∈ s.entities, e.relation = r → e.id = x.2 →
    e.catalog = i.catalog

end Store

/-- The operation does not name things of two catalogs to be joined, and does not move any thing in its
hierarchy. -/
def Operation.StaysHome (s : Store) : Operation → Prop
  | addRelations r _ media entities => s.ShareCatalog r (Store.pairs media entities)
  | setRelations r _ media entities => s.ShareCatalog r (Store.pairs [media] entities)
  | createEntity e => ∀ e' ∈ s.entities, e'.relation = e.relation → e.parent = some e'.id →
      e'.catalog = e.catalog
  | setParent .. => False
  | _ => True

namespace Store

/-! ## Operations -/

variable {s : Store} {r : Relation} {catalog id : String} {named added : List (String × String)}
  {e : Entity}

theorem IsBounded.addLinks (h : s.IsBounded) (hadded : s.Linkable r named added)
    (hshare : s.ShareCatalog r named) :
    IsBounded { s with links := s.links ++ linksOf r catalog added } := by
  have hnew : ∀ l ∈ linksOf r catalog added, ∃ x ∈ added,
      l.relation = r ∧ l.media = x.1 ∧ l.entity = x.2 := by
    intro l hl
    obtain ⟨x, hx, rfl⟩ := List.mem_map.1 hl
    exact ⟨x, hx, rfl, rfl, rfl⟩
  refine ⟨?_, ?_, h.hasParent, ?_, h.apart.parents⟩
  · intro l hl
    rcases List.mem_append.1 hl with hl | hl
    · exact h.hasItem l hl
    · obtain ⟨x, hx, -, hmedia, -⟩ := hnew l hl
      rw [hmedia]
      exact hadded.hasItem x hx
  · intro l hl
    rcases List.mem_append.1 hl with hl | hl
    · exact h.hasEntity l hl
    · obtain ⟨x, hx, hrelation, -, hentity⟩ := hnew l hl
      rw [hrelation, hentity]
      exact hadded.hasEntity x hx
  · intro l hl i hi hid e he hrelation hentity
    rcases List.mem_append.1 hl with hl | hl
    · exact h.apart.links l hl i hi hid e he hrelation hentity
    · obtain ⟨x, hx, hr, hmedia, hx2⟩ := hnew l hl
      exact hshare x (hadded.named x hx) i hi (hid.trans hmedia) e he (hrelation.trans hr)
        (hentity.trans hx2)

theorem IsBounded.filterLinks (h : s.IsBounded) (p : Link → Bool) :
    IsBounded { s with links := s.links.filter p } where
  hasItem l hl := h.hasItem l (List.mem_filter.1 hl).1
  hasEntity l hl := h.hasEntity l (List.mem_filter.1 hl).1
  hasParent := h.hasParent
  apart := ⟨fun l hl => h.apart.links l (List.mem_filter.1 hl).1, h.apart.parents⟩

/-- Bounds do not hang on where a person appears. -/
theorem IsBounded.mapLinks (h : s.IsBounded) {f : Link → Link} (hkey : ∀ l, (f l).key = l.key) :
    IsBounded { s with links := s.links.map f } := by
  have hfrom : ∀ l ∈ s.links.map f, ∃ l' ∈ s.links,
      l'.relation = l.relation ∧ l'.media = l.media ∧ l'.entity = l.entity := by
    intro l hl
    obtain ⟨l', hl', rfl⟩ := List.mem_map.1 hl
    have hsame := hkey l'
    simp only [Link.key, Prod.mk.injEq] at hsame
    exact ⟨l', hl', hsame.1.symm, hsame.2.1.symm, hsame.2.2.symm⟩
  refine ⟨?_, ?_, h.hasParent, ?_, h.apart.parents⟩
  · intro l hl
    obtain ⟨l', hl', -, hmedia, -⟩ := hfrom l hl
    rw [← hmedia]
    exact h.hasItem l' hl'
  · intro l hl
    obtain ⟨l', hl', hrelation, -, hentity⟩ := hfrom l hl
    rw [← hrelation, ← hentity]
    exact h.hasEntity l' hl'
  · intro l hl i hi hid e he hr hentity'
    obtain ⟨l', hl', hrelation, hmedia, hentity⟩ := hfrom l hl
    exact h.apart.links l' hl' i hi (hid.trans hmedia.symm) e he (hr.trans hrelation.symm)
      (hentity'.trans hentity.symm)

/-- Bounds do not hang on what is said of media items. -/
theorem IsBounded.changeLive (h : s.IsBounded) {change : MediaItem → MediaItem}
    (hid : ∀ i, (change i).id = i.id) (hcatalog : ∀ i, (change i).catalog = i.catalog) :
    (s.changeLive id change).2.IsBounded := by
  rw [Store.changeLive]
  generalize hf : (fun i : MediaItem => if (i.id = id && !i.deleted) = true then change i else i) = f
  have hsame : ∀ i, (f i).id = i.id ∧ (f i).catalog = i.catalog := by
    intro i
    subst hf
    dsimp only
    split
    · exact ⟨hid i, hcatalog i⟩
    · exact ⟨rfl, rfl⟩
  refine ⟨?_, h.hasEntity, h.hasParent, ?_, h.apart.parents⟩
  · intro l hl
    obtain ⟨i, hi, hmedia⟩ := hasItem_iff.1 (h.hasItem l hl)
    exact hasItem_iff.2 ⟨f i, List.mem_map_of_mem hi, (hsame i).1.trans hmedia⟩
  · intro l hl i hi hmedia e he hrelation hentity
    obtain ⟨j, hj, rfl⟩ := List.mem_map.1 hi
    rw [(hsame j).2]
    exact h.apart.links l hl j hj ((hsame j).1.symm.trans hmedia) e he hrelation hentity

theorem IsBounded.createMedia (h : s.IsBounded) {i : MediaItem} (hnew : s.hasItem i.id = false) :
    IsBounded { s with items := s.items ++ [i] } := by
  refine ⟨?_, h.hasEntity, h.hasParent, ?_, h.apart.parents⟩
  · exact fun l hl => hasItem_append (h.hasItem l hl)
  · intro l hl j hj hmedia e he hrelation hentity
    rcases List.mem_append.1 hj with hj | hj
    · exact h.apart.links l hl j hj hmedia e he hrelation hentity
    · -- Links name items that exist, so none names the new one.
      obtain rfl := List.mem_singleton.1 hj
      have hthere := h.hasItem l hl
      rw [← hmedia, hnew] at hthere
      cases hthere

theorem IsBounded.createEntity (h : s.IsBounded) (hnew : s.hasEntity e.relation e.id = false)
    (hparent : e.parent.all (s.hasEntity e.relation) = true)
    (hhome : (Operation.createEntity e).StaysHome s) :
    IsBounded { s with entities := s.entities ++ [e] } := by
  have hparent' : ∀ p, e.parent = some p → s.hasEntity e.relation p = true := by
    intro p hp
    rwa [hp] at hparent
  -- What is named exists, so it is not the new thing.
  have hother : ∀ r id, s.hasEntity r id = true → ¬(e.relation = r ∧ e.id = id) := by
    rintro _ _ hthere ⟨rfl, rfl⟩
    rw [hnew] at hthere
    cases hthere
  refine ⟨h.hasItem, fun l hl => hasEntity_append (h.hasEntity l hl), ?_, ?_, ?_⟩
  · intro e' he' p hp
    rcases List.mem_append.1 he' with he' | he'
    · exact hasEntity_append (h.hasParent e' he' p hp)
    · obtain rfl := List.mem_singleton.1 he'
      exact hasEntity_append (hparent' p hp)
  · intro l hl i hi hmedia e' he' hrelation hentity
    rcases List.mem_append.1 he' with he' | he'
    · exact h.apart.links l hl i hi hmedia e' he' hrelation hentity
    · obtain rfl := List.mem_singleton.1 he'
      exact absurd ⟨hrelation, hentity⟩ (hother _ _ (h.hasEntity l hl))
  · intro a ha b hb hrelation hp
    rcases List.mem_append.1 ha with hold | hnewest <;>
      rcases List.mem_append.1 hb with hold' | hnewest'
    · exact h.apart.parents a hold b hold' hrelation hp
    · obtain rfl := List.mem_singleton.1 hnewest'
      exact absurd ⟨hrelation, rfl⟩ (hother _ _ (h.hasParent a hold _ hp))
    · obtain rfl := List.mem_singleton.1 hnewest
      exact hhome b hold' hrelation hp
    · obtain rfl := List.mem_singleton.1 hnewest
      obtain rfl := List.mem_singleton.1 hnewest'
      exact absurd ⟨rfl, rfl⟩ (hother _ _ (hparent' _ hp))

/-- What callers do not join stays apart. -/
theorem kept_isBounded : Operation.Kept Operation.StaysHome IsBounded where
  flag h := ⟨h.hasItem, h.hasEntity, h.hasParent, h.apart.1, h.apart.2⟩
  changes {s op s'} hchanges hhome h := by
    cases hchanges with
    | createEntity hnew hparent => exact h.createEntity hnew hparent hhome
    | setParent => exact hhome.elim
    | createMedia hnew => exact h.createMedia hnew
    | updateMedia | deleteMedia => exact h.changeLive (fun _ => rfl) (fun _ => rfl)
    | addRelations hadded => exact h.addLinks hadded hhome
    | removeRelations => exact h.filterLinks _
    | setRelations hadded => exact (h.filterLinks _).addLinks hadded hhome
    | setLocation => exact h.mapLinks fun l => by split <;> rfl
    | _ => exact ⟨h.hasItem, h.hasEntity, h.hasParent, h.apart.1, h.apart.2⟩

theorem Later.isBounded (h : empty.Later Operation.StaysHome s) : s.IsBounded :=
  h.kept kept_isBounded
    ⟨fun _ hl => (nomatch hl), fun _ hl => (nomatch hl), fun _ he => (nomatch he),
      fun _ hl => (nomatch hl), fun _ he => (nomatch he)⟩

end Store

/-! ## Rows -/

/-- All that a row shows is of one catalog. -/
structure MediaRow.IsAt (shown : MediaRow) (catalog : String) : Prop where
  item : shown.catalog = catalog
  albums : ∀ e ∈ shown.albums, e.catalog = catalog
  tags : ∀ e ∈ shown.tags, e.catalog = catalog
  people : ∀ a ∈ shown.people, a.person.catalog = catalog

namespace Store

variable {s : Store} {r : Relation} {catalog id : String} {p : Predicate} {row : ViewRow}
  {shown : MediaRow} {rows : List MediaRow}

/-- What an item is linked to is of its catalog. -/
theorem IsApart.linked (h : s.IsApart) (hrow : row ∈ s.view catalog) {x : Entity × Link}
    (hx : x ∈ s.linked r row.id) : x.1.catalog = catalog := by
  obtain ⟨i, hi, ⟨-, rfl⟩, rfl⟩ := mem_view.1 hrow
  obtain ⟨hl, hr, hmedia, hentity⟩ := mem_linked.1 hx
  obtain ⟨he, hrelation, hid⟩ := mem_of_entity? hentity
  exact h.links x.2 hl i hi hmedia.symm x.1 he (hrelation.trans hr.symm) hid

theorem IsApart.readRow (h : s.IsApart) (hrow : row ∈ s.view catalog)
    (hshown : s.readRow row = .ok shown) : shown.IsAt catalog := by
  obtain ⟨i, -, ⟨-, hcatalog⟩, rfl⟩ := mem_view.1 hrow
  have hlinked : ∀ r, ∀ e ∈ (s.linked r i.id).map (·.1), e.catalog = catalog := by
    intro r e he
    obtain ⟨x, hx, rfl⟩ := List.mem_map.1 he
    exact h.linked hrow hx
  have hpeople : ∀ a ∈ shown.people, a.person.catalog = catalog := by
    intro a ha
    obtain ⟨x, hx, hread⟩ := exists_of_mem_people hshown ha
    rw [(readAppearance_eq_ok.1 hread).1]
    exact h.linked hrow hx
  simp only [Store.readRow, bind_eq_ok, pure, Except.pure, Except.ok.injEq] at hshown
  obtain ⟨_, -, _, -, _, -, _, -, _, -, rfl⟩ := hshown
  exact ⟨hcatalog, hlinked .album, hlinked .tag, hpeople⟩

/-- A row that is shown is read from one of the view. -/
theorem exists_of_queryMedia (h : s.queryMedia catalog p = .ok rows) (hshown : shown ∈ rows) :
    ∃ row ∈ s.view catalog, s.readRow row = .ok shown := by
  obtain ⟨row, hrow, hread⟩ := exists_of_forall₂ (mapM_eq_ok.1 (select_of_queryMedia h).2) hshown
  rw [select, List.mem_mergeSort, List.mem_filter] at hrow
  exact ⟨row, hrow.1, hread⟩

end Store

namespace SearchService

variable {service : SearchService} {caller catalog : String} {q : Query} {rows : List MediaRow}

theorem isAt_of_search (hapart : service.store.IsApart)
    (h : service.search caller catalog q = .ok rows) : ∀ shown ∈ rows, shown.IsAt catalog := by
  intro shown hshown
  obtain ⟨p, -, hp⟩ := exists_of_search h
  obtain ⟨row, hrow, hread⟩ := Store.exists_of_queryMedia hp hshown
  exact hapart.readRow hrow hread

/-- Where callers have joined only things of one catalog, and moved none in its hierarchy, what is shown
of a catalog belongs to it, and each parent exists and is of its child's catalog. -/
theorem isAt_later (service : SearchService)
    (hhome : Store.empty.Later Operation.StaysHome service.store) :
    (∀ caller catalog rows, service.Answers caller catalog (.ok rows) →
        ∀ shown ∈ rows, shown.IsAt catalog) ∧
      (∀ caller album recursive rows, service.listAlbum caller album recursive = .ok rows →
        ∃ home, service.store.entityCatalog? .album album = some home ∧
          ∀ shown ∈ rows, shown.IsAt home) ∧
      ∀ e ∈ service.store.entities, ∀ parent, e.parent = some parent →
        service.store.entityCatalog? e.relation parent = some e.catalog := by
  have hbounded := hhome.isBounded
  refine ⟨?_, ?_, ?_⟩
  · intro caller catalog rows hanswer
    obtain ⟨q, hq⟩ := hanswer.exists_search
    exact isAt_of_search hbounded.apart hq.symm
  · intro caller album recursive rows hrows
    obtain ⟨home, hhome, hsearch⟩ := exists_of_listAlbum hrows
    exact ⟨home, hhome, isAt_of_search hbounded.apart hsearch⟩
  · intro e he parent hparent
    obtain ⟨e', he'⟩ := Option.isSome_iff_exists.1 (hbounded.hasParent e he parent hparent)
    obtain ⟨hmem, hrelation, rfl⟩ := Store.mem_of_entity? he'
    rw [Store.entityCatalog?, he', Option.map_some]
    exact congrArg some (hbounded.apart.parents e he e' hmem hrelation hparent)

/-- A media item at home, and what comes after it. -/
def oneAtHome (others : List Operation) : List Operation :=
  [.createUser "owner@example.com" "Owner", .createCatalog "home" "Home", .createCatalog "work" "Work",
    .grant "owner@example.com" "home" false,
    .createMedia "one" "home" "2020-01-01T00:00:00.000Z" .empty] ++ others

/-- It is linked to an album below another. -/
def atTheBeach : List Operation :=
  oneAtHome [.createEntity ⟨.album, "summer", "home", none, "Summer"⟩,
    .createEntity ⟨.album, "beach", "home", some "summer", "Beach"⟩,
    .addRelations .album "home" ["one"] ["beach"]]

theorem isAt_later_atTheBeach :
    Store.empty.Later Operation.StaysHome (.after atTheBeach) ∧
      (∀ rows, (ofStore (.after atTheBeach)).listCatalog "owner@example.com" "home" = .ok rows →
        ∀ shown ∈ rows, shown.IsAt "home") ∧
      (Store.after atTheBeach).entityCatalog? .album "summer" = some "home" := by
  have hhome : Operation.AllAlong Operation.StaysHome .empty atTheBeach := by
    refine ⟨trivial, trivial, trivial, trivial, trivial, ?_, ?_, ?_, trivial⟩
    · intro e he
      cases he
    · unfold Operation.Along Operation.StaysHome
      decide
    · unfold Operation.Along Operation.StaysHome Store.ShareCatalog
      decide
  have hlater : Store.empty.Later Operation.StaysHome (.after atTheBeach) :=
    Store.Later.refl.applyAll hhome
  obtain ⟨hrows, -, hparents⟩ := isAt_later (ofStore (.after atTheBeach)) hlater
  refine ⟨hlater, ?_, ?_⟩
  · intro rows hlist
    refine hrows "owner@example.com" "home" rows ?_
    rw [← hlist]
    exact .listCatalog
  · exact hparents ⟨.album, "beach", "home", some "summer", "Beach"⟩ (by decide) "summer" rfl

/-- It is linked to an album of another catalog, below which there is one at home. -/
def linkedAbroad : List Operation :=
  oneAtHome [.createEntity ⟨.album, "secret", "work", none, "Secret"⟩,
    .createEntity ⟨.album, "beach", "home", some "secret", "Beach"⟩,
    .addRelations .album "home" ["one"] ["secret"]]

/-- Nothing refuses what joins two catalogs: the only row of a listing shows an album of another, and an
album has a parent there. -/
theorem listCatalog_linkedAbroad :
    (∀ op ∈ linkedAbroad, ∀ h id parent, op ≠ .setParent h id parent) ∧
      (∃ rows, (ofStore (.after linkedAbroad)).listCatalog "owner@example.com" "home" = .ok rows ∧
        (rows.map fun shown => shown.albums.map (·.catalog)) = [["work"]]) ∧
      ∃ e ∈ (Store.after linkedAbroad).entities, e.catalog = "home" ∧ e.parent = some "secret" ∧
        (Store.after linkedAbroad).entityCatalog? e.relation "secret" = some "work" := by
  refine ⟨?_, ?_, ⟨.album, "beach", "home", some "secret", "Beach"⟩, by decide, rfl, rfl, by decide⟩
  · simp [linkedAbroad, oneAtHome]
  · have halbums : ((ofStore (.after linkedAbroad)).listCatalog "owner@example.com" "home").toOption.map
        (·.map fun shown => shown.albums.map (·.catalog)) = some [["work"]] := by
      decide +kernel
    cases hlist : (ofStore (.after linkedAbroad)).listCatalog "owner@example.com" "home" with
    | error e =>
      rw [hlist] at halbums
      cases halbums
    | ok rows =>
      rw [hlist] at halbums
      exact ⟨rows, rfl, Option.some.inj halbums⟩

end SearchService

end MediaCatalog
