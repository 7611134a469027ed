import MediaCatalog.Proofs.Replacement
/-!
# Links that are added in turn

Links are added pair by pair, item by item, and no transaction holds the pairs together. The first pair
of which something does not exist ends it, and the links of the pairs before it stay.
-/

namespace MediaCatalog.Store

/-- The pairs before the first that cannot be linked. -/
def reached (s : Store) (r : Relation) (named : List (String × String)) : List (String × String) :=
  named.takeWhile fun x => s.isLinked r x.1 x.2 || s.hasItem x.1 && s.hasEntity r x.2

/-- The pairs that are not linked, each once. -/
def unlinked (s : Store) (r : Relation) (named : List (String × String)) : List (String × String) :=
  (named.filter fun x => !s.isLinked r x.1 x.2).eraseDups

/-- The store with a link, which has no location, for each of the pairs that had none. -/
def withLinks (s : Store) (r : Relation) (catalog : String) (named : List (String × String)) : Store :=
  { s with links := s.links ++ linksOf r catalog (s.unlinked r named) }

variable {s t : Store} {r : Relation} {catalog : String} {x : String × String}
  {named : List (String × String)} {items entities : List String} {l : Link}

/-! ## Pairs -/

theorem canLink_iff : s.CanLink r x.1 x.2 ↔
    (s.isLinked r x.1 x.2 || s.hasItem x.1 && s.hasEntity r x.2) = true := by
  rw [CanLink, Bool.or_eq_true, Bool.and_eq_true]

theorem reached_eq_self : s.reached r named = named ↔ ∀ x ∈ named, s.CanLink r x.1 x.2 := by
  simp only [canLink_iff]
  exact List.takeWhile_eq_self_iff

theorem reached_cons_of_canLink (h : s.CanLink r x.1 x.2) :
    s.reached r (x :: named) = x :: s.reached r named :=
  List.takeWhile_cons_of_pos (canLink_iff.1 h)

theorem reached_cons_of_not_canLink (h : ¬s.CanLink r x.1 x.2) : s.reached r (x :: named) = [] :=
  List.takeWhile_cons_of_neg fun hcan => h (canLink_iff.2 hcan)

/-- A pair that is linked changes nothing in what can be linked. -/
theorem reached_of_addLink (h : s.addLink r catalog x.1 x.2 = .ok t) :
    t.reached r named = s.reached r named := by
  unfold reached
  congr 1
  funext y
  rw [Bool.eq_iff_iff, ← canLink_iff, ← canLink_iff]
  exact canLink_of_addLink h

/-- What is not reached begins with a pair that cannot be linked. -/
theorem exists_of_reached_ne (h : s.reached r named ≠ named) :
    ∃ x after, named = s.reached r named ++ x :: after ∧ ¬s.CanLink r x.1 x.2 := by
  induction named with
  | nil => exact absurd rfl h
  | cons x named ih =>
    by_cases hcan : s.CanLink r x.1 x.2
    · rw [reached_cons_of_canLink hcan] at h ⊢
      obtain ⟨y, after, hsplit, hcannot⟩ := ih fun hall => h (by rw [hall])
      exact ⟨y, after, by rw [List.cons_append, ← hsplit], hcannot⟩
    · rw [reached_cons_of_not_canLink hcan]
      exact ⟨x, named, rfl, hcan⟩

theorem mem_unlinked : x ∈ s.unlinked r named ↔ x ∈ named ∧ s.isLinked r x.1 x.2 = false := by
  simp [unlinked, List.mem_eraseDups]

theorem unlinked_eq_nil : s.unlinked r named = [] ↔ ∀ x ∈ named, s.isLinked r x.1 x.2 = true := by
  simp [List.eq_nil_iff_forall_not_mem, mem_unlinked]

theorem unlinked_cons_of_isLinked (h : s.isLinked r x.1 x.2 = true) :
    s.unlinked r (x :: named) = s.unlinked r named := by
  rw [unlinked, List.filter_cons_of_neg (by simp [h]), unlinked]

/-- A pair that is linked first is not linked again. -/
theorem unlinked_cons_of_not_isLinked (h : s.isLinked r x.1 x.2 = false) :
    s.unlinked r (x :: named) =
      x :: ({ s with links := s.links ++ linksOf r catalog [x] } : Store).unlinked r named := by
  have hlinked : ∀ y : String × String,
      ({ s with links := s.links ++ linksOf r catalog [x] } : Store).isLinked r y.1 y.2 =
        (s.isLinked r y.1 y.2 || y == x) := by
    intro y
    rw [Bool.eq_iff_iff, isLinked_linksOf]
    simp
  rw [unlinked, List.filter_cons_of_pos (by simp [h]), List.eraseDups_cons, unlinked,
    List.filter_filter]
  simp only [hlinked, Bool.not_or, Bool.and_comm]

/-! ## Links -/

theorem mem_linksOf : l ∈ linksOf r catalog named ↔
    (l.relation = r ∧ (l.media, l.entity) ∈ named) ∧ l.catalog = catalog ∧ l.location = none := by
  rw [linksOf, List.mem_map]
  constructor
  · rintro ⟨x, hx, rfl⟩
    exact ⟨⟨rfl, hx⟩, rfl, rfl⟩
  · rintro ⟨⟨rfl, hx⟩, rfl, hlocation⟩
    exact ⟨_, hx, by rw [← hlocation]⟩

theorem mem_withLinks : l ∈ (s.withLinks r catalog named).links ↔ l ∈ s.links ∨
    (l.relation = r ∧ (l.media, l.entity) ∈ named) ∧
      s.isLinked r l.media l.entity = false ∧ l.catalog = catalog ∧ l.location = none := by
  rw [withLinks, List.mem_append, mem_linksOf, mem_unlinked]
  tauto

theorem withLinks_eq_self : s.withLinks r catalog named = s ↔
    ∀ x ∈ named, s.isLinked r x.1 x.2 = true := by
  rw [← @unlinked_eq_nil s]
  constructor
  · intro h
    have hlinks : (s.withLinks r catalog named).links = s.links := congrArg Store.links h
    simpa [withLinks, linksOf] using hlinks
  · intro hnone
    rw [withLinks, hnone, linksOf, List.map_nil, List.append_nil]

/-- The pairs are linked up to the first that cannot be. -/
theorem addLinks_eq : s.addLinks r catalog named =
    (if s.reached r named = named then .ok () else .error .missingReference,
      s.withLinks r catalog (s.reached r named)) := by
  induction named generalizing s with
  | nil => simp [addLinks, withLinks, reached, unlinked, linksOf]
  | cons x named ih =>
    rw [addLinks]
    cases hadd : s.addLink r catalog x.1 x.2 with
    | error e =>
      have hcannot : ¬s.CanLink r x.1 x.2 := by
        intro hcan
        obtain ⟨t, ht⟩ := (@exists_addLink s r catalog _ _).2 hcan
        cases hadd.symm.trans ht
      obtain rfl : e = .missingReference := by
        refine @missing_of_addLinks s r catalog [x] e ?_
        rw [addLinks, hadd]
      simp [reached_cons_of_not_canLink hcannot, withLinks, unlinked, linksOf]
    | ok t =>
      have hcan : s.CanLink r x.1 x.2 := exists_addLink.1 ⟨t, hadd⟩
      simp only [ih, reached_of_addLink hadd, reached_cons_of_canLink hcan, List.cons.injEq, true_and]
      rcases addLink_eq_ok.1 hadd with ⟨hlinked, rfl⟩ | ⟨hnew, -, rfl⟩
      · rw [withLinks, withLinks, unlinked_cons_of_isLinked hlinked]
      · rw [withLinks, withLinks, @unlinked_cons_of_not_isLinked s r catalog x _ hnew]
        simp [linksOf]

/-! ## Every item and every thing -/

/-- What becomes of a store when every item is linked to every thing, pair by pair. -/
structure LinksInTurn (s : Store) (r : Relation) (catalog : String) (items entities : List String)
    (outcome : Except StoreError Unit × Store) : Prop where
  accepted : outcome.1 = .ok () ↔ ∀ m ∈ items, ∀ e ∈ entities, s.CanLink r m e
  refused : ∀ e, outcome.1 = .error e → e = .missingReference
  /-- Fail or not, the pairs that are reached are linked in their order and nothing else changes. -/
  linked : outcome.2 = s.withLinks r catalog (s.reached r (pairs items entities))
  /-- When it succeeds all links that were there stay, and a pair without one has a new one. -/
  whole : outcome.1 = .ok () → ∀ l, l ∈ outcome.2.links ↔ l ∈ s.links ∨
    (l.relation = r ∧ l.media ∈ items ∧ l.entity ∈ entities) ∧
      s.isLinked r l.media l.entity = false ∧ l.catalog = catalog ∧ l.location = none
  /-- When it fails at a pair, those before it are linked. It leaves no trace only where these were
  linked already. -/
  partly : ∀ e, outcome.1 = .error e → ∃ before x after,
    pairs items entities = before ++ x :: after ∧ ¬s.CanLink r x.1 x.2 ∧
      outcome.2 = s.withLinks r catalog before ∧
      (outcome.2 = s ↔ ∀ y ∈ before, s.isLinked r y.1 y.2 = true)

theorem linksInTurn (s : Store) (r : Relation) (catalog : String) (items entities : List String) :
    s.LinksInTurn r catalog items entities (s.addRelations r catalog items entities) where
  accepted := addRelations_eq_ok
  refused _ := missing_of_addLinks
  linked := by rw [addRelations, addLinks_eq]
  whole hok l := by
    have hall : s.reached r (pairs items entities) = pairs items entities := by
      rw [reached_eq_self, ← addLinks_eq_ok]
      exact hok
    rw [addRelations, addLinks_eq, hall, mem_withLinks, mem_pairs]
  partly e herror := by
    rw [addRelations, addLinks_eq] at herror ⊢
    have hstopped : s.reached r (pairs items entities) ≠ pairs items entities := by
      intro hall
      rw [if_pos hall] at herror
      cases herror
    obtain ⟨x, after, hsplit, hcannot⟩ := exists_of_reached_ne hstopped
    exact ⟨_, x, after, hsplit, hcannot, rfl, withLinks_eq_self⟩

/-- A media item, and one of the two albums that it is to be put into. -/
def halfway : Store :=
  after (SearchService.oneAtHome [.createEntity ⟨.album, "summer", "home", none, "Summer"⟩])

/-- It cannot be put into the two, and is in the first of them afterwards. -/
theorem linksInTurn_halfway :
    let outcome := halfway.addRelations .album "home" ["one"] ["summer", "nowhere"]
    outcome.1 = .error .missingReference ∧ outcome.2 ≠ halfway ∧
      outcome.2.links = [⟨.album, "home", "one", "summer", none⟩] := by
  intro outcome
  have hturn := linksInTurn halfway .album "home" ["one"] ["summer", "nowhere"]
  have hlinks : outcome.2.links = [⟨.album, "home", "one", "summer", none⟩] := by
    rw [hturn.linked]
    rfl
  refine ⟨?_, ?_, hlinks⟩
  · rfl
  · intro hsame
    rw [hsame] at hlinks
    cases hlinks

end MediaCatalog.Store
