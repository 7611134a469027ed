import MediaCatalog.Proofs.Replacement
import Mathlib.Data.List.Find
/-!
# Where people appear

Where a person appears in a media item is recorded in the link between the two. Links that are added
leave those that are there; those that are put in place of others are new, so that a location is gone
also where its person is named again.
-/

namespace MediaCatalog

theorem Link.eq_of_key {l l' : Link} (hkey : l.key = l'.key) (hcatalog : l.catalog = l'.catalog)
    (hlocation : l.location = l'.location) : l = l' := by
  obtain ⟨r, catalog, media, entity, location⟩ := l
  simp only [key, Prod.mk.injEq] at hkey
  obtain ⟨rfl, rfl, rfl⟩ := hkey
  cases hcatalog
  cases hlocation
  rfl

namespace Store

variable {s : Store} {r r' : Relation} {catalog media entity : String} {items entities : List String}
  {added : List (String × String)} {l : Link} {row : ViewRow} {shown : MediaRow}

/-! ## Links that are put anew -/

/-- The links of the kind of the item are those that are put there, without a location. -/
theorem mem_setRelations (h : (s.setRelations r catalog media entities).1 = .ok ()) :
    l ∈ (s.setRelations r catalog media entities).2.links ↔
      if l.relation = r ∧ l.media = media then
        l.catalog = catalog ∧ l.location = none ∧ l.entity ∈ entities
      else l ∈ s.links := by
  obtain ⟨added, -, hadded, heq⟩ := exists_setRelations_of_ok h
  have hnew : l ∈ newLinks r catalog media added ↔ (l.relation = r ∧ l.media = media) ∧
      l.catalog = catalog ∧ l.location = none ∧ l.entity ∈ entities := by
    rw [newLinks, List.mem_map]
    constructor
    · rintro ⟨e, he, rfl⟩
      exact ⟨⟨rfl, rfl⟩, rfl, rfl, (hadded e).1 he⟩
    · rintro ⟨⟨hr, hmedia⟩, hcatalog, hlocation, he⟩
      refine ⟨l.entity, (hadded _).2 he, ?_⟩
      rw [← hr, ← hmedia, ← hcatalog, ← hlocation]
  have hold : l ∈ (s.clearRelations r media).links ↔
      l ∈ s.links ∧ ¬(l.relation = r ∧ l.media = media) := by
    simp [clearRelations, imp_iff_not_or]
  rw [heq, List.mem_append, hnew, hold]
  by_cases hset : l.relation = r ∧ l.media = media <;> simp [hset]

theorem clearRelations_setRelations (h : (s.setRelations r catalog media entities).1 = .ok ()) :
    (s.setRelations r catalog media entities).2.clearRelations r media = s.clearRelations r media := by
  obtain ⟨added, -, -, heq⟩ := exists_setRelations_of_ok h
  rw [heq]
  simp [clearRelations, newLinks]

/-- All that links are put into is the store without those of the kind of the item. -/
theorem setRelations_eq_of_ok (h : (s.setRelations r catalog media entities).1 = .ok ()) :
    s.setRelations r catalog media entities = (.ok (),
      { (({ s.clearRelations r media with inTransaction := true } : Store).addRelations r catalog [media]
          entities).2 with inTransaction := false }) :=
  Prod.ext h (setRelations_of_ok h).2

/-- Links that are replaced by the same again stay. -/
theorem setRelations_again (h : (s.setRelations r catalog media entities).1 = .ok ()) :
    (s.setRelations r catalog media entities).2.setRelations r catalog media entities =
      (.ok (), (s.setRelations r catalog media entities).2) := by
  have haccepted := setRelations_eq_ok.1 h
  obtain ⟨added, -, -, heq⟩ := exists_setRelations_of_ok h
  have hagain : ((s.setRelations r catalog media entities).2.setRelations r catalog media entities).1 =
      .ok () := by
    rw [heq]
    exact setRelations_eq_ok.2 haccepted
  rw [setRelations_eq_of_ok hagain, clearRelations_setRelations h, setRelations_eq_of_ok h]

theorem Keyed.setRelations (hkeyed : s.Keyed) :
    (s.setRelations r catalog media entities).2.Keyed :=
  @Operation.Kept.apply _ _ s (.setRelations r catalog media entities) kept_keyed trivial hkeyed

/-- The links stay what they are only where none has a location or another catalog. -/
theorem Keyed.setRelations_perm_iff (hkeyed : s.Keyed)
    (h : (s.setRelations r catalog media entities).1 = .ok ())
    (hsame : ∀ e, e ∈ entities ↔ e ∈ s.relatedIds r media) :
    (s.setRelations r catalog media entities).2.links.Perm s.links ↔
      ∀ l ∈ s.links, l.relation = r → l.media = media → l.catalog = catalog ∧ l.location = none := by
  constructor
  · intro hperm l hl hr hmedia
    have hnew := (mem_setRelations h).1 (hperm.mem_iff.2 hl)
    rw [if_pos ⟨hr, hmedia⟩] at hnew
    exact ⟨hnew.1, hnew.2.1⟩
  · intro hplain
    refine (List.perm_ext_iff_of_nodup hkeyed.setRelations.links.of_map hkeyed.links.of_map).2 ?_
    intro l
    rw [mem_setRelations h]
    split
    next hset =>
      obtain ⟨hr, hmedia⟩ := hset
      rw [hsame, mem_relatedIds, isLinked_iff]
      constructor
      · rintro ⟨hcatalog, hlocation, l', hl', hkey⟩
        have hsame : l.key = l'.key := by rw [hkey, Link.key, hr, hmedia]
        obtain ⟨hr', hmedia', -⟩ : l'.relation = r ∧ l'.media = media ∧ l'.entity = l.entity := by
          simpa [Link.key] using hkey
        obtain ⟨hcatalog', hlocation'⟩ := hplain l' hl' hr' hmedia'
        rwa [Link.eq_of_key hsame (hcatalog.trans hcatalog'.symm) (hlocation.trans hlocation'.symm)]
      · intro hl
        obtain ⟨hcatalog, hlocation⟩ := hplain l hl hr hmedia
        exact ⟨hcatalog, hlocation, l, hl, by rw [Link.key, hr, hmedia]⟩
    next => rfl

/-! ## What a row shows of them -/

/-- A row shows people nowhere if their links to its item have no location. -/
theorem nowhere_of_readRow (h : s.readRow row = .ok shown)
    (hnowhere : ∀ l ∈ s.links, l.relation = .person → l.media = row.id → l.location = none) :
    ∀ a ∈ shown.people, a.location = none := by
  intro a ha
  obtain ⟨x, hx, hread⟩ := exists_of_mem_people h ha
  obtain ⟨hl, hr, hmedia, -⟩ := mem_linked.1 hx
  obtain ⟨-, hlocation⟩ := readAppearance_eq_ok.1 hread
  rw [hnowhere x.2 hl hr hmedia] at hlocation
  exact (Except.ok.inj hlocation).symm

/-- What becomes of the links of a kind of an item that are replaced. -/
structure Relinks (s : Store) (r : Relation) (catalog media : String) (entities : List String)
    (t : Store) : Prop where
  /-- Those of the kind of the item have no location and the catalog that is given, all others stay. -/
  links : ∀ l, l ∈ t.links ↔ if l.relation = r ∧ l.media = media then
    l.catalog = catalog ∧ l.location = none ∧ l.entity ∈ entities else l ∈ s.links
  /-- Nothing but links has changed. -/
  rest : { t with links := s.links } = s
  /-- To replace them by the same again changes nothing. -/
  again : t.setRelations r catalog media entities = (.ok (), t)
  /-- Where the item was linked to the things that are named and no others, its links are what they were
  if and only if they had the catalog that is given and no location. -/
  same : (∀ e, e ∈ entities ↔ e ∈ s.relatedIds r media) → (t.links.Perm s.links ↔
    ∀ l ∈ s.links, l.relation = r → l.media = media → l.catalog = catalog ∧ l.location = none)
  /-- The row of the item shows the things that are named, and people nowhere in it. -/
  shown : ∀ row shown, row.id = media → t.readRow row = .ok shown →
    (∀ e, e ∈ shown.things r ↔ e ∈ s.entities ∧ e.relation = r ∧ e.id ∈ entities) ∧
      (r = .person → ∀ a ∈ shown.people, a.location = none)

theorem Keyed.relinks (hkeyed : s.Keyed) (h : (s.setRelations r catalog media entities).1 = .ok ()) :
    s.Relinks r catalog media entities (s.setRelations r catalog media entities).2 where
  links _ := mem_setRelations h
  rest := by
    obtain ⟨added, -, -, heq⟩ := exists_setRelations_of_ok h
    rw [heq]
  again := setRelations_again h
  same hsame := hkeyed.setRelations_perm_iff h hsame
  shown row shown hrow hread := by
    refine ⟨fun e => ?_, fun hr => nowhere_of_readRow hread fun l hl hperson hmedia => ?_⟩
    · rw [things_of_readRow hread, hkeyed.setRelations.mem_linked_map, hrow, isLinked_setRelations h,
        if_pos ⟨rfl, rfl⟩]
      obtain ⟨added, -, -, heq⟩ := exists_setRelations_of_ok h
      rw [heq]
    · have hnew := (mem_setRelations h).1 hl
      rw [if_pos ⟨hperson.trans hr.symm, hmedia.trans hrow⟩] at hnew
      exact hnew.2.1

/-- A place in a media item. -/
def corner : Location :=
  let zero := Double.number (.zero false)
  ⟨zero, zero, zero, zero⟩

/-- A person is found in a media item, and is then named again. -/
def portrait : List Operation :=
  SearchService.oneAtHome [.createEntity ⟨.person, "ann", "home", none, "Ann"⟩,
    .addRelations .person "home" ["one"] ["ann"], .setLocation "one" "ann" (some corner)]

theorem links_portrait :
    (after portrait).links = [⟨.person, "home", "one", "ann", some (.document corner.toJson.compact)⟩] := rfl

/-- The person is the only one in the item before and after, but is nowhere in it any more. -/
theorem relinks_portrait :
    (after portrait).relatedIds .person "one" = ["ann"] ∧
      (∃ l ∈ (after portrait).links, l.location = some (.document corner.toJson.compact)) ∧
      ((after portrait).setRelations .person "home" "one" ["ann"]).1 = .ok () ∧
      ¬((after portrait).setRelations .person "home" "one" ["ann"]).2.links.Perm
        (after portrait).links := by
  have hids : (after portrait).relatedIds .person "one" = ["ann"] := by
    rw [relatedIds, links_portrait]
    simp
  have hdone : ((after portrait).setRelations .person "home" "one" ["ann"]).1 = .ok () := rfl
  refine ⟨hids, ⟨_, List.mem_singleton_self _, rfl⟩, hdone, ?_⟩
  rw [(keyed_after.relinks hdone).same fun e => by rw [hids]]
  intro hplain
  cases (hplain _ (List.mem_singleton_self _) rfl rfl).2

/-! ## After a run -/

/-- Where an item and a thing are linked, what is recorded in their link. -/
def placed (s : Store) (r : Relation) (media entity : String) : Option (Option LocationText) :=
  (s.link? r media entity).map (·.location)

theorem find?_linksOf : (linksOf r' catalog added).find?
    (fun l => l.relation = r && l.media = media && l.entity = entity) =
      if r' = r ∧ (media, entity) ∈ added then some ⟨r, catalog, media, entity, none⟩ else none := by
  split
  next hmem =>
    obtain ⟨rfl, hmem⟩ := hmem
    induction added with
    | nil => cases hmem
    | cons x added ih =>
      rw [linksOf, List.map_cons, List.find?_cons]
      split
      next hx => simp_all
      next hx =>
        refine ih ((List.mem_cons.1 hmem).resolve_left ?_)
        rintro rfl
        simp at hx
  next hnot =>
    simp only [linksOf, List.find?_eq_none, List.mem_map, Bool.and_eq_true, decide_eq_true_eq]
    rintro _ ⟨x, hx, rfl⟩ ⟨⟨rfl, rfl⟩, rfl⟩
    exact hnot ⟨rfl, hx⟩

/-- Links that are added leave what is recorded in those that are there. -/
theorem placed_addRelations (h : (s.addRelations r' catalog items entities).1 = .ok ()) :
    (s.addRelations r' catalog items entities).2.placed r media entity =
      if r' = r ∧ media ∈ items ∧ entity ∈ entities then some ((s.placed r media entity).getD none)
      else s.placed r media entity := by
  have hlinked := @isLinked_addRelations s r r' catalog media entity items entities h
  obtain ⟨added, hadded, heq⟩ := @exists_addLinks s r' catalog (pairs items entities)
  rw [addRelations, heq] at hlinked ⊢
  rw [isLinked_linksOf] at hlinked
  rw [placed, placed, link?, List.find?_append, find?_linksOf, ← link?]
  cases hold : s.link? r media entity with
  | some l => simp
  | none =>
    have hnot : s.isLinked r media entity = false := by rw [isLinked, hold, Option.isSome_none]
    rw [hnot] at hlinked
    simp only [Bool.false_eq_true, false_or] at hlinked
    simp only [hlinked, Option.none_or]
    split <;> rfl

theorem placed_filter {p : Link → Bool} {kept : Bool}
    (h : ∀ l, l.relation = r → l.media = media → l.entity = entity → p l = kept) :
    ({ s with links := s.links.filter p } : Store).placed r media entity =
      if kept then s.placed r media entity else none := by
  have hkept : ∀ l : Link, (l.relation = r && l.media = media && l.entity = entity) = true →
      p l = kept := by
    intro l hkey
    simp only [Bool.and_eq_true, decide_eq_true_eq] at hkey
    exact h l hkey.1.1 hkey.1.2 hkey.2
  rw [placed, placed, link?, link?, List.find?_filter]
  cases kept with
  | true =>
    refine congrArg _ (List.find?_congr fun l _ => ?_)
    rw [Bool.eq_iff_iff, decide_eq_true_eq]
    exact and_iff_right_of_imp (hkept l)
  | false =>
    refine congrArg _ (List.find?_eq_none.2 fun l _ => ?_)
    rw [decide_eq_true_eq]
    rintro ⟨hp, hkey⟩
    cases hp.symm.trans (hkept l hkey)

theorem placed_removeRelations : (s.removeRelations r' items entities).placed r media entity =
    if r' = r ∧ media ∈ items ∧ entity ∈ entities then none else s.placed r media entity := by
  rw [removeRelations, @placed_filter _ _ _ _ _
    (!(decide (r' = r) && items.contains media && entities.contains entity))
    (by rintro l rfl rfl rfl; simp [@eq_comm _ r'])]
  by_cases hnamed : r' = r ∧ media ∈ items ∧ entity ∈ entities
  · simp [hnamed]
  · rw [if_neg hnamed, if_pos (by simpa [imp_iff_not_or, or_assoc] using hnamed)]

theorem placed_clearRelations {item : String} : (s.clearRelations r' item).placed r media entity =
    if r' = r ∧ item = media then none else s.placed r media entity := by
  rw [clearRelations, @placed_filter _ _ _ _ _ (!(decide (r' = r) && decide (item = media)))
    (by rintro l rfl rfl rfl; simp [@eq_comm _ r', @eq_comm _ item])]
  by_cases hset : r' = r ∧ item = media
  · simp [hset]
  · rw [if_neg hset, if_pos (by simpa [imp_iff_not_or] using hset)]

/-- Links that are replaced are new: nothing is recorded in them. -/
theorem placed_setRelations {item : String}
    (h : (s.setRelations r' catalog item entities).1 = .ok ()) :
    (s.setRelations r' catalog item entities).2.placed r media entity =
      if r' = r ∧ item = media then if entity ∈ entities then some none else none
      else s.placed r media entity := by
  obtain ⟨hadded, heq⟩ := setRelations_of_ok h
  have hplaced := @placed_addRelations _ r r' catalog media entity _ _ hadded
  rw [placed_clearRelations] at hplaced
  rw [heq]
  refine hplaced.trans ?_
  by_cases hset : r' = r ∧ item = media
  · simp [hset]
  · have hnot : ¬(r' = r ∧ media ∈ [item] ∧ entity ∈ entities) :=
      fun h => hset ⟨h.1, (List.mem_singleton.1 h.2.1).symm⟩
    rw [if_neg hnot, if_neg hset, if_neg hset]
    rfl

/-- A location is recorded in the link of its person and in no other. -/
theorem placed_setPersonLocation {location : Option Location} {item person : String} :
    (s.setPersonLocation item person location).2.placed r media entity =
      if r = .person ∧ item = media ∧ person = entity then
        (s.placed r media entity).map fun _ => location.map fun x => .document x.toJson.compact
      else s.placed r media entity := by
  have hfind : ∀ l : Link, ((fun l : Link =>
      l.relation = r && l.media = media && l.entity = entity) ∘ fun l : Link =>
        if l.relation = .person && l.media = item && l.entity = person then
          { l with location := location.map fun x => .document x.toJson.compact } else l) l =
        (l.relation = r && l.media = media && l.entity = entity) := by
    intro l
    rw [Function.comp_apply]
    split <;> rfl
  rw [placed, placed, link?, setPersonLocation, List.find?_map, funext hfind, ← link?, Option.map_map]
  cases hold : s.link? r media entity with
  | none => simp
  | some l =>
    have hkey := List.find?_some hold
    simp only [Bool.and_eq_true, decide_eq_true_eq] at hkey
    obtain ⟨⟨rfl, rfl⟩, rfl⟩ := hkey
    simp only [Option.map_some, Function.comp_apply, Bool.and_eq_true, decide_eq_true_eq, and_assoc,
      @eq_comm _ item, @eq_comm _ person]
    split <;> rfl

end Store

namespace Operation

variable {s : Store} {op : Operation} {r : Relation} {media entity : String}

/-- What an operation makes of what is recorded in the link of an item and a thing. -/
def placing (r : Relation) (media entity : String) (placed : Option (Option LocationText)) :
    Operation → Option (Option LocationText)
  | addRelations r' _ items things =>
    if r' = r ∧ media ∈ items ∧ entity ∈ things then some (placed.getD none) else placed
  | removeRelations r' items things =>
    if r' = r ∧ media ∈ items ∧ entity ∈ things then none else placed
  | setRelations r' _ item things =>
    if r' = r ∧ item = media then if entity ∈ things then some none else none else placed
  | setLocation item person location =>
    if r = .person ∧ item = media ∧ person = entity then
      placed.map fun _ => location.map fun x => .document x.toJson.compact
    else placed
  | _ => placed

/-- An operation that is carried out records nothing in other links than those that it is about. -/
theorem placed_apply (hsingle : op.IsSingle) (hdone : op.succeeds s = true) :
    (op.apply s).2.placed r media entity = op.placing r media entity (s.placed r media entity) := by
  cases op with
  | addRelations => exact Store.placed_addRelations (tried_of_succeeds rfl hdone)
  | removeRelations => exact Store.placed_removeRelations
  | setRelations => exact Store.placed_setRelations (tried_of_succeeds rfl hdone)
  | setLocation => exact Store.placed_setPersonLocation
  | transaction => exact hsingle.elim
  | _ =>
    have hchanges := @changes_apply s _ hsingle
    revert hchanges
    generalize (apply s _).2 = t
    intro hchanges
    cases hchanges <;> rfl

/-- What a log has recorded in the link of an item and a thing. -/
def placedBy (r : Relation) (media entity : String) (log : Log) : Option (Option LocationText) :=
  log.foldl (fun placed op => op.placing r media entity placed) none

theorem tracked_placed : Tracked AddsAll fun log s => ∀ r media entity,
    s.placed r media entity = placedBy r media entity log where
  flag h := h
  missed hsingle hadds hmissed h := by rwa [hadds.apply_eq hsingle hmissed]
  done {log s op} hsingle _ hdone h := by
    intro r media entity
    rw [placed_apply hsingle hdone, h, placedBy, placedBy, List.foldl_append]
    rfl

end Operation

namespace Store

/-- After a run in which no links are added by halves, the link of a person to an item holds what was
recorded in it last since it was put there, be it first or in place of others. -/
theorem Logged.placed_eq {log : Log} {s : Store} (h : Logged Operation.AddsAll log s)
    {r : Relation} {media entity : String} :
    s.placed r media entity = Operation.placedBy r media entity log :=
  h.tracked Operation.tracked_placed (fun _ _ _ => rfl) r media entity

end Store

end MediaCatalog
