import MediaCatalog.Proofs.Answers
import MediaCatalog.Proofs.QueryRoundTrip
import MediaCatalog.Proofs.Writes
/-!
# Shared searches

A saved search is written as text and read from it whenever it is run. It gives what its query gives,
rows and errors alike, for as long as nobody changes it.
-/

namespace MediaCatalog

variable {s s' t : Store} {op : Operation} {x : SavedSearch} {id : String} {r : StoredSearch}

/-! ## Saving -/

/-- The query came as a text, by itself or in a search. -/
inductive Query.IsReceived : Query → Prop
  | text {text : String} {q : Query} : Query.parse text = .ok q → q.IsReceived
  | search {text : String} {x : Search} : Search.parse text = .ok x → x.query.IsReceived

theorem Query.IsReceived.nests {q : Query} (h : q.IsReceived) : q.Nests Json.maxNesting := by
  cases h with
  | text h => exact Query.nests_of_parse h
  | search h => exact Search.nests_of_parse h

/-- A query that nests no deeper than a text may is one that can come as a text. -/
theorem Query.Nests.isReceived {q : Query} (h : q.Nests Json.maxNesting)
    (hx : ∀ d ∈ q.toJson.doubles, d.ReadsBack) : q.IsReceived :=
  .text (Query.parse_text h hx)

theorem SavedSearch.read_stored (h : x.query.IsReceived)
    (hx : ∀ d ∈ x.query.toJson.doubles, d.ReadsBack) : x.stored.read = .ok x := by
  rw [StoredSearch.read, stored, Query.parse_text h.nests hx]
  rfl

namespace Operation

/-- The operation is to save a search: a new one, or in place of one of the same catalog. -/
inductive Saves (s : Store) (x : SavedSearch) : Operation → Prop
  | create : Saves s x (.createSearch x)
  | update {r : StoredSearch} : s.storedSearch? x.id = some r → r.catalog = x.catalog →
      Saves s x (.updateSearch x.id x.name x.query x.shared)

/-- The operation neither changes nor deletes the search with an id. -/
def LeavesSearch (id : String) : Operation → Prop
  | updateSearch id' .. => id' ≠ id
  | deleteSearch id' => id' ≠ id
  | _ => True

end Operation

namespace Store

theorem hasSearch_eq_false : s.hasSearch id = false ↔ s.storedSearch? id = none := by
  simp [hasSearch, storedSearch?]

theorem id_of_storedSearch? (h : s.storedSearch? id = some r) : r.id = id := by
  simpa using List.find?_some h

theorem storedSearch?_updateSearch {id' name : String} {q : Query} {shared : Bool} :
    (s.updateSearch id' name q shared).2.storedSearch? id = (s.storedSearch? id).map fun r =>
      if r.id = id' then { r with name := name, shared := shared, query := q.text } else r := by
  rw [updateSearch, storedSearch?, List.find?_map, storedSearch?]
  congr 2
  funext r
  dsimp only [Function.comp_apply]
  split <;> rfl

theorem storedSearch?_deleteSearch {id' : String} (h : id' ≠ id) :
    (s.deleteSearch id').2.storedSearch? id = s.storedSearch? id := by
  rw [deleteSearch, storedSearch?, List.find?_filter, storedSearch?]
  congr 1
  funext r
  by_cases hr : r.id = id
  · simp [hr, h.symm]
  · simp [hr]

theorem storedSearch?_of_saves (h : op.Saves s x) (hdone : (op.apply s).1 = .ok true) :
    (op.apply s).2.storedSearch? x.id = some x.stored := by
  cases h with
  | create =>
    rw [Operation.apply] at hdone ⊢
    cases hmade : s.createSearch x with
    | error e =>
      rw [hmade] at hdone
      cases hdone
    | ok s' =>
      obtain ⟨hnew, -, rfl⟩ := Operation.guarded_eq_ok.1 hmade
      have hnone : s.storedSearch? x.id = none := hasSearch_eq_false.1 hnew
      rw [storedSearch?] at hnone
      simp [Operation.made, storedSearch?, List.find?_append, hnone, SavedSearch.stored]
  | @update r hr hcatalog =>
    have hid := id_of_storedSearch? hr
    change (s.updateSearch x.id x.name x.query x.shared).2.storedSearch? x.id = _
    rw [storedSearch?_updateSearch, hr, Option.map_some, if_pos hid, hid, hcatalog]
    rfl

/-- A search stays as it was saved while nobody changes it. -/
theorem kept_storedSearch? :
    Operation.Kept (fun _ op => op.LeavesSearch id) (fun s => s.storedSearch? id = some r) where
  flag h := h
  changes {s op s'} hchanges hleaves h := by
    cases hchanges with
    | createSearch | insertSearch =>
      rw [storedSearch?] at h ⊢
      rw [List.find?_append, h]
      rfl
    | updateSearch =>
      rw [storedSearch?_updateSearch, h, Option.map_some, if_neg]
      rw [id_of_storedSearch? h]
      exact Ne.symm hleaves
    | deleteSearch => rwa [storedSearch?_deleteSearch hleaves]
    | _ => exact h

end Store

/-! ## Running -/

namespace SearchService

variable {service other : SearchService} {caller : String}

theorem runShared_eq_notFound (hout : service.store.inTransaction = false)
    (h : (service.store.storedSearch? id).filter (·.shared) = none) :
    service.runShared id = .error (.notFound "search" id) := by
  rw [runShared, hout, sharedDefinition, h]
  rfl

theorem runShared_eq (hout : service.store.inTransaction = false)
    (hstored : service.store.storedSearch? x.id = some x.stored) (hread : x.stored.read = .ok x)
    (hshared : x.shared = true) :
    service.runShared x.id = (service.execute x.catalog x.query).map (⟨x.name, ·⟩) := by
  have hfound : (some x.stored).filter (·.shared) = some x.stored := by
    rw [Option.filter_some]
    exact if_pos hshared
  have hdefinition : service.sharedDefinition x.id = .ok x := by
    rw [sharedDefinition, hstored, hfound]
    exact mapError_eq_ok.2 hread
  rw [runShared, if_neg (by simp [hout]), hdefinition]
  cases h : service.execute x.catalog x.query <;>
    simp [bind, Except.bind, pure, Except.pure, Except.map, h]

/-- After a search has been saved as shared, and as long as nobody changes or deletes it, running it
gives its name and what its query gives to any caller who may read its catalog, on whatever the store
then holds. A search that is not shared, or that there is not, is not found. -/
theorem runShared_later (service : SearchService) (hout : service.store.inTransaction = false) :
    (∀ (x : SavedSearch) (s : Store) (op : Operation), x.query.IsReceived →
      (∀ d ∈ x.query.toJson.doubles, d.ReadsBack) →
      op.Saves s x → (op.apply s).1 = .ok true →
      (op.apply s).2.Later (fun _ op => op.LeavesSearch x.id) service.store →
        (x.shared = true → ∀ (other : SearchService) (caller : String),
          other.store = service.store → other.maxDepth = service.maxDepth →
          (other.authorize caller x.catalog).canRead = true →
            service.runShared x.id =
              (other.search caller x.catalog x.query).map (⟨x.name, ·⟩)) ∧
        (x.shared = false → service.runShared x.id = .error (.notFound "search" x.id))) ∧
      ∀ id, (∀ r, service.store.storedSearch? id = some r → r.shared = false) →
        service.runShared id = .error (.notFound "search" id) := by
  constructor
  · intro x s op hreceived hx hsaves hdone hlater
    have hstored : service.store.storedSearch? x.id = some x.stored :=
      hlater.kept Store.kept_storedSearch? (Store.storedSearch?_of_saves hsaves hdone)
    constructor
    · intro hshared other caller hstore hdepth hcaller
      rw [runShared_eq hout hstored (SavedSearch.read_stored hreceived hx) hshared,
        search_of_canRead hcaller, execute_congr hstore hdepth]
    · intro hshared
      refine runShared_eq_notFound hout ?_
      rw [hstored, Option.filter_some]
      exact if_neg (by simp [SavedSearch.stored, hshared])
  · intro id hid
    refine runShared_eq_notFound hout ?_
    cases hr : service.store.storedSearch? id with
    | none => rfl
    | some r => simp [Option.filter_some, hid r hr]

/-- A catalog with an album. -/
def withAlbum : List Operation :=
  [.createUser "owner@example.com" "Owner", .createCatalog "home" "Home",
    .grant "owner@example.com" "home" false, .createEntity ⟨.album, "summer", "home", none, "Summer"⟩]

/-- What is in the album and below it. -/
def summer : SavedSearch := ⟨"favourites", "home", "My summer", true, .inAlbum "summer" true⟩

/-- The search has been saved, and then another album was put below its own. -/
def afterSaving : Store :=
  (Operation.apply (Operation.apply (.after withAlbum) (.createSearch summer)).2
    (.createEntity ⟨.album, "beach", "home", some "summer", "Beach"⟩)).2

theorem runShared_later_summer : (ofStore afterSaving).runShared "favourites" =
    ((ofStore afterSaving).search "owner@example.com" "home" (.inAlbum "summer" true)).map
      (⟨"My summer", ·⟩) := by
  have hnests : summer.query.Nests Json.maxNesting := by
    refine @Query.Nests.group 125 _ _ fun q hq => ?_
    obtain rfl := List.mem_singleton.1 hq
    refine .field fun v hv => ?_
    cases hv
    exact ⟨.string, rfl, by simp⟩
  have hdoubles : ∀ d ∈ summer.query.toJson.doubles, d.ReadsBack := by
    have hnone : summer.query.toJson.doubles = [] := by decide
    simp [hnone]
  have hlater : (Operation.apply (.after withAlbum) (.createSearch summer)).2.Later
      (fun _ op => op.LeavesSearch summer.id) (ofStore afterSaving).store :=
    .operation .refl trivial
  exact ((runShared_later (ofStore afterSaving) rfl).1 summer (.after withAlbum) _
    (hnests.isReceived hdoubles) hdoubles .create rfl hlater).1 rfl (ofStore afterSaving) _ rfl rfl rfl

end SearchService

end MediaCatalog
