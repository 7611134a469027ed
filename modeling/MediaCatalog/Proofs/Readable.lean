import MediaCatalog.Proofs.Results
import MediaCatalog.Store.Row
/-!
# Rows that can be read back

A row of the view is read back when each of its timestamps is one and each location of a person in it
is one.
-/

namespace MediaCatalog

/-- The text is a timestamp. -/
def Time.IsStamp (s : String) : Prop := ∃ z, parse? s = some z

instance {s : String} : Decidable (Time.IsStamp s) :=
  decidable_of_iff ((Time.parse? s).isSome = true) Option.isSome_iff_exists

/-- The text is a document of a location. -/
def LocationText.IsLocation : LocationText → Prop
  | document s => ∃ l, Location.shape.parse s = .ok l
  | malformed => False

section

variable {α β : Type} {read : α → Except StoreError β} {column : TextColumn} {s : String}

theorem exists_readInstant : (∃ t, readInstant column s = .ok t) ↔ Time.IsStamp s := by
  unfold readInstant Time.IsStamp
  cases Time.parse? s <;> simp

theorem exists_readLocation {x : LocationText} : (∃ l, readLocation x = .ok l) ↔ x.IsLocation := by
  cases x <;> simp [readLocation, mapError_eq_ok, LocationText.IsLocation]

theorem exists_readOptional {o : Option α} :
    (∃ y, readOptional read o = .ok y) ↔ ∀ x, o = some x → ∃ y, read x = .ok y := by
  cases o with
  | none => simp [readOptional]
  | some x => simp [readOptional, map_eq_ok]

end

/-! ## Failures -/

section

variable {α β : Type} {read : α → Except StoreError β} {column : TextColumn} {text : String}
  {e : StoreError}

/-- A stored text could not be read back. -/
def StoreError.IsUnreadable (e : StoreError) : Prop := ∃ column cause, e = .unreadable column cause

theorem isUnreadable_of_readInstant (h : readInstant column text = .error e) : e.IsUnreadable := by
  unfold readInstant at h
  split at h
  · cases h
  · cases h
    exact ⟨_, _, rfl⟩

theorem isUnreadable_of_readLocation {x : LocationText} (hx : x ≠ .malformed)
    (h : readLocation x = .error e) : e.IsUnreadable := by
  cases x with
  | malformed => exact absurd rfl hx
  | document text =>
    rw [readLocation] at h
    cases hparse : Location.shape.parse text with
    | ok l =>
      rw [hparse] at h
      cases h
    | error fault =>
      rw [hparse] at h
      cases h
      exact ⟨_, _, rfl⟩

theorem isUnreadable_of_readOptional {o : Option α}
    (hread : ∀ x, o = some x → ∀ e, read x = .error e → e.IsUnreadable)
    (h : readOptional read o = .error e) : e.IsUnreadable := by
  cases o with
  | none => cases h
  | some x =>
    cases hx : read x with
    | ok y =>
      rw [readOptional, hx] at h
      cases h
    | error e' =>
      rw [readOptional, hx] at h
      cases h
      exact hread x rfl e hx

theorem isUnreadable_of_read {m : StoredMetadata} (h : m.read = .error e) : e.IsUnreadable := by
  rcases bind_eq_error.1 h with h | ⟨_, -, h⟩
  · exact isUnreadable_of_readOptional (fun _ _ _ => isUnreadable_of_readInstant) h
  · exact absurd h pure_ne_error

theorem isUnreadable_of_readFile {f : MediaFile} (h : f.read = .error e) : e.IsUnreadable := by
  rcases bind_eq_error.1 h with h | ⟨_, -, h⟩
  · exact isUnreadable_of_readInstant h
  · exact absurd h pure_ne_error

theorem isUnreadable_of_readAppearance {x : Entity × Link} (hx : x.2.location ≠ some .malformed)
    (h : Store.readAppearance x = .error e) : e.IsUnreadable := by
  rcases bind_eq_error.1 h with h | ⟨_, -, h⟩
  · refine isUnreadable_of_readOptional (fun text htext _ => isUnreadable_of_readLocation ?_) h
    rintro rfl
    exact hx htext
  · exact absurd h pure_ne_error

/-- A row whose locations are documents fails only on a text that cannot be read back. -/
theorem isUnreadable_of_readRow {s : Store} {row : ViewRow}
    (hdocuments : ∀ x ∈ s.linked .person row.id, x.2.location ≠ some .malformed)
    (h : s.readRow row = .error e) : e.IsUnreadable := by
  rcases bind_eq_error.1 h with hfile | ⟨_, -, h⟩
  · exact isUnreadable_of_readOptional (fun _ _ _ => isUnreadable_of_readFile) hfile
  rcases bind_eq_error.1 h with hpeople | ⟨_, -, h⟩
  · obtain ⟨x, hmem, hx⟩ := exists_of_mapM_eq_error hpeople
    exact isUnreadable_of_readAppearance (hdocuments x hmem) hx
  rcases bind_eq_error.1 h with hcreated | ⟨_, -, h⟩
  · exact isUnreadable_of_readInstant hcreated
  rcases bind_eq_error.1 h with hupdated | ⟨_, -, h⟩
  · exact isUnreadable_of_readInstant hupdated
  rcases bind_eq_error.1 h with hvalues | ⟨_, -, h⟩
  · exact isUnreadable_of_read hvalues
  · exact absurd h pure_ne_error

end

/-! ## Parts of a row -/

theorem StoredMetadata.exists_read {m : StoredMetadata} :
    (∃ x, m.read = .ok x) ↔ ∀ t, m.taken = some t → Time.IsStamp t := by
  simp only [StoredMetadata.read, exists_bind_eq_ok, exists_pure_eq_ok, and_true,
    exists_readOptional, exists_readInstant]

theorem MediaFile.exists_read {f : MediaFile} : (∃ x, f.read = .ok x) ↔ Time.IsStamp f.uploaded := by
  simp only [MediaFile.read, exists_bind_eq_ok, exists_pure_eq_ok, and_true, exists_readInstant]

/-- Each timestamp of a row is one. -/
structure ViewRow.HasStamps (row : ViewRow) : Prop where
  created : Time.IsStamp row.created
  updated : Time.IsStamp row.updated
  uploaded : ∀ f, row.file = some f → Time.IsStamp f.uploaded
  taken : ∀ t, row.values.taken = some t → Time.IsStamp t

instance {row : ViewRow} : Decidable row.HasStamps :=
  decidable_of_iff (Time.IsStamp row.created ∧ Time.IsStamp row.updated ∧
      (∀ f ∈ row.file, Time.IsStamp f.uploaded) ∧ ∀ t ∈ row.values.taken, Time.IsStamp t)
    ⟨fun ⟨hcreated, hupdated, huploaded, htaken⟩ => ⟨hcreated, hupdated, huploaded, htaken⟩,
      fun h => ⟨h.created, h.updated, h.uploaded, h.taken⟩⟩

namespace Store

variable {s : Store} {row : ViewRow} {r : Relation} {media : String}

theorem readAppearance_eq_ok {x : Entity × Link} {a : Appearance} : readAppearance x = .ok a ↔
    a.person = x.1 ∧ readOptional readLocation x.2.location = .ok a.location := by
  obtain ⟨person, location⟩ := a
  simp [readAppearance, bind_eq_ok, pure, Except.pure, and_comm, @eq_comm _ x.1]

theorem exists_readAppearance {x : Entity × Link} :
    (∃ a, readAppearance x = .ok a) ↔ ∀ l, x.2.location = some l → l.IsLocation := by
  simp only [readAppearance, exists_bind_eq_ok, exists_pure_eq_ok, and_true, exists_readOptional,
    exists_readLocation]

/-- What a media item is linked to are the things that its links name. -/
theorem mem_linked {x : Entity × Link} : x ∈ s.linked r media ↔
    x.2 ∈ s.links ∧ x.2.relation = r ∧ x.2.media = media ∧ s.entity? r x.2.entity = some x.1 := by
  obtain ⟨e, l⟩ := x
  simp only [linked, List.mem_mergeSort, List.mem_filterMap, List.mem_filter, Bool.and_eq_true,
    decide_eq_true_eq, Option.map_eq_some_iff, Prod.mk.injEq]
  constructor
  · rintro ⟨_, ⟨hl, hr, hm⟩, _, he, rfl, rfl⟩
    exact ⟨hl, hr, hm, he⟩
  · rintro ⟨hl, hr, hm, he⟩
    exact ⟨l, ⟨hl, hr, hm⟩, e, he, rfl, rfl⟩

/-- Where no location of a person is malformed, those of a row's people are documents. -/
theorem ne_malformed_of_linked (h : s.hasMalformed = false) {x : Entity × Link}
    (hx : x ∈ s.linked .person media) : x.2.location ≠ some .malformed := by
  obtain ⟨hlink, hrelation, -, hentity⟩ := mem_linked.1 hx
  intro hmalformed
  have hperson : s.hasEntity .person x.2.entity = true := by rw [hasEntity, hentity, Option.isSome_some]
  have hnone := List.any_eq_false.1 h x.2 hlink
  simp [hrelation, hperson, hmalformed] at hnone

/-- Each person in a row is read back from a link to its item. -/
theorem people_of_readRow {shown : MediaRow} (h : s.readRow row = .ok shown) :
    (s.linked .person row.id).mapM readAppearance = .ok shown.people := by
  simp only [readRow, bind_eq_ok, pure, Except.pure, Except.ok.injEq] at h
  obtain ⟨_, -, people, hpeople, _, -, _, -, _, -, rfl⟩ := h
  exact hpeople

theorem exists_of_mem_people {shown : MediaRow} {a : Appearance} (h : s.readRow row = .ok shown)
    (ha : a ∈ shown.people) : ∃ x ∈ s.linked .person row.id, readAppearance x = .ok a := by
  obtain ⟨x, hx, hread⟩ := exists_of_forall₂ (mapM_eq_ok.1 (people_of_readRow h)) ha
  exact ⟨x, hx, hread⟩

/-- The locations of the people in an item are locations. -/
def Locates (s : Store) (media : String) : Prop :=
  ∀ x ∈ s.linked .person media, ∀ text, x.2.location = some text → text.IsLocation

/-- An item that no person is in has no location to be read. -/
theorem locates_of_nobody (h : ∀ l ∈ s.links, l.relation = .person → l.media ≠ media) :
    s.Locates media := by
  intro x hx
  obtain ⟨hlink, hrelation, hmedia, -⟩ := mem_linked.1 hx
  exact absurd hmedia (h x.2 hlink hrelation)

theorem locates_of_linkless (h : s.links = []) : s.Locates media := by
  refine locates_of_nobody fun l hl => ?_
  rw [h] at hl
  exact absurd hl List.not_mem_nil

/-- A row can be read back: each of its timestamps is one, and each of its locations. -/
structure Readable (s : Store) (row : ViewRow) : Prop where
  created : Time.IsStamp row.created
  updated : Time.IsStamp row.updated
  uploaded : ∀ f, row.file = some f → Time.IsStamp f.uploaded
  taken : ∀ t, row.values.taken = some t → Time.IsStamp t
  locations : s.Locates row.id

theorem exists_readRow : (∃ r, s.readRow row = .ok r) ↔ s.Readable row := by
  simp only [readRow, exists_bind_eq_ok, exists_pure_eq_ok, and_true, exists_and_right,
    exists_readOptional, exists_mapM_eq_ok, exists_readInstant, MediaFile.exists_read,
    StoredMetadata.exists_read, exists_readAppearance]
  rw [← Locates]
  constructor
  · rintro ⟨hfile, hpeople, hcreated, hupdated, htaken⟩
    exact ⟨hcreated, hupdated, hfile, htaken, hpeople⟩
  · rintro ⟨hcreated, hupdated, hfile, htaken, hpeople⟩
    exact ⟨hfile, hpeople, hcreated, hupdated, htaken⟩

end Store

namespace ViewRow.HasStamps

variable {s : Store} {row : ViewRow}

/-- Where its timestamps can be read back a row can, when its locations can. -/
theorem readable_iff (h : row.HasStamps) : s.Readable row ↔ s.Locates row.id :=
  ⟨fun hrow => hrow.locations, fun hlocations => ⟨h.created, h.updated, h.uploaded, h.taken, hlocations⟩⟩

theorem readable_of_linkless (h : row.HasStamps) (hlinks : s.links = []) : s.Readable row :=
  h.readable_iff.2 (Store.locates_of_linkless hlinks)

end ViewRow.HasStamps

end MediaCatalog
