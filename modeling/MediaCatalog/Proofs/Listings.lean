import MediaCatalog.Proofs.CurrentFiles
import MediaCatalog.Proofs.Histories
import MediaCatalog.Proofs.SearchResults
/-!
# Listing a catalog

After any history the listing of a catalog fails only on a row that shows an instant whose year in UTC
does not have four digits. Such instants come from timestamps at either end of the years, whose
offsets lead out of them. It fails with the column that could not be read back.
-/

namespace MediaCatalog

namespace Time

/-- A clock can show the instant in a year of four digits. -/
def Instant.IsPlain (t : Instant) : Prop := t.HasClock ∧ t.HasPlainYear

theorem IsStoredAt.isStamp {text : String} (h : IsStoredAt Instant.IsPlain text) : IsStamp text := by
  obtain ⟨t, ⟨hclock, hyear⟩, rfl⟩ := h
  exact hclock.isStamp_stored.2 hyear

/-- A stored text is a timestamp when it is that of an instant in a plain year. -/
theorem IsStoredAt.isStamp_iff {text : String} (h : IsStoredAt Instant.HasClock text) :
    IsStamp text ↔ IsStoredAt Instant.IsPlain text := by
  constructor
  · intro hstamp
    obtain ⟨t, ht, rfl⟩ := h
    exact ⟨t, ⟨ht, ht.isStamp_stored.1 hstamp⟩, rfl⟩
  · exact IsStoredAt.isStamp

end Time

/-! ## Rows of the view -/

/-- The instants that a row shows, of when it was taken and when its file was uploaded, satisfy a
condition. -/
structure ViewRow.ShowsAt (P : Time.Instant → Prop) (row : ViewRow) : Prop where
  taken : row.values.TakenAt P
  uploaded : ∀ f, row.file = some f → Time.IsStoredAt P f.uploaded

namespace Store

variable {P : Time.Instant → Prop} {s : Store} {row : ViewRow} {item : MediaItem}
  {catalog : String}

theorem mem_view : row ∈ s.view catalog ↔
    ∃ item ∈ s.items, (item.deleted = false ∧ item.catalog = catalog) ∧ s.viewRow item = row := by
  simp [view, and_assoc]

namespace Keeps

theorem showsAt (h : s.Keeps P) (hitem : item ∈ s.items) : (s.viewRow item).ShowsAt P := by
  have hfile : ∀ f, s.currentFile? item.id = some f → f.Keeps P :=
    fun f hf => h.files f (mem_files_of_currentFile hf)
  refine ⟨?_, fun f hf => (hfile f hf).uploaded⟩
  intro text htext
  -- What the item says of when it was taken stands before what its file says.
  rcases Option.or_eq_some_iff.1 htext with hitself | ⟨-, hother⟩
  · exact (h.items item hitem).taken text hitself
  · cases hcurrent : s.currentFile? item.id with
    | none =>
      rw [hcurrent] at hother
      cases hother
    | some f =>
      rw [hcurrent] at hother
      exact (hfile f hcurrent).taken text hother

theorem isStamp_updated (h : s.Keeps P) (hitem : item ∈ s.items)
    (huploaded : ∀ f, s.currentFile? item.id = some f → Time.IsStamp f.uploaded) :
    Time.IsStamp (s.viewRow item).updated := by
  have hupdated := (h.items item hitem).updated
  simp only [viewRow]
  split
  · cases hcurrent : s.currentFile? item.id with
    | none => exact hupdated
    | some f => exact huploaded f hcurrent
  · exact hupdated

/-- Where locations can be read a row can be read back when it shows plain years only. -/
theorem readable_iff (h : s.Keeps Time.Instant.HasClock)
    (hlocations : s.HasLocations LocationText.IsLocation) (hrow : row ∈ s.view catalog) :
    s.Readable row ↔ row.ShowsAt Time.Instant.IsPlain := by
  obtain ⟨item, hitem, -, rfl⟩ := mem_view.1 hrow
  obtain ⟨htaken, huploaded⟩ := h.showsAt hitem
  constructor
  · intro hread
    exact ⟨fun text htext => (htaken text htext).isStamp_iff.1 (hread.taken text htext),
      fun f hf => (huploaded f hf).isStamp_iff.1 (hread.uploaded f hf)⟩
  · intro hplain
    -- The later of two timestamps is one, so `updated` can be read when the file's upload can.
    have hstamp : ∀ f, s.currentFile? item.id = some f → Time.IsStamp f.uploaded :=
      fun f hf => (hplain.uploaded f hf).isStamp
    exact
      { created := (h.items item hitem).created
        updated := h.isStamp_updated hitem hstamp
        uploaded := hstamp
        taken := fun text htext => (hplain.taken text htext).isStamp
        locations := hlocations.locates }

end Keeps

theorem queryMedia_all (hdocuments : s.hasMalformed = false) : s.queryMedia catalog (.all []) =
    ((s.view catalog).mergeSort ViewRow.isShownBefore).mapM s.readRow := by
  have hfailure : (Predicate.all []).failure? s catalog = none := by
    rw [Option.eq_none_iff_forall_ne_some]
    intro e he
    exact Predicate.failure_only (F := fun _ => False) (fun c hc => absurd hc List.not_mem_nil) he
  have hselect : s.select (.all []) (s.view catalog) =
      (s.view catalog).mergeSort ViewRow.isShownBefore := by
    have hall : (s.view catalog).filter ((Predicate.all []).holds s) = s.view catalog :=
      List.filter_eq_self.2 fun _ _ => rfl
    rw [select, hall]
  rw [← hselect]
  unfold queryMedia
  rw [hfailure, hdocuments]
  rfl

end Store

/-! ## Listings -/

namespace SearchService

variable {s : Store} {caller catalog : String} {history : List Operation} {e : SearchError}

/-- A listing reads all rows of the view, in the order shown. -/
theorem listCatalog_eq (hread : (s.authorize caller catalog).canRead = true)
    (hdocuments : s.hasMalformed = false) :
    (ofStore s).listCatalog caller catalog =
      (((s.view catalog).mergeSort ViewRow.isShownBefore).mapM s.readRow).mapError .storage := by
  rw [← Store.queryMedia_all hdocuments]
  exact @search_eq (ofStore s) caller catalog .everything (.all []) hread rfl rfl

/-- A listing succeeds when each row of the catalog can be read back. -/
theorem exists_listCatalog (hread : (s.authorize caller catalog).canRead = true)
    (hdocuments : s.hasMalformed = false) :
    (∃ rows, (ofStore s).listCatalog caller catalog = .ok rows) ↔
      ∀ row ∈ s.view catalog, s.Readable row := by
  rw [listCatalog_eq hread hdocuments]
  simp only [mapError_eq_ok, exists_mapM_eq_ok, Store.exists_readRow, List.mem_mergeSort]

/-- A listing fails on a text that cannot be read back, and on nothing else. -/
theorem exists_of_listCatalog_eq_error (hread : (s.authorize caller catalog).canRead = true)
    (hdocuments : s.hasMalformed = false)
    (h : (ofStore s).listCatalog caller catalog = .error e) :
    ∃ column cause, e = .storage (.unreadable column cause) := by
  rw [listCatalog_eq hread hdocuments] at h
  cases hrows : ((s.view catalog).mergeSort ViewRow.isShownBefore).mapM s.readRow with
  | ok rows =>
    rw [hrows] at h
    cases h
  | error e' =>
    rw [hrows] at h
    cases h
    obtain ⟨row, -, hrow⟩ := exists_of_mapM_eq_error hrows
    obtain ⟨column, cause, rfl⟩ :=
      isUnreadable_of_readRow (fun x hx => Store.ne_malformed_of_linked hdocuments hx) hrow
    exact ⟨column, cause, rfl⟩

/-- After a history whose metadata, times of upload and locations have all been read, a catalog can be
listed exactly when the instants that its rows show lie in years of four digits. Otherwise the listing
fails on a column that cannot be read back. -/
theorem exists_listCatalog_after (hhistory : ∀ op ∈ history, op.IsRead)
    (hread : ((Store.after history).authorize caller catalog).canRead = true) :
    ((∃ rows, (ofStore (Store.after history)).listCatalog caller catalog = .ok rows) ↔
      ∀ row ∈ (Store.after history).view catalog, row.ShowsAt Time.Instant.IsPlain) ∧
    ∀ e, (ofStore (Store.after history)).listCatalog caller catalog = .error e →
      ∃ column cause, e = .storage (.unreadable column cause) := by
  have hkeeps := Store.keeps_after fun op hop => (hhistory op hop).writesAt
  have hlocations := Store.locations_after fun op hop => (hhistory op hop).writesFinite
  have hdocuments := (@Store.later_after history).hasMalformed_eq_false
  refine ⟨?_, fun e he => exists_of_listCatalog_eq_error hread hdocuments he⟩
  rw [exists_listCatalog hread hdocuments]
  exact forall₂_congr fun row hrow => hkeeps.readable_iff hlocations hrow

/-- Two media items taken an hour apart around the end of the year 9999 in UTC, each in its catalog. -/
def newYearsEve : List Operation :=
  let taken := fun z => { Metadata.empty with taken := some z }
  [.createUser "owner@example.com" "Owner", .createCatalog "home" "Home",
    .createCatalog "away" "Away", .grant "owner@example.com" "home" true,
    .grant "owner@example.com" "away" false,
    .createMedia "one" "home" "2020-01-01T00:00:00.000Z" (taken ⟨⟨253402300799, 0⟩, 0⟩),
    .createMedia "two" "away" "2020-01-01T00:00:00.000Z" (taken ⟨⟨253402304399, 0⟩, -3600⟩)]

theorem newYearsEve_isRead : ∀ op ∈ newYearsEve, op.IsRead := by
  refine Operation.allWrite_iff.1 ⟨trivial, trivial, trivial, trivial, trivial, ?_, ?_, trivial⟩
  · exact ⟨by decide, .inr ⟨.object [("taken", .string "9999-12-31T23:59:59Z")], rfl⟩⟩
  · exact ⟨by decide, .inr ⟨.object [("taken", .string "9999-12-31T23:59:59-01:00")], rfl⟩⟩

/-- Both are accepted, and only the catalog of the first can be listed. -/
theorem newYearsEve_listCatalog :
    ((∀ op ∈ newYearsEve, op.IsRead) ∧
      ((Store.after newYearsEve).authorize "owner@example.com" "home").canRead = true ∧
      ((Store.after newYearsEve).authorize "owner@example.com" "away").canRead = true) ∧
    (∃ rows, (ofStore (Store.after newYearsEve)).listCatalog "owner@example.com" "home" = .ok rows) ∧
      ∃ column cause, (ofStore (Store.after newYearsEve)).listCatalog "owner@example.com" "away" =
        .error (.storage (.unreadable column cause)) := by
  obtain ⟨hhome, -⟩ := @exists_listCatalog_after "owner@example.com" "home" _ newYearsEve_isRead rfl
  obtain ⟨haway, hfails⟩ :=
    @exists_listCatalog_after "owner@example.com" "away" _ newYearsEve_isRead rfl
  refine ⟨⟨newYearsEve_isRead, rfl, rfl⟩, hhome.2 fun row hrow => ?_, ?_⟩
  · have hview : (Store.after newYearsEve).view "home" = [_] := rfl
    rw [hview, List.mem_singleton] at hrow
    subst hrow
    refine ⟨fun text htext => ⟨⟨253402300799, 0⟩, ⟨⟨by decide, by decide⟩, by decide⟩, ?_⟩, ?_⟩
    · exact Option.some.inj htext
    · intro f hf
      cases hf
  · cases hlist : (ofStore (Store.after newYearsEve)).listCatalog "owner@example.com" "away" with
    | error e =>
      obtain ⟨column, cause, rfl⟩ := hfails e hlist
      exact ⟨column, cause, rfl⟩
    | ok rows =>
      have hplain := haway.1 ⟨rows, hlist⟩ _ List.mem_cons_self
      have hstored : Time.IsStoredAt Time.Instant.IsPlain "+10000-01-01T00:59:59.000Z" :=
        hplain.taken _ rfl
      exact absurd hstored.isStamp (by decide)

/-- Every catalog can be listed after a history that writes plain years and finite coordinates only. -/
theorem exists_listCatalog_of_plain (hhistory : ∀ op ∈ history,
      op.Writes (Metadata.TakenAt Time.Instant.IsPlain) Time.Instant.IsPlain Location.IsFinite)
    (hread : ((Store.after history).authorize caller catalog).canRead = true) :
    ∃ rows, (ofStore (Store.after history)).listCatalog caller catalog = .ok rows := by
  have hplain : (Store.after history).Keeps Time.Instant.IsPlain := Store.keeps_after fun op hop =>
    (hhistory op hop).imp (fun _ hm => hm) (fun _ ht => ht) fun _ _ => trivial
  have hkeeps : (Store.after history).Keeps Time.Instant.HasClock := Store.keeps_after fun op hop =>
    (hhistory op hop).imp (fun _ hm z hz => (hm z hz).1) (fun _ ht => ht.1) fun _ _ => trivial
  refine (exists_listCatalog hread Store.later_after.hasMalformed_eq_false).2 fun row hrow => ?_
  obtain ⟨item, hitem, -, rfl⟩ := Store.mem_view.1 hrow
  exact (hkeeps.readable_iff (Store.locations_after hhistory) hrow).2 (hplain.showsAt hitem)

end SearchService

end MediaCatalog
