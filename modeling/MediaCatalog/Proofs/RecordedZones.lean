import MediaCatalog.Proofs.MediaHistory
import MediaCatalog.Proofs.Zones
/-!
# Zones that are recorded

When an item was taken is shown as it was given: the instant to the millisecond, and its offset beside
it. The instant stands at that offset if zones have names so far from UTC, and else in UTC.
-/

namespace MediaCatalog

/-! ## The row of one item -/

namespace Store

variable {s : Store} {row : ViewRow} {catalog id : String}

theorem holds_isItem : (isItem id).holds s row = decide (row.id = id) := by
  have heval : (isItem id).eval s (.ofRow row) =
      .ofBool ((Cell.text row.id).same (.text id) != false) := rfl
  rw [Predicate.holds, heval, Cell.same_text, Bool.bne_false]
  cases decide (row.id = id) <;> rfl

theorem failure_isItem : (isItem id).failure? s catalog = none := by
  rw [Option.eq_none_iff_forall_ne_some]
  intro e he
  refine Predicate.failure_only (F := fun _ => False) (fun c hc b e he => ?_) he
  obtain rfl := List.mem_singleton.1 hc
  cases he

theorem queryMedia_isItem (hdocuments : s.hasMalformed = false) : s.queryMedia catalog (isItem id) =
    (((s.view catalog).filter (·.id = id)).mergeSort ViewRow.isShownBefore).mapM s.readRow := by
  have hselect : s.select (isItem id) (s.view catalog) =
      ((s.view catalog).filter (·.id = id)).mergeSort ViewRow.isShownBefore := by
    rw [select, List.filter_congr fun _ _ => holds_isItem]
  rw [← hselect]
  unfold queryMedia
  rw [failure_isItem, hdocuments]
  rfl

/-- An item is looked up by its id in the view. -/
theorem Keyed.getMedia_of_mem (h : s.Keyed) (hdocuments : s.hasMalformed = false)
    (hrow : row ∈ s.view catalog) :
    s.getMedia catalog row.id = (s.readRow row).map some := by
  have hids : ((s.view catalog).map (·.id)).Nodup := nodup_view_ids h.items
  have honly : (s.view catalog).filter (·.id = row.id) = [row] := by
    refine List.perm_singleton.1 ((List.perm_ext_iff_of_nodup ?_ (List.nodup_singleton row)).2 ?_)
    · exact (List.Nodup.of_map _ hids).filter _
    · intro row'
      simp only [List.mem_filter, decide_eq_true_eq, List.mem_singleton]
      constructor
      · exact fun ⟨hrow', hid⟩ => List.inj_on_of_nodup_map hids hrow' hrow hid
      · rintro rfl
        exact ⟨hrow, rfl⟩
  rw [getMedia, queryMedia_isItem hdocuments, honly, List.mergeSort_singleton]
  cases hread : s.readRow row <;> simp [hread] <;> rfl

end Store

/-! ## Instants that are shown -/

namespace Time

variable {t : Instant}

/-- An instant as it is shown once it has been recorded: to the millisecond, and at its offset if there
are zones so far from UTC. -/
def ZonedInstant.recorded (z : ZonedInstant) : ZonedInstant :=
  ⟨z.instant.truncated, if z.offset.natAbs < zoneLimit then z.offset else 0⟩

theorem localize_offsetText {east : Int} (hminutes : east % 60 = 0) :
    localize t (some (String.ofList (offsetText east))) =
      ⟨t, if east.natAbs < zoneLimit then east else 0⟩ := by
  rw [localize, Option.bind_some, parseZone?_offsetText hminutes]
  split <;> rfl

end Time

/-! ## Rows that show it -/

/-- What a log says of when an item was taken comes from this metadata: what it says last of the item
itself, or else of its current file. -/
def ViewRow.TakesFrom (log : Log) (row : ViewRow) (m : Metadata) : Prop :=
  ∃ now said filed, log.last? (Operation.said? row.id) = some (now, said) ∧
    Upload.Current row.id (log.uploads row.id) row.file filed ∧
      (if said.taken.isSome then said else filed) = m

/-- All that the operation reads from the clock are timestamps. -/
def Operation.KeepsTime (op : Operation) : Prop := op.WritesAt fun _ => True

namespace ViewRow

variable {log : Log} {row : ViewRow} {m : Metadata} {z : Time.ZonedInstant}

/-- The instant and its offset are kept as text. -/
theorem TakesFrom.values (h : row.TakesFrom log m) (hfollows : row.Follows log)
    (hz : m.taken = some z) (hzone : m.zone = none) :
    row.values.taken = some z.instant.stored ∧
      row.values.zone = some (String.ofList (Time.offsetText z.offset)) := by
  obtain ⟨now, said, filed, hsaid, hfiled, rfl⟩ := h
  obtain ⟨now', said', filed', hsaid', hfiled', hmerges⟩ := hfollows.merges
  obtain ⟨rfl, rfl⟩ := Prod.mk.inj (Option.some.inj (hsaid.symm.trans hsaid'))
  obtain rfl := hfiled.unique hfiled'
  obtain ⟨htaken, hstored⟩ := hmerges.taken
  rw [htaken, hstored, Metadata.storedZone, hzone, hz]
  exact ⟨rfl, rfl⟩

end ViewRow

namespace Store

variable {log : Log} {s : Store} {row : ViewRow} {catalog : String} {m : Metadata}
  {z : Time.ZonedInstant} {shown : MediaRow}

/-- An instant that has been read is shown as it was given. -/
theorem recorded_of_readRow (h : s.readRow row = .ok shown) (hclock : z.instant.HasClock)
    (hyear : z.instant.HasPlainYear) (hminutes : z.offset % 60 = 0)
    (htaken : row.values.taken = some z.instant.stored)
    (hzone : row.values.zone = some (String.ofList (Time.offsetText z.offset))) :
    shown.metadata.taken = some z.recorded := by
  rw [taken_of_readRow h, htaken, Option.bind_some, Time.Instant.parse?_stored hclock hyear, hzone,
    Option.map_some, Time.localize_offsetText hminutes]
  rfl

/-- A row that was taken at a timestamp can be read back when the upload of its file can, and its
locations. -/
theorem Keeps.readable_iff_uploaded {P : Time.Instant → Prop} (h : s.Keeps P)
    (hrow : row ∈ s.view catalog) (htaken : ∀ text, row.values.taken = some text → Time.IsStamp text) :
    s.Readable row ↔ (∀ f, row.file = some f → Time.IsStamp f.uploaded) ∧ s.Locates row.id := by
  obtain ⟨item, hitem, -, rfl⟩ := mem_view.1 hrow
  refine ⟨fun hread => ⟨hread.uploaded, hread.locations⟩, fun ⟨huploaded, hlocations⟩ => ?_⟩
  exact
    { created := (h.items item hitem).created
      updated := h.isStamp_updated hitem huploaded
      uploaded := huploaded
      taken := htaken
      locations := hlocations }

/-- Metadata that is read says when an item was taken, in a year of four digits in UTC, and no zone. While
a log takes it from there, the item is found by its id when the upload of its file and its locations
can be read back. It is shown at that instant to the millisecond, with the offset as its zone. If the
offset is less than fifteen hours, the instant is shown at it, and it is what the zone names. -/
theorem shows_recorded (h : Logged (fun _ op => op.KeepsTime) log s) (hrow : row ∈ s.view catalog)
    (hfrom : row.TakesFrom log m) (hread : m.IsRead) (hz : m.taken = some z) (hzone : m.zone = none)
    (hyear : z.instant.HasPlainYear) :
    ((∃ shown, s.readRow row = .ok shown) ↔
        (∀ f, row.file = some f → Time.IsStamp f.uploaded) ∧ s.Locates row.id) ∧
      s.getMedia catalog row.id = (s.readRow row).map some ∧
      ∀ shown, s.readRow row = .ok shown →
        shown.metadata.taken = some z.recorded ∧ z.recorded.instant = z.instant.truncated ∧
          shown.metadata.zone = some (String.ofList (Time.offsetText z.offset)) ∧
            (z.offset.natAbs < Time.zoneLimit → z.recorded.offset = z.offset ∧
              shown.metadata.zone.bind Time.parseZone? = some z.offset) := by
  obtain ⟨text, htext⟩ := hread.takenIsRead z hz
  have hclock := Time.hasClock_of_parseRelaxed? htext
  have hminutes := Time.offset_of_parseRelaxed? htext
  obtain ⟨item, hitem, ⟨hlive, -⟩, hitemrow⟩ := mem_view.1 hrow
  have hfollows : row.Follows log := hitemrow ▸ (follows_of_logged h).viewRow hitem hlive
  obtain ⟨htaken, hrecorded⟩ := hfrom.values hfollows hz hzone
  have hkeeps : s.Keeps fun _ => True := h.later.kept kept_keeps keeps_empty
  refine ⟨?_, h.keyed.getMedia_of_mem h.later.hasMalformed_eq_false hrow, fun shown hshown => ?_⟩
  · rw [exists_readRow]
    refine hkeeps.readable_iff_uploaded hrow fun text htext => ?_
    obtain rfl := Option.some.inj (htaken.symm.trans htext)
    exact hclock.isStamp_stored.2 hyear
  · have hzoned : shown.metadata.zone = some (String.ofList (Time.offsetText z.offset)) :=
      (reads_of_readRow hshown).zone.trans hrecorded
    refine ⟨recorded_of_readRow hshown hclock hyear hminutes htaken hrecorded, rfl, hzoned,
      fun hnear => ⟨if_pos hnear, ?_⟩⟩
    rw [hzoned, Option.bind_some, Time.parseZone?_offsetText hminutes, if_pos hnear]

/-- Two media items: the user says of the first when it was taken, the file says it of the second. -/
def voyage : Log :=
  let details : FileDetails := ⟨"sea.jpg", 1024, 800, 600, "image/jpeg", none, none, none⟩
  [.createCatalog "home" "Home",
    .createMedia "one" "home" "2020-01-02T00:00:00.000Z"
      (.onlyTaken ⟨⟨1577836800, 567800000⟩, 34200⟩),
    .createMedia "two" "home" "2020-01-02T00:00:00.000Z" .empty,
    .addFile "sea" "two" ⟨1577836800, 0⟩ details (.onlyTaken ⟨⟨1577849400, 0⟩, -12600⟩)]

/-- Both are shown at their offsets, of nine and a half hours east and three and a half hours west. -/
theorem shows_recorded_voyage :
    (Logged (fun _ op => op.KeepsTime) voyage (after voyage) ∧
      (Metadata.onlyTaken ⟨⟨1577836800, 567800000⟩, 34200⟩).IsRead ∧
      (Metadata.onlyTaken ⟨⟨1577849400, 0⟩, -12600⟩).IsRead) ∧
    (∃ shown, (after voyage).getMedia "home" "one" = .ok (some shown) ∧
      shown.metadata.taken = some ⟨⟨1577836800, 567000000⟩, 34200⟩ ∧
        shown.metadata.zone = some "+09:30") ∧
    ∃ shown, (after voyage).getMedia "home" "two" = .ok (some shown) ∧
      shown.metadata.taken = some ⟨⟨1577849400, 0⟩, -12600⟩ ∧ shown.metadata.zone = some "-03:30" := by
  have hone : (Metadata.onlyTaken ⟨⟨1577836800, 567800000⟩, 34200⟩).IsRead :=
    @Metadata.isRead_onlyTaken "2020-01-01T09:30:00.5678+09:30" _ (by decide +kernel)
  have htwo : (Metadata.onlyTaken ⟨⟨1577849400, 0⟩, -12600⟩).IsRead :=
    @Metadata.isRead_onlyTaken "2020-01-01T00:00:00-03:30" _ (by decide +kernel)
  have hdone : Operation.allDone .empty voyage = voyage := rfl
  have hlogged : Logged (fun _ op => op.KeepsTime) voyage (after voyage) :=
    hdone ▸ logged_after (Operation.AllWrite.allAlong ⟨trivial, ⟨by decide, fun _ _ => trivial⟩,
      ⟨by decide, fun _ _ => trivial⟩, ⟨trivial, fun _ _ => trivial⟩, trivial⟩)
  have hview : (after voyage).view "home" = [_, _] := rfl
  refine ⟨⟨hlogged, hone, htwo⟩, ?_, ?_⟩
  · obtain ⟨hreads, hget, hshows⟩ := shows_recorded hlogged (hview ▸ List.mem_cons_self)
      ⟨_, .onlyTaken ⟨⟨1577836800, 567800000⟩, 34200⟩, .empty, rfl, .none rfl, rfl⟩ hone rfl rfl
      (by decide)
    obtain ⟨shown, hshown⟩ := hreads.2 ⟨fun f hf => (by cases hf), locates_of_linkless rfl⟩
    obtain ⟨htaken, -, hzone, -⟩ := hshows shown hshown
    exact ⟨shown, hget.trans (congrArg _ hshown), htaken, hzone⟩
  · have honly : ∀ k v, (Log.uploads voyage "two")[k]? = some v → k ≠ 0 → False := by
      intro k v hv hk
      obtain ⟨k, rfl⟩ := Nat.exists_eq_succ_of_ne_zero hk
      cases hv
    obtain ⟨hreads, hget, hshows⟩ := shows_recorded hlogged
      (hview ▸ List.mem_cons_of_mem _ List.mem_cons_self)
      ⟨_, .empty, .onlyTaken ⟨⟨1577849400, 0⟩, -12600⟩, rfl,
        .some rfl fun k v hv hk => (honly k v hv hk).elim, rfl⟩ htwo rfl rfl (by decide)
    have huploaded : ∀ f, ((after voyage).currentFile? "two") = some f → Time.IsStamp f.uploaded := by
      intro f hf
      cases hf
      decide
    obtain ⟨shown, hshown⟩ := hreads.2 ⟨huploaded, locates_of_linkless rfl⟩
    obtain ⟨htaken, -, hzone, -⟩ := hshows shown hshown
    exact ⟨shown, hget.trans (congrArg _ hshown), htaken, hzone⟩

/-- A media item that was taken fifteen hours east of UTC. -/
def farEast : List Operation :=
  [.createCatalog "home" "Home", .createMedia "one" "home" "2020-06-02T00:00:00.000Z"
    (.onlyTaken ⟨⟨1590958800, 0⟩, 54000⟩)]

/-- That is accepted as its zone, which names no offset, so the item is shown in UTC. -/
theorem farEast_in_utc : Time.parseRelaxed? "2020-06-01T12:00:00+15:00" = some ⟨⟨1590958800, 0⟩, 54000⟩ ∧
    (Metadata.onlyTaken ⟨⟨1590958800, 0⟩, 54000⟩).IsRead ∧
    (⟨1590958800, 0⟩ : Time.Instant).HasPlainYear ∧
    ∃ shown, (after farEast).getMedia "home" "one" = .ok (some shown) ∧
      shown.metadata.taken = some ⟨⟨1590958800, 0⟩, 0⟩ ∧ shown.metadata.zone = some "+15:00" ∧
        Time.parseZone? "+15:00" = none := by
  have hparse : Time.parseRelaxed? "2020-06-01T12:00:00+15:00" = some ⟨⟨1590958800, 0⟩, 54000⟩ := by
    decide +kernel
  have hstamps : ∀ row ∈ (after farEast).view "home", row.HasStamps := by decide
  have hview : (after farEast).view "home" = [_] := rfl
  have hrow : _ ∈ (after farEast).view "home" := hview ▸ List.mem_cons_self
  have hreadable : (after farEast).Readable _ := (hstamps _ hrow).readable_of_linkless rfl
  obtain ⟨shown, hshown⟩ := exists_readRow.2 hreadable
  refine ⟨hparse, Metadata.isRead_onlyTaken hparse, by decide, shown,
    (keyed_after.getMedia_of_mem rfl hrow).trans (congrArg _ hshown), ?_, (reads_of_readRow hshown).zone,
    by decide⟩
  exact recorded_of_readRow hshown ⟨by decide, by decide⟩ (by decide) rfl rfl rfl

end Store

end MediaCatalog
