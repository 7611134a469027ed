import MediaCatalog.Proofs.CurrentFiles
import MediaCatalog.Proofs.Listings
import MediaCatalog.Proofs.Logs
/-!
# What the view says of a run

The view of a catalog shows the media items that the log of a run creates there and does not delete.
Each shows what was said of it last, and beneath it what was said of its current file.
-/

namespace MediaCatalog

/-! ## What a log says of a media item -/

/-- A file that is added to a media item. -/
structure Upload where
  id : String
  uploaded : Time.Instant
  details : FileDetails
  metadata : Metadata

namespace Upload

/-- The file that is kept. -/
def file (u : Upload) (media : String) (version : Nat) : MediaFile :=
  ⟨u.id, media, u.uploaded.stored, version, u.details.stored, u.metadata.stored⟩

/-- The files of a media item, with versions from one in the order in which they were added. -/
def files (media : String) (us : List Upload) : List MediaFile :=
  us.mapIdx fun n u => u.file media (n + 1)

theorem files_concat {media : String} {us : List Upload} {u : Upload} :
    files media (us ++ [u]) = files media us ++ [u.file media (us.length + 1)] :=
  List.mapIdx_concat

/-- The highest version is the number of files. -/
theorem foldl_max_versions {media : String} {us : List Upload} :
    ((files media us).map (·.version)).foldl max 0 = us.length := by
  induction us using List.reverseRecOn with
  | nil => rfl
  | append_singleton us u ih =>
    rw [files_concat, List.map_append, List.foldl_append, ih, List.length_append]
    exact max_eq_right (Nat.le_succ _)

/-- The current file of those added to a media item, if any, and what is said of it: every other was
uploaded before it, or at the same time and with a lower version. -/
inductive Current (media : String) (us : List Upload) : Option MediaFile → Metadata → Prop
  | none : us = [] → Current media us none .empty
  | some {n : Nat} {u : Upload} : us[n]? = some u →
      (∀ k v, us[k]? = some v → k ≠ n → (v.file media (k + 1)).isBefore (u.file media (n + 1)) = true) →
      Current media us (some (u.file media (n + 1))) u.metadata

end Upload

namespace Operation

/-- What an operation says of a media item, and when. -/
def said? (id : String) : Operation → Option (String × Metadata)
  | createMedia id' _ now m | updateMedia id' now m => if id' = id then some (now, m) else none
  | _ => none

/-- The file that an operation adds to a media item. -/
def upload? (media : String) : Operation → Option Upload
  | addFile id media' uploaded details m =>
    if media' = media then some ⟨id, uploaded, details, m⟩ else none
  | _ => none

/-- The operation changes a media item or deletes it. -/
def IsChangeOf (id : String) : Operation → Prop
  | updateMedia id' _ _ | deleteMedia id' _ => id' = id
  | _ => False

/-- The operation creates, changes or deletes a media item, or adds a file to one. -/
def OnMedia : Operation → Prop
  | createMedia .. | updateMedia .. | deleteMedia .. | addFile .. => True
  | _ => False

variable {op : Operation} {id id' media : String}

theorem IsChangeOf.said? (hop : op.IsChangeOf id) (hid : id' ≠ id) : op.said? id' = none := by
  cases op with
  | updateMedia id₀ => exact if_neg fun h => hid (h.symm.trans hop)
  | deleteMedia => rfl
  | _ => exact hop.elim

theorem IsChangeOf.upload? (hop : op.IsChangeOf id) : op.upload? media = none := by
  cases op with
  | updateMedia | deleteMedia => rfl
  | _ => exact hop.elim

variable {now : String} {m : Metadata} {u : Upload} {M : Metadata → Prop} {U : Time.Instant → Prop}
  {L : Location → Prop}

/-- What is said of a media item has been written. -/
theorem Writes.said (h : op.Writes M U L) (hsaid : op.said? id = some (now, m)) : M m := by
  cases op with
  | createMedia | updateMedia =>
    obtain ⟨-, hsaid⟩ := Option.ite_none_right_eq_some.1 hsaid
    obtain ⟨-, rfl⟩ := Prod.mk.inj (Option.some.inj hsaid)
    exact h.2
  | _ => cases hsaid

theorem Writes.uploaded (h : op.Writes M U L) (hupload : op.upload? media = some u) : M u.metadata := by
  cases op with
  | addFile =>
    obtain ⟨-, hupload⟩ := Option.ite_none_right_eq_some.1 hupload
    obtain rfl := Option.some.inj hupload
    exact h.2
  | _ => cases hupload

end Operation

namespace Log

/-- The files that a log adds to a media item, in order. -/
def uploads (log : Log) (media : String) : List Upload := log.filterMap (Operation.upload? media)

variable {log : Log} {id : String} {op : Operation}

theorem uploads_append : uploads (log ++ [op]) id = log.uploads id ++ (op.upload? id).toList := by
  unfold uploads
  cases hupload : op.upload? id <;> simp [List.filterMap_append, hupload]

theorem uploads_append_of_none (h : op.upload? id = none) :
    uploads (log ++ [op]) id = log.uploads id := by
  rw [uploads_append, h, Option.toList_none, List.append_nil]

end Log

/-! ## Stores that follow a log -/

/-- A media item is as a log says: created so, deleted or not, and with what was said of it last. -/
structure MediaItem.Follows (log : Log) (i : MediaItem) : Prop where
  created : ∃ m, .createMedia i.id i.catalog i.created m ∈ log
  deleted : i.deleted = true ↔ ∃ now, .deleteMedia i.id now ∈ log
  said : ∃ now m, log.last? (Operation.said? i.id) = some (now, m) ∧ i.values = m.stored ∧
    (i.deleted = false → i.updated = now)

/-- The media items of a store and their files are those of a log. -/
structure Store.Follows (log : Log) (s : Store) : Prop where
  keyed : s.Keyed
  items : ∀ i ∈ s.items, i.Follows log
  created : ∀ id catalog now m, .createMedia id catalog now m ∈ log →
    ∃ i ∈ s.items, i.id = id ∧ i.catalog = catalog
  deleted : ∀ id now, .deleteMedia id now ∈ log → s.hasItem id = true
  files : ∀ media, s.filesOf media = Upload.files media (log.uploads media)

namespace MediaItem

variable {log : Log} {i : MediaItem} {op : Operation}

/-- An operation that neither says anything of an item nor deletes it leaves it as it was. -/
theorem Follows.append (h : i.Follows log) (hsaid : op.said? i.id = none)
    (hdeleted : ∀ now, .deleteMedia i.id now ≠ op) : i.Follows (log ++ [op]) := by
  obtain ⟨m, hm⟩ := h.created
  refine ⟨⟨m, List.mem_append_left _ hm⟩, ?_, ?_⟩
  · simp only [List.mem_append, List.mem_singleton, hdeleted, or_false, h.deleted]
  · rw [Log.last?_append_of_none hsaid]
    exact h.said

end MediaItem

namespace Store

variable {s : Store} {log : Log} {op : Operation} {id now media : String} {m : Metadata}

theorem Keyed.apply (h : s.Keyed) (hsingle : op.IsSingle) : (op.apply s).2.Keyed :=
  kept_keyed.changes (Operation.changes_apply hsingle) trivial h

/-- Of the items of a store with one id there is only one. -/
theorem Keyed.isLive (h : s.Keyed) (hlive : s.isLive id = true) {i : MediaItem} (hi : i ∈ s.items)
    (hid : i.id = id) : i.deleted = false := by
  obtain ⟨j, hj, hlive⟩ := List.any_eq_true.1 hlive
  simp only [Bool.and_eq_true, decide_eq_true_eq, Bool.not_eq_true'] at hlive
  rw [List.inj_on_of_nodup_map h.items hi hj (hid.trans hlive.1.symm)]
  exact hlive.2

theorem Keyed.mem_changeLive (h : s.Keyed) (hlive : s.isLive id = true) {change : MediaItem → MediaItem}
    {i : MediaItem} (hi : i ∈ (s.changeLive id change).2.items) :
    (i ∈ s.items ∧ i.id ≠ id) ∨
      ∃ old ∈ s.items, old.id = id ∧ old.deleted = false ∧ i = change old := by
  obtain ⟨old, hold, rfl⟩ := List.mem_map.1 hi
  by_cases hid : old.id = id
  · have hdeleted := h.isLive hlive hold hid
    exact .inr ⟨old, hold, hid, hdeleted, if_pos (by simp [hid, hdeleted])⟩
  · rw [if_neg (by simp [hid])]
    exact .inl ⟨hold, hid⟩

/-- An operation that is not on media items leaves them and their files. -/
theorem onMedia_frame (hsingle : op.IsSingle) (hop : ¬op.OnMedia) :
    (op.apply s).2.items = s.items ∧ (op.apply s).2.files = s.files := by
  have hchanges := @Operation.changes_apply s op hsingle
  revert hchanges
  generalize (op.apply s).2 = t
  intro hchanges
  cases hchanges with
  | createMedia | updateMedia | deleteMedia | addFile => exact absurd trivial hop
  | _ => exact ⟨rfl, rfl⟩

theorem Follows.of_eq {t : Store} (h : s.Follows log) (hkeyed : t.Keyed)
    (hkept : t.items = s.items ∧ t.files = s.files) : t.Follows log := by
  obtain ⟨hitems, hfiles⟩ := hkept
  refine ⟨hkeyed, ?_, ?_, ?_, ?_⟩
  · rw [hitems]
    exact h.items
  · rw [hitems]
    exact h.created
  · unfold hasItem
    rw [hitems]
    exact h.deleted
  · intro media
    rw [filesOf, hfiles]
    exact h.files media

/-- A log says nothing new of media items in an operation that is not on them. -/
theorem Follows.append_other (h : s.Follows log) (hop : ¬op.OnMedia) : s.Follows (log ++ [op]) := by
  refine ⟨h.keyed, fun i hi => (h.items i hi).append ?_ ?_, ?_, ?_, ?_⟩
  · cases op <;> first | rfl | exact absurd trivial hop
  · rintro now rfl
    exact hop trivial
  · intro id catalog now m hmem
    rcases List.mem_append.1 hmem with hmem | hmem
    · exact h.created id catalog now m hmem
    · rw [← List.mem_singleton.1 hmem] at hop
      exact absurd trivial hop
  · intro id now hmem
    rcases List.mem_append.1 hmem with hmem | hmem
    · exact h.deleted id now hmem
    · rw [← List.mem_singleton.1 hmem] at hop
      exact absurd trivial hop
  · intro media
    have hnone : op.upload? media = none := by
      cases op <;> first | rfl | exact absurd trivial hop
    rw [Log.uploads_append_of_none hnone, h.files]

theorem Follows.addItem {catalog : String} (h : s.Follows log) (hnew : s.hasItem id = false) :
    ({ s with items := s.items ++ [⟨id, catalog, now, now, false, m.stored⟩] } : Store).Follows
      (log ++ [Operation.createMedia id catalog now m]) := by
  have hother : ∀ i ∈ s.items, i.id ≠ id := fun i => id_ne_of_new hnew
  have hnever : ∀ now, Operation.deleteMedia id now ∉ log := by
    intro now hdeleted
    rw [h.deleted id now hdeleted] at hnew
    cases hnew
  refine ⟨⟨nodup_append_fresh h.keyed.items hother, h.keyed.entities, h.keyed.links⟩, ?_, ?_, ?_, ?_⟩
  · intro i hi
    rcases List.mem_append.1 hi with hi | hi
    · exact (h.items i hi).append (if_neg (hother i hi).symm) fun _ => Operation.noConfusion
    · rw [List.mem_singleton.1 hi]
      exact ⟨⟨m, by simp⟩, by simp [hnever], now, m, by simp [Log.last?_append, Operation.said?],
        rfl, fun _ => rfl⟩
  · intro id' catalog' now' m' hmem
    rcases List.mem_append.1 hmem with hmem | hmem
    · obtain ⟨i, hi, hfound⟩ := h.created id' catalog' now' m' hmem
      exact ⟨i, List.mem_append_left _ hi, hfound⟩
    · obtain ⟨rfl, rfl, rfl, rfl⟩ := Operation.createMedia.inj (List.mem_singleton.1 hmem)
      exact ⟨_, List.mem_append_right _ (List.mem_singleton_self _), rfl, rfl⟩
  · intro id' now' hmem
    have hbefore : Operation.deleteMedia id' now' ∈ log := by simpa using hmem
    exact hasItem_append (h.deleted id' now' hbefore)
  · intro media
    rw [Log.uploads_append_of_none rfl]
    exact h.files media

/-- A live item is changed, and the log says so. -/
theorem Follows.changeLive {change : MediaItem → MediaItem} (h : s.Follows log)
    (hlive : s.isLive id = true) (hop : op.IsChangeOf id)
    (hkeeps : ∀ i, (change i).id = i.id ∧ (change i).catalog = i.catalog)
    (hchange : ∀ i, i.Follows log → i.id = id → i.deleted = false →
      (change i).Follows (log ++ [op])) :
    (s.changeLive id change).2.Follows (log ++ [op]) := by
  have hkept : ∀ i ∈ s.items, ∃ i' ∈ (s.changeLive id change).2.items,
      i'.id = i.id ∧ i'.catalog = i.catalog := by
    intro i hi
    refine ⟨_, List.mem_map_of_mem hi, ?_⟩
    split
    · exact hkeeps i
    · exact ⟨rfl, rfl⟩
  have hkeys := @Keyed.changeLive s id h.keyed change fun i => (hkeeps i).1
  refine ⟨⟨hkeys, h.keyed.entities, h.keyed.links⟩, ?_, ?_, ?_, ?_⟩
  · intro i hi
    rcases h.keyed.mem_changeLive hlive hi with ⟨hi, hid⟩ | ⟨old, hold, hid, hdeleted, rfl⟩
    · refine (h.items i hi).append ?_ ?_
      · exact hop.said? hid
      · rintro now rfl
        exact hid hop
    · exact hchange old (h.items old hold) hid hdeleted
  · intro id' catalog now m hmem
    rcases List.mem_append.1 hmem with hmem | hmem
    · obtain ⟨i, hi, hid, hcatalog⟩ := h.created id' catalog now m hmem
      obtain ⟨i', hi', hid', hcatalog'⟩ := hkept i hi
      exact ⟨i', hi', hid'.trans hid, hcatalog'.trans hcatalog⟩
    · rw [← List.mem_singleton.1 hmem] at hop
      exact hop.elim
  · intro id' now hmem
    have hthere : s.hasItem id' = true := by
      rcases List.mem_append.1 hmem with hmem | hmem
      · exact h.deleted id' now hmem
      · rw [← List.mem_singleton.1 hmem] at hop
        obtain ⟨i, hi, hfound⟩ := List.any_eq_true.1 hlive
        simp only [Bool.and_eq_true, decide_eq_true_eq] at hfound
        exact hasItem_iff.2 ⟨i, hi, hfound.1.trans (Eq.symm hop)⟩
    obtain ⟨i, hi, hid⟩ := hasItem_iff.1 hthere
    obtain ⟨i', hi', hid', -⟩ := hkept i hi
    exact hasItem_iff.2 ⟨i', hi', hid'.trans hid⟩
  · intro media
    rw [Log.uploads_append_of_none hop.upload?]
    exact h.files media

theorem Follows.addFile {uploaded : Time.Instant} {details : FileDetails} (h : s.Follows log) :
    ({ s with files := s.files ++ [⟨id, media, uploaded.stored, s.nextVersion media, details.stored,
      m.stored⟩] } : Store).Follows (log ++ [Operation.addFile id media uploaded details m]) := by
  refine ⟨⟨h.keyed.items, h.keyed.entities, h.keyed.links⟩, ?_, ?_, ?_, ?_⟩
  · exact fun i hi => (h.items i hi).append rfl fun _ => Operation.noConfusion
  · intro id' catalog now m hmem
    exact h.created id' catalog now m (by simpa using hmem)
  · intro id' now hmem
    exact h.deleted id' now (by simpa using hmem)
  · intro media'
    have hversion : s.nextVersion media = (log.uploads media).length + 1 := by
      rw [nextVersion, h.files, Upload.foldl_max_versions]
    rw [Log.uploads_append, Operation.upload?, filesOf, List.filter_append, hversion]
    by_cases hmedia : media = media'
    · subst hmedia
      simp only [if_true, Option.toList_some, Upload.files_concat, ← h.files]
      simp [filesOf, Upload.file]
    · simpa [hmedia, filesOf] using h.files media'

/-- The media items and their files go on to be those of the log. -/
theorem tracked_follows {C : Store → Operation → Prop} :
    Operation.Tracked C fun log s => s.Follows log where
  flag h := ⟨⟨h.keyed.items, h.keyed.entities, h.keyed.links⟩, h.items, h.created, h.deleted, h.files⟩
  missed {log s op} hsingle _ hmissed h := by
    by_cases hlinks : op.AddsLinks
    · refine h.of_eq (h.keyed.apply hsingle) (onMedia_frame hsingle ?_)
      obtain ⟨r, catalog, media, entities, rfl⟩ := hlinks
      exact id
    · rwa [Operation.apply_of_not_succeeds hsingle hlinks hmissed]
  done {log s op} hsingle _ hdone h := by
    by_cases hop : op.OnMedia
    swap
    · exact (h.of_eq (h.keyed.apply hsingle) (onMedia_frame hsingle hop)).append_other hop
    cases op with
    | createMedia id catalog now m =>
      obtain ⟨hnew, -, heq⟩ := Operation.guarded_eq_ok.1 (Operation.made_of_succeeds rfl hdone)
      rw [← heq]
      exact h.addItem hnew
    | updateMedia id now m =>
      refine h.changeLive hdone rfl (fun _ => ⟨rfl, rfl⟩) fun i hi hid _ => ?_
      obtain ⟨m₀, hm₀⟩ := hi.created
      refine ⟨⟨m₀, List.mem_append_left _ hm₀⟩, ?_, now, m, ?_, rfl, fun _ => rfl⟩
      · simpa using hi.deleted
      · rw [Log.last?_append, Operation.said?, if_pos hid.symm, Option.some_or]
    | deleteMedia id now =>
      refine h.changeLive hdone rfl (fun _ => ⟨rfl, rfl⟩) fun i hi hid _ => ?_
      obtain ⟨m₀, hm₀⟩ := hi.created
      obtain ⟨now', m, hsaid, hvalues, -⟩ := hi.said
      refine ⟨⟨m₀, List.mem_append_left _ hm₀⟩, by simp [hid], now', m, ?_, hvalues, nofun⟩
      rw [Log.last?_append_of_none rfl, hsaid]
    | addFile id media uploaded details m =>
      obtain ⟨-, -, heq⟩ := Operation.guarded_eq_ok.1 (Operation.made_of_succeeds rfl hdone)
      rw [← heq]
      exact h.addFile
    | _ => exact hop.elim

end Store

/-! ## Current files -/

namespace Upload

variable {media : String} {us : List Upload} {f : MediaFile}

theorem mem_files : f ∈ files media us ↔
    ∃ (n : Nat) (u : Upload), us[n]? = some u ∧ u.file media (n + 1) = f := by
  simp only [files, List.mem_mapIdx, List.getElem?_eq_some_iff]
  constructor
  · rintro ⟨n, hn, rfl⟩
    exact ⟨n, us[n], ⟨hn, rfl⟩, rfl⟩
  · rintro ⟨n, u, ⟨hn, rfl⟩, rfl⟩
    exact ⟨n, hn, rfl⟩

/-- The file found by the time of upload and the version is the current one. -/
theorem exists_current : ∃ m, Current media us ((files media us).argmax MediaFile.time) m ∧
    m.stored = (((files media us).argmax MediaFile.time).map (·.values)).getD .empty := by
  cases hmax : (files media us).argmax MediaFile.time with
  | none =>
    refine ⟨.empty, .none ?_, rfl⟩
    simpa [files] using List.argmax_eq_none.1 hmax
  | some f =>
    obtain ⟨n, u, hu, rfl⟩ := mem_files.1 (List.argmax_mem hmax)
    refine ⟨u.metadata, .some hu fun k v hv hk => ?_, rfl⟩
    have hle := List.le_of_mem_argmax (mem_files.2 ⟨k, v, hv, rfl⟩) hmax
    refine MediaFile.isBefore_iff.2 (lt_of_le_of_ne hle fun htime => hk ?_)
    -- Files of one time would have one version.
    exact Nat.succ.inj (congrArg Prod.snd (toLex_inj.1 htime))

theorem Current.metadata {m : Metadata} {shown : Option MediaFile} (h : Current media us shown m) :
    m = .empty ∨ ∃ u ∈ us, u.metadata = m := by
  cases h with
  | none => exact .inl rfl
  | some hu => exact .inr ⟨_, List.mem_of_getElem? hu, rfl⟩

/-- One file says one thing. -/
theorem Current.unique {m m' : Metadata} {shown : Option MediaFile} (h : Current media us shown m)
    (h' : Current media us shown m') : m = m' := by
  cases h with
  | none =>
    cases h'
    rfl
  | @some n u hu =>
    generalize hfile : Option.some (u.file media (n + 1)) = shown at h'
    cases h' with
    | none => cases hfile
    | @some n' u' hu' =>
      -- The version of a file is its place.
      have hversion := congrArg MediaFile.version (Option.some.inj hfile)
      obtain rfl : n = n' := Nat.succ.inj hversion
      rw [Option.some.inj (hu.symm.trans hu')]

end Upload

/-! ## Rows that follow a log -/

namespace Binary64

/-- Zero without its sign is the same number. -/
theorem compare_withoutSignedZero {x : Binary64} : x.withoutSignedZero.compare x = .eq := by
  unfold withoutSignedZero
  split
  next hzero =>
    have hsigned : x.signed = 0 := by
      simp [signed, numerator, significand, beq_iff_eq.1 hzero, binade]
    have hzeroed : (zero false).signed = 0 := by decide
    rw [compare, hsigned, hzeroed, Int.zero_mul, Int.zero_mul]
    rfl
  next => exact compare_eq_iff_eq.2 rfl

end Binary64

/-- A row merges what was said of its media item last with what was said of its current file. Numbers
are equal in value, and a double that is no number has not been said. What it was taken at and the
zone come from one side. -/
structure ViewRow.Merges (row : ViewRow) (now : String) (said filed : Metadata) : Prop where
  updated : row.updated = max now ((row.file.map (·.uploaded)).getD now)
  text : ∀ f, row.values.text f = (said.text f).or (filed.text f)
  real : ∀ f, Option.Rel (fun x y => x.compare y = .eq) (row.values.real f)
    ((said.number? f).or (filed.number? f))
  integer : ∀ f, row.values.integer f = (said.integer f).or (filed.integer f)
  taken : let source := if said.taken.isSome then said else filed
    row.values.taken = source.taken.map (·.instant.stored) ∧ row.values.zone = source.storedZone
  zone : row.values.taken.isSome = true → row.values.zone.isSome = true

/-- A row of the view shows what a log says of its media item. -/
structure ViewRow.Follows (log : Log) (row : ViewRow) : Prop where
  created : ∃ m, .createMedia row.id row.catalog row.created m ∈ log
  merges : ∃ now said filed, log.last? (Operation.said? row.id) = some (now, said) ∧
    Upload.Current row.id (log.uploads row.id) row.file filed ∧ row.Merges now said filed

namespace Metadata

variable {said filed : Metadata}

theorem overriding_real {f : RealField} :
    Option.Rel (fun x y => x.compare y = .eq) ((said.stored.overriding filed.stored).real f)
      ((said.number? f).or (filed.number? f)) := by
  simp only [StoredMetadata.overriding, stored]
  cases said.number? f with
  | some x => exact .some Binary64.compare_withoutSignedZero
  | none =>
    cases filed.number? f with
    | some y => exact .some Binary64.compare_withoutSignedZero
    | none => exact .none

theorem overriding_taken : let source := if said.taken.isSome then said else filed
    (said.stored.overriding filed.stored).taken = source.taken.map (·.instant.stored) ∧
      (said.stored.overriding filed.stored).zone = source.storedZone := by
  have hstored : said.stored.taken.isSome = said.taken.isSome := Option.isSome_map
  simp only [StoredMetadata.overriding, hstored]
  split
  next hsaid =>
    obtain ⟨z, hz⟩ := Option.isSome_iff_exists.1 hsaid
    simp [stored, hz]
  next hsaid => simp_all [stored]

/-- A timestamp that is kept has a zone, the one given or its offset. -/
theorem isSome_storedZone {m : Metadata} (h : m.taken.isSome = true) : m.storedZone.isSome = true := by
  simp [storedZone, h]

end Metadata

namespace Store

variable {s : Store} {log : Log} {item : MediaItem}

theorem Follows.viewRow (h : s.Follows log) (hitem : item ∈ s.items) (hlive : item.deleted = false) :
    (s.viewRow item).Follows log := by
  obtain ⟨now, said, hsaid, hvalues, hupdated⟩ := (h.items item hitem).said
  obtain ⟨filed, hcurrent, hfiled⟩ := @Upload.exists_current item.id (log.uploads item.id)
  rw [← h.files, ← currentFile?_eq_argmax] at hcurrent hfiled
  have hrow : (s.viewRow item).values = said.stored.overriding filed.stored := by
    rw [hfiled, ← hvalues]
    rfl
  have htaken := @Metadata.overriding_taken said filed
  refine ⟨(h.items item hitem).created, now, said, filed, hsaid, hcurrent, ?_⟩
  refine ⟨?_, ?_, ?_, ?_, ?_, ?_⟩
  · rw [max_def_lt, ← hupdated hlive]
    rfl
  · rw [hrow]
    exact fun f => rfl
  · rw [hrow]
    exact fun f => Metadata.overriding_real
  · rw [hrow]
    exact fun f => rfl
  · rwa [hrow]
  · rw [hrow, htaken.1, htaken.2, Option.isSome_map]
    exact Metadata.isSome_storedZone

end Store

/-! ## Rows that are shown -/

/-- The instant is that of the timestamp. -/
def Time.Instant.Reads (t : Instant) (text : String) : Prop := ∃ z, parse? text = some z ∧ z.instant = t

/-- A file that is shown is as it is kept. -/
structure FileRow.Reads (shown : FileRow) (f : MediaFile) : Prop where
  id : shown.id = f.id
  uploaded : shown.uploaded.Reads f.uploaded
  version : shown.version = f.version
  details : shown.details = f.details

/-- A row that is shown is as the view has it. What it was taken at is shown in its zone. -/
structure MediaRow.Reads (shown : MediaRow) (row : ViewRow) : Prop where
  id : shown.id = row.id
  catalog : shown.catalog = row.catalog
  created : shown.created.Reads row.created
  updated : shown.updated.Reads row.updated
  file : Option.Rel FileRow.Reads shown.file row.file
  text : shown.metadata.text = row.values.text
  real : ∀ f, shown.metadata.real f = (row.values.real f).map .number
  integer : shown.metadata.integer = row.values.integer
  taken : Option.Rel (fun z text => z.instant.Reads text ∧ z = Time.localize z.instant row.values.zone)
    shown.metadata.taken row.values.taken
  zone : shown.metadata.zone = row.values.zone

section

variable {column : TextColumn} {text : String} {t : Time.Instant}

theorem reads_of_readInstant (h : readInstant column text = .ok t) : t.Reads text := by
  unfold readInstant at h
  split at h
  next z hz => exact ⟨z, hz, Except.ok.inj h⟩
  next => cases h

theorem rel_of_readOptional {α β : Type} {read : α → Except StoreError β} {o : Option α}
    {o' : Option β} (h : readOptional read o = .ok o') : Option.Rel (fun y x => read x = .ok y) o' o := by
  cases o with
  | none =>
    cases h
    exact .none
  | some x =>
    obtain ⟨y, hy, rfl⟩ := map_eq_ok.1 h
    exact .some hy

theorem rel_imp {α β : Type} {R R' : α → β → Prop} {x : Option α} {y : Option β}
    (h : Option.Rel R x y) (himp : ∀ a b, R a b → R' a b) : Option.Rel R' x y := by
  cases h with
  | some h => exact .some (himp _ _ h)
  | none => exact .none

end

theorem MediaFile.reads_of_read {f : MediaFile} {shown : FileRow} (h : f.read = .ok shown) :
    shown.Reads f := by
  obtain ⟨t, ht, h⟩ := bind_eq_ok.1 h
  cases h
  exact ⟨rfl, reads_of_readInstant ht, rfl, rfl⟩

namespace Store

variable {C : Store → Operation → Prop} {s : Store} {log : Log} {row : ViewRow} {shown : MediaRow}

theorem reads_of_readRow (h : s.readRow row = .ok shown) : shown.Reads row := by
  obtain ⟨file, hfile, h⟩ := bind_eq_ok.1 h
  obtain ⟨people, -, h⟩ := bind_eq_ok.1 h
  obtain ⟨created, hcreated, h⟩ := bind_eq_ok.1 h
  obtain ⟨updated, hupdated, h⟩ := bind_eq_ok.1 h
  obtain ⟨m, hm, h⟩ := bind_eq_ok.1 h
  obtain ⟨taken, htaken, hm⟩ := bind_eq_ok.1 hm
  cases h
  cases hm
  -- What it was taken at is put into its zone after it is read.
  have hzoned : Option.Rel (fun z text => z.instant.Reads text ∧
      z = Time.localize z.instant row.values.zone)
      (taken.map fun t => Time.localize t row.values.zone) row.values.taken := by
    revert htaken
    generalize row.values.taken = text
    intro htaken
    cases rel_of_readOptional htaken with
    | some ht => exact .some ⟨reads_of_readInstant ht, rfl⟩
    | none => exact .none
  exact
    { id := rfl
      catalog := rfl
      created := reads_of_readInstant hcreated
      updated := reads_of_readInstant hupdated
      file := rel_imp (rel_of_readOptional hfile) fun _ _ => MediaFile.reads_of_read
      text := rfl
      real := fun _ => rfl
      integer := rfl
      taken := hzoned
      zone := rfl }

/-- When an item was taken is shown in its zone. -/
theorem taken_of_readRow (h : s.readRow row = .ok shown) : shown.metadata.taken =
    (row.values.taken.bind Time.parse?).map fun z => Time.localize z.instant row.values.zone := by
  have hreads := (reads_of_readRow h).taken
  generalize shown.metadata.taken = taken at hreads ⊢
  generalize row.values.taken = text at hreads ⊢
  cases hreads with
  | none => rfl
  | some hreads =>
    obtain ⟨⟨z, hz, hinstant⟩, hlocal⟩ := hreads
    rw [hlocal, ← hinstant, Option.bind_some, hz, Option.map_some]

/-! ## Runs -/

theorem follows_of_logged (h : Logged C log s) : s.Follows log := by
  have hempty : Store.empty.Follows [] := by
    refine ⟨⟨.nil, .nil, .nil⟩, ?_, ?_, ?_, fun _ => rfl⟩ <;> simp [Store.empty]
  exact h.tracked tracked_follows hempty

theorem Follows.exists_row_iff {catalog id : String} (h : s.Follows log) :
    (∃ row ∈ s.view catalog, row.id = id) ↔
      (∃ now m, .createMedia id catalog now m ∈ log) ∧ ∀ now, .deleteMedia id now ∉ log := by
  constructor
  · rintro ⟨row, hrow, rfl⟩
    obtain ⟨item, hitem, ⟨hlive, rfl⟩, rfl⟩ := mem_view.1 hrow
    obtain ⟨m, hm⟩ := (h.items item hitem).created
    refine ⟨⟨item.created, m, hm⟩, fun now hdeleted => ?_⟩
    rw [(h.items item hitem).deleted.2 ⟨now, hdeleted⟩] at hlive
    cases hlive
  · rintro ⟨⟨now, m, hm⟩, hnever⟩
    obtain ⟨item, hitem, rfl, hcatalog⟩ := h.created id catalog now m hm
    have hlive : item.deleted = false := by
      cases hdeleted : item.deleted with
      | false => rfl
      | true =>
        obtain ⟨now, hnow⟩ := (h.items item hitem).deleted.1 hdeleted
        exact absurd hnow (hnever now)
    exact ⟨s.viewRow item, mem_view.2 ⟨item, hitem, ⟨hlive, hcatalog⟩, rfl⟩, rfl⟩

/-- After a run the view of a catalog has one row for each media item that was created there and never
deleted. The versions of files count from one in the order in which they were added. Each row shows what
was said of its item last, merged with what was said of its current file, and is shown so when it can
be read back. -/
theorem view_follows (h : Logged C log s) (catalog : String) :
    ((s.view catalog).map (·.id)).Nodup ∧
      (∀ id, (∃ row ∈ s.view catalog, row.id = id) ↔
        (∃ now m, .createMedia id catalog now m ∈ log) ∧ ∀ now, .deleteMedia id now ∉ log) ∧
      (∀ media, s.filesOf media = Upload.files media (log.uploads media)) ∧
      ∀ row ∈ s.view catalog, row.Follows log ∧
        (s.Readable row → ∃ shown, s.readRow row = .ok shown ∧ shown.Reads row) := by
  have hfollows := follows_of_logged h
  refine ⟨nodup_view_ids hfollows.keyed.items, fun id => hfollows.exists_row_iff, hfollows.files, ?_⟩
  intro row hrow
  obtain ⟨item, hitem, ⟨hlive, -⟩, rfl⟩ := mem_view.1 hrow
  refine ⟨hfollows.viewRow hitem hlive, fun hreadable => ?_⟩
  obtain ⟨shown, hshown⟩ := exists_readRow.2 hreadable
  exact ⟨shown, hshown, reads_of_readRow hshown⟩

/-- What is done to two items: the first has two files, the later upload first, and its user takes back
when it was taken and says only the zone; the second is deleted. -/
def shoreLog : Log :=
  let details : FileDetails := ⟨"sea.jpg", 1024, 800, 600, "image/jpeg", none, none, none⟩
  let taken := fun t zone => { Metadata.empty with taken := some ⟨⟨t, 0⟩, 0⟩, zone := some zone }
  [.createCatalog "home" "Home",
    .createMedia "one" "home" "2020-01-01T00:00:00.000Z" (taken 1577836800 "+01:00"),
    .createMedia "two" "home" "2020-01-02T00:00:00.000Z" .empty,
    .addFile "late" "one" ⟨1583020800, 0⟩ details (taken 1577840400 "+02:00"),
    .addFile "early" "one" ⟨1580515200, 0⟩ details (taken 1577844000 "+03:00"),
    .updateMedia "one" "2020-02-02T00:00:00.000Z" { Metadata.empty with zone := some "+04:00" },
    .deleteMedia "two" "2020-02-03T00:00:00.000Z"]

/-- After it a transaction is given up, and what is deleted cannot be changed. -/
def shore : List Operation :=
  shoreLog ++ [.transaction [.deleteMedia "one" "2020-02-04T00:00:00.000Z"] false,
    .updateMedia "two" "2020-02-05T00:00:00.000Z" .empty]

theorem done_shore : Operation.allDone .empty shore = shoreLog := rfl

/-- The first item is in the view, with the later upload and what that says of when it was taken. -/
theorem view_follows_shore : Logged (fun _ _ => True) shoreLog (after shore) ∧
    (¬∃ row ∈ (after shore).view "home", row.id = "two") ∧
      ∃ row ∈ (after shore).view "home", row.id = "one" ∧ row.Follows shoreLog ∧
        row.file.map (·.id) = some "late" ∧
          (row.values.taken, row.values.zone) = (some "2020-01-01T01:00:00.000Z", some "+02:00") ∧
            ∃ shown, (after shore).readRow row = .ok shown ∧ shown.Reads row := by
  have hlogged : Logged (fun _ _ => True) shoreLog (after shore) :=
    done_shore ▸ logged_after (Operation.allAlong_of_forall fun _ _ => trivial)
  obtain ⟨-, hids, -, hrows⟩ := view_follows hlogged "home"
  refine ⟨hlogged, ?_, ?_⟩
  · rw [hids]
    rintro ⟨-, hnever⟩
    exact hnever "2020-02-03T00:00:00.000Z" (by simp [shoreLog])
  · obtain ⟨row, hrow, hid⟩ := (hids "one").2
      ⟨⟨_, _, List.mem_cons_of_mem _ List.mem_cons_self⟩, by simp [shoreLog]⟩
    have hview : (after shore).view "home" = [_] := rfl
    have hstamps : ∀ row ∈ (after shore).view "home", row.HasStamps := by decide
    refine ⟨row, hrow, hid, (hrows row hrow).1, ?_, ?_,
      (hrows row hrow).2 ((hstamps row hrow).readable_of_linkless rfl)⟩
    all_goals
      rw [hview, List.mem_singleton] at hrow
      subst hrow
      rfl

/-- An item whose file says that it lies on the equator, and whose user gives a latitude that is no
number. -/
def driftLog : Log :=
  let details : FileDetails := ⟨"sea.jpg", 1024, 800, 600, "image/jpeg", none, none, none⟩
  let lies := fun x : Double => { Metadata.empty with
    real := fun f => if f = .latitude then some x else none }
  [.createCatalog "home" "Home", .createMedia "one" "home" "2020-01-01T00:00:00.000Z" .empty,
    .addFile "sea" "one" ⟨1577836800, 0⟩ details (lies (.number (.zero false))),
    .updateMedia "one" "2020-01-02T00:00:00.000Z" (lies .notANumber)]

/-- After it the item is deleted in a transaction that is given up. -/
def drift : List Operation :=
  driftLog ++ [.transaction [.deleteMedia "one" "2020-01-03T00:00:00.000Z"] false]

/-- The user's latitude is there, and what the view has is that of the file. The item has been deleted,
and is in the view. -/
theorem view_drift : Operation.allDone .empty drift = driftLog ∧
    (∃ now said, Log.last? (Operation.said? "one") driftLog = some (now, said) ∧
      said.real .latitude = some .notANumber) ∧
    (Operation.deleteMedia "one" "2020-01-03T00:00:00.000Z").succeeds
      { after driftLog with inTransaction := true } = true ∧
    ∃ row, (after drift).view "home" = [row] ∧ row.id = "one" ∧ (after drift).Readable row ∧
      row.values.real .latitude = some (.zero false) := by
  refine ⟨rfl, ⟨_, _, rfl, rfl⟩, by decide, _, rfl, rfl, ?_, rfl⟩
  exact ViewRow.HasStamps.readable_of_linkless (by decide) rfl

end Store

end MediaCatalog
