import MediaCatalog.Proofs.Locations
import MediaCatalog.Proofs.Records
import MediaCatalog.Proofs.Writes
/-!
# What a history keeps

Operations write metadata, times of upload and readings of the clock. What holds of all that a history
writes holds of all that its store keeps, in whatever order and whichever operations fail.
-/

namespace MediaCatalog

/-! ## Writes -/

/-- The instant is that of a timestamp. -/
def Time.Instant.IsRead (t : Time.Instant) : Prop := ∃ text z, Time.parse? text = some z ∧ z.instant = t

theorem Time.Instant.IsRead.hasClock {t : Time.Instant} (h : t.IsRead) : t.HasClock := by
  obtain ⟨text, z, hz, rfl⟩ := h
  exact Time.hasClock_of_parse? hz

namespace Operation

mutual

/-- The operation writes metadata, times of upload and locations that satisfy conditions, and readings
of the clock that are timestamps. -/
def Writes (M : Metadata → Prop) (U : Time.Instant → Prop) (L : Location → Prop) : Operation → Prop
  | createMedia _ _ now m => Time.IsStamp now ∧ M m
  | updateMedia _ now m => Time.IsStamp now ∧ M m
  | deleteMedia _ now => Time.IsStamp now
  | addFile _ _ uploaded _ m => U uploaded ∧ M m
  | setLocation _ _ location => ∀ l, location = some l → L l
  | transaction parts _ => AllWrite M U L parts
  | _ => True

def AllWrite (M : Metadata → Prop) (U : Time.Instant → Prop) (L : Location → Prop) :
    List Operation → Prop
  | [] => True
  | op :: ops => op.Writes M U L ∧ AllWrite M U L ops

end

/-- All that the operation writes has been read, from documents and timestamps. -/
def IsRead : Operation → Prop := Writes Metadata.IsRead Time.Instant.IsRead Location.IsRead

/-- The instants that the operation writes satisfy a condition. -/
def WritesAt (P : Time.Instant → Prop) : Operation → Prop :=
  Writes (Metadata.TakenAt P) P fun _ => True

variable {M N : Metadata → Prop} {U V : Time.Instant → Prop} {K L : Location → Prop}

theorem allWrite_iff {ops : List Operation} : AllWrite M U L ops ↔ ∀ op ∈ ops, op.Writes M U L := by
  induction ops with
  | nil => simp [AllWrite]
  | cons op ops ih => simp [AllWrite, ih]

mutual

theorem Writes.imp {op : Operation} (hM : ∀ m, M m → N m) (hU : ∀ t, U t → V t)
    (hL : ∀ l, L l → K l) (h : op.Writes M U L) : op.Writes N V K := by
  cases op with
  | createMedia _ _ _ m => exact ⟨h.1, hM m h.2⟩
  | updateMedia _ _ m => exact ⟨h.1, hM m h.2⟩
  | deleteMedia => exact h
  | addFile _ _ uploaded _ m => exact ⟨hU uploaded h.1, hM m h.2⟩
  | setLocation => exact fun l hl => hL l (h l hl)
  | transaction parts _ => exact AllWrite.imp hM hU hL h
  | _ => trivial

theorem AllWrite.imp {ops : List Operation} (hM : ∀ m, M m → N m) (hU : ∀ t, U t → V t)
    (hL : ∀ l, L l → K l) (h : AllWrite M U L ops) : AllWrite N V K ops := by
  cases ops with
  | nil => trivial
  | cons op ops => exact ⟨h.1.imp hM hU hL, AllWrite.imp hM hU hL h.2⟩

end

mutual

/-- What holds of all that is written holds of what each operation writes on its way. -/
theorem Writes.along {s : Store} {op : Operation} (h : op.Writes M U L) :
    op.Along (fun _ op => op.Writes M U L) s := by
  cases op with
  | transaction parts keep => exact fun _ _ => AllWrite.allAlong h
  | _ => exact h

theorem AllWrite.allAlong {s : Store} {ops : List Operation} (h : AllWrite M U L ops) :
    AllAlong (fun _ op => op.Writes M U L) s ops := by
  cases ops with
  | nil => trivial
  | cons op ops => exact ⟨h.1.along, AllWrite.allAlong h.2⟩

end

theorem IsRead.writesAt {op : Operation} (h : op.IsRead) : op.WritesAt Time.Instant.HasClock :=
  Writes.imp (fun _ => Metadata.IsRead.takenAt) (fun _ => Time.Instant.IsRead.hasClock)
    (fun _ _ => trivial) h

/-- The coordinates of locations that have been read are finite. -/
theorem IsRead.writesFinite {op : Operation} (h : op.IsRead) :
    op.Writes Metadata.IsRead Time.Instant.IsRead Location.IsFinite :=
  Writes.imp (fun _ hm => hm) (fun _ ht => ht) (fun _ => Location.IsRead.isFinite) h

end Operation

/-! ## Rows that are kept -/

variable {P : Time.Instant → Prop}

/-- The text is the stored text of an instant that satisfies a condition. -/
def Time.IsStoredAt (P : Time.Instant → Prop) (s : String) : Prop := ∃ t, P t ∧ t.stored = s

def StoredMetadata.TakenAt (P : Time.Instant → Prop) (m : StoredMetadata) : Prop :=
  ∀ s, m.taken = some s → Time.IsStoredAt P s

theorem Metadata.TakenAt.stored {m : Metadata} (h : m.TakenAt P) : m.stored.TakenAt P := by
  intro s hs
  obtain ⟨z, hz, rfl⟩ := Option.map_eq_some_iff.1 hs
  exact ⟨z.instant, h z hz, rfl⟩

/-- The readings of the clock are timestamps, and what the item was taken at satisfies a condition. -/
structure MediaItem.Keeps (P : Time.Instant → Prop) (i : MediaItem) : Prop where
  created : Time.IsStamp i.created
  updated : Time.IsStamp i.updated
  taken : i.values.TakenAt P

structure MediaFile.Keeps (P : Time.Instant → Prop) (f : MediaFile) : Prop where
  uploaded : Time.IsStoredAt P f.uploaded
  taken : f.values.TakenAt P

namespace Store

/-- The locations of links satisfy a condition. -/
def HasLocations (T : LocationText → Prop) (s : Store) : Prop :=
  ∀ l ∈ s.links, ∀ text, l.location = some text → T text

/-- The instants that are kept as text satisfy a condition, and the readings of the clock are
timestamps. -/
structure Keeps (P : Time.Instant → Prop) (s : Store) : Prop where
  items : ∀ i ∈ s.items, i.Keeps P
  files : ∀ f ∈ s.files, f.Keeps P

variable {s : Store} {id media catalog person : String} {r : Relation} {T : LocationText → Prop}

theorem HasLocations.locates (h : s.HasLocations LocationText.IsLocation) : s.Locates media :=
  fun x hx => h x.2 (mem_linked.1 hx).1

theorem keeps_empty : empty.Keeps P :=
  ⟨fun _ h => absurd h List.not_mem_nil, fun _ h => absurd h List.not_mem_nil⟩

theorem hasLocations_empty : empty.HasLocations T := fun _ h => absurd h List.not_mem_nil

/-! ## Operations -/

theorem HasLocations.filterLinks (h : s.HasLocations T) (p : Link → Bool) :
    { s with links := s.links.filter p }.HasLocations T :=
  fun l hl => h l (List.mem_filter.1 hl).1

/-- Links are added without a location. -/
theorem HasLocations.addLinks (h : s.HasLocations T) {added : List (String × String)} :
    { s with links := s.links ++ linksOf r catalog added }.HasLocations T := by
  intro l hl text htext
  rcases List.mem_append.1 hl with hl | hl
  · exact h l hl text htext
  · obtain ⟨x, -, rfl⟩ := List.mem_map.1 hl
    cases htext

theorem HasLocations.setPersonLocation (h : s.HasLocations T) {location : Option Location}
    (hlocation : ∀ l, location = some l → T (.document l.toJson.compact)) :
    (s.setPersonLocation media person location).2.HasLocations T := by
  intro l hl text htext
  obtain ⟨old, hold, rfl⟩ := List.mem_map.1 hl
  split at htext
  · obtain ⟨x, hx, rfl⟩ := Option.map_eq_some_iff.1 htext
    exact hlocation x hx
  · exact h old hold text htext

theorem Keeps.addItem (h : s.Keeps P) {i : MediaItem} (hi : i.Keeps P) :
    { s with items := s.items ++ [i] }.Keeps P := by
  refine ⟨?_, h.files⟩
  intro j hj
  rcases List.mem_append.1 hj with hj | hj
  · exact h.items j hj
  · rwa [List.mem_singleton.1 hj]

theorem Keeps.changeLive (h : s.Keeps P) {change : MediaItem → MediaItem}
    (hchange : ∀ i, i.Keeps P → (change i).Keeps P) : (s.changeLive id change).2.Keeps P := by
  refine ⟨?_, h.files⟩
  intro i hi
  obtain ⟨old, hold, rfl⟩ := List.mem_map.1 hi
  split
  · exact hchange old (h.items old hold)
  · exact h.items old hold

theorem Keeps.addFile (h : s.Keeps P) {f : MediaFile} (hf : f.Keeps P) :
    { s with files := s.files ++ [f] }.Keeps P := by
  refine ⟨h.items, ?_⟩
  intro g hg
  rcases List.mem_append.1 hg with hg | hg
  · exact h.files g hg
  · rwa [List.mem_singleton.1 hg]

/-! ## Histories -/

/-- What holds of all that operations write goes on to hold of all that is kept. -/
theorem kept_keeps : Operation.Kept (fun _ op => op.WritesAt P) (Keeps P) where
  flag h := ⟨h.items, h.files⟩
  changes {s op s'} hchanges hop h := by
    cases hchanges with
    -- The clock's readings and the metadata are all that is written of an item.
    | createMedia => exact h.addItem ⟨hop.1, hop.1, hop.2.stored⟩
    | updateMedia => exact h.changeLive fun i hi => ⟨hi.created, hop.1, hop.2.stored⟩
    | deleteMedia => exact h.changeLive fun i hi => ⟨hi.created, hop, hi.taken⟩
    | addFile => exact h.addFile ⟨⟨_, hop.1, rfl⟩, hop.2.stored⟩
    | _ => exact ⟨h.items, h.files⟩

/-- What holds of all that a history writes holds of all that is kept after it. -/
theorem keeps_after {history : List Operation} (h : ∀ op ∈ history, op.WritesAt P) :
    (after history).Keeps P :=
  kept_keeps.applyAll (Operation.allWrite_iff.2 h).allAlong keeps_empty

/-- What holds of all locations that are set goes on to hold of those that are kept. -/
theorem kept_locations {C : Store → Operation → Prop} (hC : ∀ s media person l,
      C s (.setLocation media person (some l)) → T (.document l.toJson.compact)) :
    Operation.Kept C (HasLocations T) where
  flag h := h
  changes {s op s'} hchanges hop h := by
    cases hchanges with
    | addRelations => exact h.addLinks
    | removeRelations => exact h.filterLinks _
    | setRelations => exact (h.filterLinks _).addLinks
    | setLocation =>
      refine h.setPersonLocation fun l hl => ?_
      subst hl
      exact hC _ _ _ _ hop
    | _ => exact h

/-- Where the coordinates of all locations that are set are finite, those that are kept can be read. -/
theorem locations_after {M : Metadata → Prop} {U : Time.Instant → Prop} {history : List Operation}
    (h : ∀ op ∈ history, op.Writes M U Location.IsFinite) :
    (after history).HasLocations LocationText.IsLocation :=
  (kept_locations fun _ _ _ l hop => (hop l rfl).isLocation).applyAll
    (Operation.allWrite_iff.2 h).allAlong hasLocations_empty

/-- Operations keep locations as documents, whatever their coordinates. -/
theorem Later.hasMalformed_eq_false {C : Store → Operation → Prop} (h : empty.Later C s) :
    s.hasMalformed = false := by
  have hdocuments : s.HasLocations (· ≠ .malformed) :=
    h.kept (kept_locations fun _ _ _ _ _ => nofun) hasLocations_empty
  refine List.any_eq_false.2 fun l hl hmalformed => ?_
  obtain ⟨-, hlocation⟩ := Bool.and_eq_true_iff.1 hmalformed
  exact hdocuments l hl _ (of_decide_eq_true hlocation) rfl

end Store

end MediaCatalog
