import MediaCatalog.Proofs.Chronology
import MediaCatalog.Proofs.Inversion
import MediaCatalog.Proofs.MediaHistory
/-!
# Searching by time

A condition that compares when a media item was taken with a timestamp compares the two instants, to
the millisecond, whatever offsets and however many digits they were written with.
-/

namespace MediaCatalog

/-! ## Comparing instants -/

/-- How instants stand to each other, to the millisecond, when an operator compares them. -/
def Operator.Relates (op : Operator) (t u : Time.Instant) : Prop :=
  match op with
  | .equal => t.truncated = u.truncated
  | .less => t.Before u
  | .lessOrEqual => t.Before u ∨ t.truncated = u.truncated
  | _ => False

instance {op : Operator} {t u : Time.Instant} : Decidable (op.Relates t u) :=
  match op with
  | .equal => inferInstanceAs (Decidable (t.truncated = u.truncated))
  | .less => inferInstanceAs (Decidable (t.Before u))
  | .lessOrEqual => inferInstanceAs (Decidable (t.Before u ∨ t.truncated = u.truncated))
  | .empty | .contains | .startsWith | .endsWith | .matches => inferInstanceAs (Decidable False)

variable {op : Operator} {invert : Bool} {t u : Time.Instant}

theorem Cell.order?_text {a b : String} : order? (text a) (text b) = some (compare a b) := rfl

theorem compare_text_eq_lt {a b : String} : compare a b = .lt ↔ a < b := compareOfLessAndEq_eq_lt

theorem compare_text_ne_gt {a b : String} : compare a b ≠ .gt ↔ a < b ∨ a = b := by
  rw [← compare_text_eq_lt, ← Std.compare_eq_iff_eq (a := a)]
  cases compare a b <;> decide

theorem Truth.ofBool_bne_eq_yes {p : Prop} [Decidable p] :
    ofBool (decide p != invert) = yes ↔ (p ↔ invert = false) := by
  by_cases hp : p <;> cases invert <;> simp [hp, ofBool]

/-- The stored texts of instants are compared as the instants are. -/
theorem Operator.truth_stored (hop : op.isOrder = true) (ht : t.IsPlain) (hu : u.IsPlain) :
    op.truth invert (.text t.stored) (.text u.stored) = .yes ↔ (op.Relates t u ↔ invert = false) := by
  have hless := Time.Instant.stored_lt_stored ht.1 hu.1 ht.2 hu.2
  have hsame := Time.Instant.stored_eq_stored ht.1 hu.1 ht.2 hu.2
  cases op with
  | equal => rw [truth, Cell.same_text, Truth.ofBool_bne_eq_yes, Relates, hsame]
  | less => rw [truth, Cell.order?_text, Truth.ofBool_bne_eq_yes, Relates, compare_text_eq_lt, hless]
  | lessOrEqual =>
    rw [truth, Cell.order?_text, Truth.ofBool_bne_eq_yes, Relates, compare_text_ne_gt, hless, hsame]
  | empty | contains | startsWith | endsWith | «matches» => cases hop

/-! ## When items were taken -/

/-- What a log says of a media item last, or else of its current file, is when it was taken, if either says
so. -/
def ViewRow.SaysTaken (log : Log) (row : ViewRow) (taken : Option Time.ZonedInstant) : Prop :=
  ∃ now said filed, log.last? (Operation.said? row.id) = some (now, said) ∧
    Upload.Current row.id (log.uploads row.id) row.file filed ∧ said.taken.or filed.taken = taken

/-- The row shows an instant in a plain year. -/
def ViewRow.ShowsTaken (row : ViewRow) (t : Time.Instant) : Prop :=
  t.IsPlain ∧ row.values.taken = some t.stored

namespace ViewRow

variable {s : Store} {log : Log} {row : ViewRow} {taken taken' : Option Time.ZonedInstant}
  {z : Time.ZonedInstant}

theorem SaysTaken.unique (h : row.SaysTaken log taken) (h' : row.SaysTaken log taken') :
    taken = taken' := by
  obtain ⟨now, said, filed, hsaid, hfiled, rfl⟩ := h
  obtain ⟨now', said', filed', hsaid', hfiled', rfl⟩ := h'
  obtain ⟨-, rfl⟩ := Prod.mk.inj (Option.some.inj (hsaid.symm.trans hsaid'))
  rw [hfiled.unique hfiled']

/-- A row that follows a log shows what the log says. -/
theorem Follows.exists_saysTaken (h : row.Follows log) :
    ∃ taken, row.SaysTaken log taken ∧ row.values.taken = taken.map (·.instant.stored) := by
  obtain ⟨now, said, filed, hsaid, hfiled, hmerges⟩ := h.merges
  refine ⟨_, ⟨now, said, filed, hsaid, hfiled, rfl⟩, ?_⟩
  rw [hmerges.taken.1]
  cases htaken : said.taken <;> simp [htaken]

/-- A clock shows the instant that a log says, if it shows all that the log writes. -/
theorem SaysTaken.hasClock (hlog : ∀ op ∈ log, op.WritesAt Time.Instant.HasClock)
    (h : row.SaysTaken log (some z)) : z.instant.HasClock := by
  obtain ⟨now, said, filed, hsaid, hfiled, htaken⟩ := h
  rcases Option.or_eq_some_iff.1 htaken with hitself | ⟨-, hother⟩
  · obtain ⟨op, hop, hsays⟩ := Log.exists_of_last? hsaid
    exact (hlog op hop).said hsays z hitself
  · rcases hfiled.metadata with rfl | ⟨u, hu, rfl⟩
    · cases hother
    · obtain ⟨op, hop, hadds⟩ := List.mem_filterMap.1 hu
      exact (hlog op hop).uploaded hadds z hother

/-- A row that can be read back shows the instant that the log says. -/
theorem SaysTaken.shows (hlog : ∀ op ∈ log, op.WritesAt Time.Instant.HasClock)
    (hfollows : row.Follows log) (hreadable : s.Readable row) (h : row.SaysTaken log (some z)) :
    row.ShowsTaken z.instant := by
  obtain ⟨taken, hsays, hstored⟩ := hfollows.exists_saysTaken
  obtain rfl := hsays.unique h
  have hclock := h.hasClock hlog
  exact ⟨⟨hclock, hclock.isStamp_stored.1 (hreadable.taken _ hstored)⟩, hstored⟩

end ViewRow

/-! ## The condition -/

namespace Query

variable {s : Store} {catalog v v' : String} {row : ViewRow} {z z' : Time.ZonedInstant} {limit : Nat}

/-- The condition that compares when an item was taken with a timestamp. -/
def taken (op : Operator) (v : String) (invert : Bool) : Query :=
  .field ⟨"taken", none, op, some (.string v), invert⟩

/-- What the condition is compiled to. -/
def takenPredicate (op : Operator) (u : Time.Instant) (invert : Bool) : Predicate :=
  .compare ⟨.media .taken, none, op, some (.text u.stored), invert⟩

theorem check_taken (hop : op.isOrder = true) (hv : Time.parse? v = some z) (hlimit : 1 ≤ limit) :
    (taken op v invert).check false limit = .ok () :=
  checkNode_field.2 ⟨hlimit,
    FieldQuery.check_eq_ok.2 ⟨.metadata .taken, .date, rfl, rfl, .date hop rfl hv⟩⟩

theorem compile_taken (hv : Time.parse? v = some z) :
    (taken op v invert).compile catalog .media = .ok (takenPredicate op z.instant invert) := by
  have hcompile : (taken op v invert).compile catalog .media =
      (FieldQuery.operand? ⟨"taken", none, op, some (.string v), invert⟩ (.media .taken)).map fun o =>
        .compare ⟨.media .taken, none, op, o, invert⟩ := rfl
  rw [hcompile]
  simp [FieldQuery.operand?, FieldQuery.operand, Json.date?, Json.text?, hv, takenPredicate, Except.map]

theorem isShallow_taken : (takenPredicate op u invert).normalize.isShallow = true := by
  cases op <;> cases invert <;> rfl

theorem isBindable_taken : (takenPredicate op u invert).normalize.isBindable = true := by
  cases op <;> cases invert <;> rfl

theorem isLong_taken (hop : op.isOrder = true) :
    ∀ x ∈ (taken op v invert).conditions, x.isLong = false := by
  intro x hx
  obtain rfl := List.mem_singleton.1 hx
  cases op <;> first | rfl | cases hop

theorem meaning_taken (hop : op.isOrder = true) (hv : Time.parse? v = some z)
    (hz : z.instant.HasPlainYear) (ht : row.ShowsTaken t) :
    (taken op v invert).meaning s catalog row none = .yes ↔
      (op.Relates t z.instant ↔ invert = false) := by
  have hmeaning : (taken op v invert).meaning s catalog row none =
      op.truth invert (.ofText? row.values.taken) (.ofText? ((Time.parse? v).map (·.instant.stored))) :=
    rfl
  rw [hmeaning, ht.2, hv]
  exact Operator.truth_stored hop ht.1 ⟨Time.hasClock_of_parse? hv, hz⟩

end Query

/-! ## Searches -/

namespace SearchService

variable {service : SearchService} {caller catalog : String} {q q' : Query} {log : Log}

/-- Queries that are accepted alike and compiled to the same find the same. -/
theorem search_eq_of_compile (hcheck : q.check false service.maxDepth = q'.check false service.maxDepth)
    (hcompile : q.compile catalog .media = q'.compile catalog .media) :
    service.search caller catalog q = service.search caller catalog q' := by
  simp only [search, execute, prepare, hcheck, hcompile]

/-- Searches of a catalog by time go by what a log says of when its items were taken. -/
structure ComparesInstants (service : SearchService) (caller catalog : String) (log : Log) : Prop where
  /-- A search finds the items that were taken at instants of which its operator holds, or does not if
  it is inverted. -/
  finds : ∀ op v z invert, op.isOrder = true → Time.parse? v = some z → z.instant.HasPlainYear →
    ∃ rows, service.search caller catalog (.taken op v invert) = .ok rows ∧
      ∀ row ∈ service.store.view catalog, ∀ taken, row.SaysTaken log (some taken) →
        ((∃ r ∈ rows, r.id = row.id) ↔ (op.Relates taken.instant z.instant ↔ invert = false))
  /-- Of each item the log says when it was taken, or does not. -/
  said : ∀ row ∈ service.store.view catalog, ∃ taken,
    row.SaysTaken log taken ∧ row.values.taken = taken.map (·.instant.stored)
  /-- Timestamps that name the same instant are searched for alike. -/
  same : ∀ op v z v' z' invert, op.isOrder = true → Time.parse? v = some z →
    Time.parse? v' = some z' → z.instant.truncated = z'.instant.truncated →
      service.search caller catalog (.taken op v invert) =
        service.search caller catalog (.taken op v' invert)
  /-- The sixtieth second of a minute is later than all before it, and earlier than the next minute. -/
  leap : ∀ t u : Time.Instant, t.IsPlain → u.IsPlain → (t.wallClock 0).second = 60 →
    ((u.wallClock 0).second < 60 → u.seconds / 60 = t.seconds / 60 → u.Before t) ∧
      (t.seconds / 60 < u.seconds / 60 → t.Before u)
  /-- Texts stand in the order of their instants. -/
  ordered : ∀ t u : Time.Instant, t.IsPlain → u.IsPlain → (t.stored < u.stored ↔ t.Before u)
  distinct : ∀ t u : Time.Instant, t.IsPlain → u.IsPlain →
    (t.stored = u.stored ↔ t.truncated = u.truncated)
  readBack : ∀ t : Time.Instant, t.IsPlain → Time.parse? t.stored = some ⟨t.truncated, 0⟩

/-- After a run that writes instants of clocks, the searches of a catalog that can be read back compare
instants. -/
theorem comparesInstants
    (hrun : Store.Logged (fun _ op => op.WritesAt Time.Instant.HasClock) log service.store)
    (hread : (service.authorize caller catalog).canRead = true) (hdepth : 1 ≤ service.maxDepth)
    (hrows : ∀ row ∈ service.store.view catalog, service.store.Readable row) :
    service.ComparesInstants caller catalog log := by
  have hfollows : ∀ row ∈ service.store.view catalog, row.Follows log := by
    intro row hrow
    obtain ⟨item, hitem, ⟨hlive, -⟩, rfl⟩ := Store.mem_view.1 hrow
    exact (Store.follows_of_logged hrun).viewRow hitem hlive
  constructor
  case finds =>
    intro op v z invert hop hv hz
    obtain ⟨shown, rows, hfinds⟩ := exists_finds_of_isModest hread (Query.check_taken hop hv hdepth)
      hrun.later.hasMalformed_eq_false hrows (Query.compile_taken hv) Query.isShallow_taken
      Query.isBindable_taken (Query.isLong_taken hop)
    refine ⟨rows, hfinds.1, fun row hrow taken htaken => ?_⟩
    have hshows := htaken.shows hrun.forall_mem (hfollows row hrow) (hrows row hrow)
    rw [hfinds.exists_row_iff hrun.keyed.items hrow, Query.meaning_taken hop hv hz hshows]
  case said => exact fun row hrow => (hfollows row hrow).exists_saysTaken
  case same =>
    intro op v z v' z' invert hop hv hv' hsame
    refine search_eq_of_compile ?_ ?_
    · rw [Query.check_taken hop hv hdepth, Query.check_taken hop hv' hdepth]
    · rw [Query.compile_taken hv, Query.compile_taken hv', Query.takenPredicate, Query.takenPredicate,
        ← Time.Instant.stored_truncated, hsame, Time.Instant.stored_truncated]
  case leap => exact fun t u ht hu => Time.Instant.before_of_leap ht.1 hu.1
  case ordered => exact fun t u ht hu => Time.Instant.stored_lt_stored ht.1 hu.1 ht.2 hu.2
  case distinct => exact fun t u ht hu => Time.Instant.stored_eq_stored ht.1 hu.1 ht.2 hu.2
  case readBack => exact fun t ht => Time.Instant.parse?_stored ht.1 ht.2

/-- Two media items taken half a second apart at the end of the year 2016, the first in its leap second,
the second by a clock that shows eleven o'clock. -/
def leapSecond : Log :=
  let taken := fun z => { Metadata.empty with taken := some z }
  [.createUser "owner@example.com" "Owner", .createCatalog "home" "Home",
    .grant "owner@example.com" "home" false,
    .createMedia "one" "home" "2020-01-01T00:00:00.000Z" (taken ⟨⟨1483228799, 1500000000⟩, 0⟩),
    .createMedia "two" "home" "2020-01-01T00:00:00.000Z" (taken ⟨⟨1483228800, 0⟩, -3600⟩)]

/-- Both instants have been read. -/
theorem leapSecond_logged : Store.Logged (fun _ op => op.WritesAt Time.Instant.HasClock) leapSecond
    (.after leapSecond) := by
  have hone : Metadata.IsRead { Metadata.empty with taken := some ⟨⟨1483228799, 1500000000⟩, 0⟩ } :=
    .inr ⟨.object [("taken", .string "2016-12-31T23:59:60.5Z")], rfl⟩
  have htwo : Metadata.IsRead { Metadata.empty with taken := some ⟨⟨1483228800, 0⟩, -3600⟩ } :=
    .inr ⟨.object [("taken", .string "2016-12-31T23:00:00-01:00")], rfl⟩
  have hdone : Operation.allDone .empty leapSecond = leapSecond := rfl
  exact hdone ▸ Store.logged_after (Operation.AllWrite.allAlong
    ⟨trivial, trivial, trivial, ⟨by decide, hone.takenAt⟩, ⟨by decide, htwo.takenAt⟩, trivial⟩)

/-- Only the first is before the new year, which is found by a clock of any offset. -/
theorem comparesInstants_leapSecond :
    let service := ofStore (.after leapSecond)
    let newYear := "2016-12-31T19:00:00.0009-05:00"
    (Store.Logged (fun _ op => op.WritesAt Time.Instant.HasClock) leapSecond service.store ∧
      (service.authorize "owner@example.com" "home").canRead = true ∧ 1 ≤ service.maxDepth ∧
      ∀ row ∈ service.store.view "home", service.store.Readable row) ∧
    (∃ rows, service.search "owner@example.com" "home" (.taken .less newYear false) = .ok rows ∧
      (∃ r ∈ rows, r.id = "one") ∧ ¬∃ r ∈ rows, r.id = "two") ∧
    (∃ rows, service.search "owner@example.com" "home" (.taken .equal newYear false) = .ok rows ∧
      (¬∃ r ∈ rows, r.id = "one") ∧ ∃ r ∈ rows, r.id = "two") ∧
    service.search "owner@example.com" "home" (.taken .equal newYear false) =
      service.search "owner@example.com" "home" (.taken .equal "2017-01-01T00:00:00Z" false) := by
  have hstamps : ∀ row ∈ (Store.after leapSecond).view "home", row.HasStamps := by decide
  have hrows : ∀ row ∈ (Store.after leapSecond).view "home", (Store.after leapSecond).Readable row :=
    fun row hrow => (hstamps row hrow).readable_of_linkless rfl
  have hlaws := @comparesInstants (ofStore (.after leapSecond)) "owner@example.com" "home" leapSecond
    leapSecond_logged rfl (by decide) hrows
  have hparse : Time.parse? "2016-12-31T19:00:00.0009-05:00" = some ⟨⟨1483228800, 900000⟩, -18000⟩ := by
    decide +kernel
  refine ⟨⟨leapSecond_logged, rfl, by decide, hrows⟩, ?_, ?_, ?_⟩
  · obtain ⟨rows, hsearch, hfinds⟩ := hlaws.finds .less _ _ false rfl hparse (by decide)
    have hone := hfinds _ (.head _) _ ⟨_, _, _, rfl, .none rfl, rfl⟩
    have htwo := hfinds _ (.tail _ (.head _)) _ ⟨_, _, _, rfl, .none rfl, rfl⟩
    exact ⟨rows, hsearch, hone.2 (by decide), fun h => absurd (htwo.1 h) (by decide)⟩
  · obtain ⟨rows, hsearch, hfinds⟩ := hlaws.finds .equal _ _ false rfl hparse (by decide)
    have hone := hfinds _ (.head _) _ ⟨_, _, _, rfl, .none rfl, rfl⟩
    have htwo := hfinds _ (.tail _ (.head _)) _ ⟨_, _, _, rfl, .none rfl, rfl⟩
    exact ⟨rows, hsearch, fun h => absurd (hone.1 h) (by decide), htwo.2 (by decide)⟩
  · exact hlaws.same .equal _ _ _ ⟨⟨1483228800, 0⟩, 0⟩ false rfl hparse (by decide) (by decide)

end SearchService

end MediaCatalog
