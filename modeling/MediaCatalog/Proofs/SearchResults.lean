import MediaCatalog.Proofs.QueryMeaning
import MediaCatalog.Proofs.Readable
import MediaCatalog.Search.Basic
/-!
# What a search returns

A caller who may read a catalog gets the rows on which an accepted query is true, each as often as it
stands in the view, in the order shown. Only the limits of statements and of wildcard patterns refuse
such a search.
-/

namespace MediaCatalog

/-! ## Order -/

namespace ViewRow

variable {a b c : ViewRow}

/-- The later row first; of two rows of one time, that with the smaller id. -/
def Precedes (a b : ViewRow) : Prop := b.key < a.key ∨ (a.key = b.key ∧ a.id ≤ b.id)

theorem isShownBefore_iff : a.isShownBefore b = true ↔ a.Precedes b := by
  simp [isShownBefore, Precedes]

theorem Precedes.trans (hab : a.Precedes b) (hbc : b.Precedes c) : a.Precedes c := by
  rcases hab with hab | ⟨hab, hid⟩ <;> rcases hbc with hbc | ⟨hbc, hid'⟩
  · exact .inl (String.lt_trans hbc hab)
  · exact .inl (hbc ▸ hab)
  · exact .inl (hab ▸ hbc)
  · exact .inr ⟨hab.trans hbc, String.le_trans hid hid'⟩

/-- Rows that come before each other have one id. -/
theorem Precedes.id_eq (hab : a.Precedes b) (hba : b.Precedes a) : a.id = b.id := by
  rcases hab with hab | ⟨hab, hid⟩ <;> rcases hba with hba | ⟨hba, hid'⟩
  · exact absurd (String.lt_trans hab hba) (String.lt_irrefl _)
  · exact absurd (hba ▸ hab) (String.lt_irrefl _)
  · exact absurd (hab ▸ hba) (String.lt_irrefl _)
  · exact String.le_antisymm hid hid'

theorem precedes_total (a b : ViewRow) : a.Precedes b ∨ b.Precedes a := by
  by_cases hab : a.key < b.key
  · exact .inr (.inl hab)
  · by_cases hba : b.key < a.key
    · exact .inl (.inl hba)
    · have hkey : a.key = b.key := String.le_antisymm (String.not_lt.1 hba) (String.not_lt.1 hab)
      rcases String.le_total a.id b.id with h | h
      · exact .inl (.inr ⟨hkey, h⟩)
      · exact .inr (.inr ⟨hkey.symm, h⟩)

theorem pairwise_mergeSort_isShownBefore (rows : List ViewRow) :
    (rows.mergeSort isShownBefore).Pairwise Precedes := by
  refine (List.pairwise_mergeSort ?_ ?_ rows).imp fun h => isShownBefore_iff.1 h
  · intro a b c hab hbc
    exact isShownBefore_iff.2 ((isShownBefore_iff.1 hab).trans (isShownBefore_iff.1 hbc))
  · intro a b
    rw [Bool.or_eq_true, isShownBefore_iff, isShownBefore_iff]
    exact precedes_total a b

end ViewRow

/-! ## Rows -/

namespace Store

/-- The rows of the view on which a query is true, each as often as it stands there, in the order in
which rows are shown. -/
structure Shows (s : Store) (catalog : String) (q : Query) (shown : List ViewRow) : Prop where
  perm : shown.Perm ((s.view catalog).filter fun row => q.meaning s catalog row none = .yes)
  ordered : shown.Pairwise ViewRow.Precedes

variable {s : Store} {catalog : String} {q : Query} {p : Predicate} {shown : List ViewRow}
  {rows : List MediaRow}

theorem select_shows (h : p.Means s catalog .media q) : s.Shows catalog q (s.select p (s.view catalog)) := by
  refine ⟨?_, ViewRow.pairwise_mergeSort_isShownBefore _⟩
  have hfilter : (s.view catalog).filter (p.holds s)
      = (s.view catalog).filter fun row => q.meaning s catalog row none = .yes := by
    refine List.filter_congr fun row _ => ?_
    rw [Bool.eq_iff_iff, Predicate.holds, Truth.isYes_iff, decide_eq_true_eq]
    have hrow : p.eval s (.ofRow row) = q.meaning s catalog row none := h row none rfl
    rw [hrow]
  rw [← hfilter]
  exact List.mergeSort_perm _ _

theorem Shows.mem (h : s.Shows catalog q shown) {row : ViewRow} :
    row ∈ shown ↔ row ∈ s.view catalog ∧ q.meaning s catalog row none = .yes := by
  rw [h.perm.mem_iff, List.mem_filter, decide_eq_true_eq]

/-- Where the rows of the view can be read back, so can those that are shown. -/
theorem Shows.exists_rows (h : s.Shows catalog q shown) (hrows : ∀ row ∈ s.view catalog, s.Readable row) :
    ∃ rows, shown.mapM s.readRow = .ok rows :=
  exists_mapM_eq_ok.2 fun row hrow => exists_readRow.2 (hrows row (h.mem.1 hrow).1)

/-- A row that is read back keeps its id. -/
theorem readRow_id {row : ViewRow} {r : MediaRow} (h : s.readRow row = .ok r) : r.id = row.id := by
  simp only [readRow, bind_eq_ok, pure, Except.pure, Except.ok.injEq] at h
  obtain ⟨_, -, _, -, _, -, _, -, _, -, rfl⟩ := h
  rfl

theorem nodup_view_ids (hids : (s.items.map (·.id)).Nodup) :
    ((s.view catalog).map (·.id)).Nodup := by
  rw [view, List.map_map]
  exact hids.sublist (List.filter_sublist.map MediaItem.id)

end Store

/-! ## Refusals -/

/-- A limit that a predicate exceeds, for the error that it gives. -/
inductive Query.Exceeds (q : Query) (p : Predicate) : StoreError → Prop
  | deep : p.isShallow = false → Exceeds q p .deepCondition
  | many : p.isBindable = false → Exceeds q p .manyValues
  | long {x : FieldQuery} : x ∈ q.conditions → x.isLong = true → Exceeds q p .longPattern

namespace Store

variable {s : Store} {catalog : String} {q : Query} {p : Predicate}

/-- A sound predicate selects its rows or exceeds a limit. -/
theorem queryMedia_of_sound (hsound : p.IsSound catalog .media q) (hdocuments : s.hasMalformed = false) :
    (∃ e, s.queryMedia catalog p = .error e ∧ q.Exceeds p e) ∨
      s.queryMedia catalog p = (s.select p (s.view catalog)).mapM s.readRow := by
  have hscoped : p.isScoped [] = true := Predicate.isScoped_of_staysIn hsound.stays
  unfold queryMedia
  cases hshallow : p.isShallow
  · exact .inl ⟨_, rfl, .deep hshallow⟩
  · cases hbindable : p.isBindable
    · exact .inl ⟨_, rfl, .many hbindable⟩
    · simp only [hscoped, hdocuments, Bool.not_true, Bool.false_eq_true, if_false]
      cases hfailure : p.failure? s catalog with
      | none => exact .inr rfl
      | some e =>
        obtain ⟨rfl, x, hx, hlong⟩ := hsound.failure hfailure
        exact .inl ⟨_, rfl, .long hx hlong⟩

/-- A query that succeeds has met no malformed location, and has read the rows that it selects. -/
theorem select_of_queryMedia {rows : List MediaRow} (h : s.queryMedia catalog p = .ok rows) :
    s.hasMalformed = false ∧ (s.select p (s.view catalog)).mapM s.readRow = .ok rows := by
  unfold queryMedia at h
  dsimp only at h
  split_ifs at h with _ _ _ hmalformed
  split at h
  · cases h
  · exact ⟨eq_false_of_ne_true hmalformed, h⟩

end Store

/-! ## Searching -/

namespace SearchService

variable {service : SearchService} {caller catalog : String} {q : Query} {p : Predicate}

theorem search_eq (hread : (service.authorize caller catalog).canRead = true)
    (hcheck : q.check false service.maxDepth = .ok ()) (hp : q.compile catalog .media = .ok p) :
    service.search caller catalog q
      = (service.store.queryMedia catalog p.normalize).mapError .storage := by
  simp [search, requireRead, hread, execute, prepare, hcheck, hp, bind, Except.bind, pure,
    Except.pure, Except.mapError]

/-- An accepted search reads the rows on which the query is true, unless it exceeds a limit. -/
theorem exists_selected (hread : (service.authorize caller catalog).canRead = true)
    (hcheck : q.check false service.maxDepth = .ok ()) (hdocuments : service.store.hasMalformed = false) :
    ∃ p, q.compile catalog .media = .ok p ∧
      ((∃ e, service.search caller catalog q = .error (.storage e) ∧ q.Exceeds p.normalize e) ∨
        ∃ shown, service.store.Shows catalog q shown ∧
          service.search caller catalog q = (shown.mapM service.store.readRow).mapError .storage) := by
  obtain ⟨p, hp, hsound⟩ := @Query.exists_compile_sound service.maxDepth 1 .media q hcheck catalog
  obtain ⟨p', hp', hmeans⟩ :=
    @Query.exists_compile_means service.maxDepth 1 .media q hcheck service.store catalog
  obtain rfl : p = p' := Except.ok.inj (hp.symm.trans hp')
  refine ⟨p, hp, ?_⟩
  rw [search_eq hread hcheck hp]
  rcases Store.queryMedia_of_sound hsound.normalize hdocuments with ⟨e, he, hexceeds⟩ | hselect
  · rw [he]
    exact .inl ⟨e, rfl, hexceeds⟩
  · have hnormal : p.normalize.Means service.store catalog .media q := fun row thing hthing => by
      rw [Predicate.eval_normalize, hmeans row thing hthing]
    rw [hselect]
    exact .inr ⟨_, Store.select_shows hnormal, rfl⟩

/-- A search whose predicate keeps within all limits reads the rows on which the query is true. -/
theorem exists_selected_of_isModest (hread : (service.authorize caller catalog).canRead = true)
    (hcheck : q.check false service.maxDepth = .ok ()) (hdocuments : service.store.hasMalformed = false)
    (hp : q.compile catalog .media = .ok p) (hshallow : p.normalize.isShallow = true)
    (hbindable : p.normalize.isBindable = true) (hshort : ∀ x ∈ q.conditions, x.isLong = false) :
    ∃ shown, service.store.Shows catalog q shown ∧
      service.search caller catalog q = (shown.mapM service.store.readRow).mapError .storage := by
  obtain ⟨p', hp', ⟨e, -, hexceeds⟩ | hselected⟩ := exists_selected hread hcheck hdocuments
  · obtain rfl := Except.ok.inj (hp.symm.trans hp')
    rcases hexceeds with hdeep | hmany | ⟨hx, hlong⟩
    · rw [hshallow] at hdeep
      cases hdeep
    · rw [hbindable] at hmany
      cases hmany
    · rw [hshort _ hx] at hlong
      cases hlong
  · exact hselected

/-- Anyone may read a store with one media item. -/
def openService : SearchService := ⟨Query.oneItem, fun _ _ => .read, defaultMaxDepth⟩

theorem openService_rows : ∀ row ∈ Query.oneItem.view "home", Query.oneItem.Readable row := by
  have hstamps : ∀ row ∈ Query.oneItem.view "home", row.HasStamps := by decide
  exact fun row hrow => (hstamps row hrow).readable_of_linkless rfl

end SearchService

/-! ## Wide groups -/

namespace Query

/-- The same condition many times. -/
def wide (n : Nat) : Query :=
  .group ⟨.all, false, none, false⟩
    (List.replicate n (.field ⟨"title", none, .empty, none, false⟩))

theorem compileAll_replicate {catalog : String} {scope : Scope} {q : Query} {p : Predicate}
    (h : q.compile catalog scope = .ok p) (n : Nat) :
    compileAll catalog scope (List.replicate n q) = .ok (List.replicate n p) := by
  refine compileAll_eq_ok.2 ?_
  induction n with
  | zero => exact .nil
  | succ n ih => exact .cons h ih

end Query

namespace SearchService

end SearchService

end MediaCatalog
