import MediaCatalog.Proofs.MediaHistory
/-!
# When a media item was last touched

A row of the view tells when its media item or its current file was last touched. This is the latest of
the time at which its user last said something of it and of all uploads of its files, in whichever order
they come. So it does not go back unless the clock does.
-/

namespace MediaCatalog

/-! ## From one point of a run to a later one -/

namespace Store

/-- What becomes of a store and what its log gains, from one point of a run to a later one. What is given
up with its transaction comes into no log. -/
inductive Onward (C : Store → Operation → Prop) (s : Store) : Log → Store → Prop
  | refl : Onward C s [] s
  | operation {log : Log} {t : Store} {op : Operation} : Onward C s log t → op.Along C t →
      Onward C s (log ++ op.done t) (op.apply t).2
  | opening {log : Log} {t : Store} : Onward C s log t → t.inTransaction = false →
      Onward C s log { t with inTransaction := true }
  | commit {log : Log} {t : Store} : Onward C s log t →
      Onward C s log { t with inTransaction := false }

variable {C : Store → Operation → Prop} {log log' : Log} {s t : Store}

theorem Logged.onward (h : Logged C log s) (hlater : s.Onward C log' t) :
    Logged C (log ++ log') t := by
  induction hlater with
  | refl => rwa [List.append_nil]
  | operation _ hop ih =>
    rw [← List.append_assoc]
    exact ih.operation hop
  | opening _ hout ih => exact ih.opening hout
  | commit _ ih => exact ih.commit

theorem Onward.applyAll {ops : List Operation} (h : s.Onward C log t)
    (hops : Operation.AllAlong C t ops) :
    s.Onward C (log ++ Operation.allDone t ops) (Operation.applyAll t ops) := by
  induction ops generalizing log t with
  | nil => rwa [Operation.allDone, List.append_nil]
  | cons op ops ih =>
    rw [Operation.applyAll, Operation.allDone, ← List.append_assoc]
    exact ih (h.operation hops.1) hops.2

end Store

/-! ## What is said, in time -/

namespace Log

/-- What a log says of a media item, at its creation or later, is said at times that do not decrease. -/
def InTime (log : Log) (id : String) : Prop :=
  (log.filterMap (Operation.said? id)).Pairwise fun x y => x.1 ≤ y.1

variable {log log' : Log} {id : String} {x y : String × Metadata}

/-- What is said last is said no earlier than what was said last before. -/
theorem InTime.last_le (h : (log ++ log').InTime id) (hx : log.last? (Operation.said? id) = some x)
    (hy : (log ++ log').last? (Operation.said? id) = some y) : x.1 ≤ y.1 := by
  rw [InTime, List.filterMap_append, List.pairwise_append] at h
  rw [last?, List.filterMap_append, List.getLast?_append] at hy
  cases hrest : (log'.filterMap (Operation.said? id)).getLast? with
  | none =>
    rw [hrest, Option.none_or, ← last?, hx] at hy
    cases hy
    exact le_rfl
  | some z =>
    rw [hrest, Option.some_or] at hy
    obtain rfl := Option.some.inj hy
    exact h.2.2 x (List.mem_of_getLast? hx) _ (List.mem_of_getLast? hrest)

end Log

/-! ## The latest of all -/

theorem Upload.Current.uploaded_le {media : String} {us : List Upload} {u : Upload} {f : MediaFile}
    {m : Metadata} (h : Current media us (Option.some f) m) (hu : u ∈ us) :
    u.uploaded.stored ≤ f.uploaded := by
  generalize hshown : Option.some f = shown at h
  cases h with
  | none => cases hshown
  | @some n v hv hlater =>
    cases hshown
    obtain ⟨k, hk⟩ := List.mem_iff_getElem?.1 hu
    by_cases hkn : k = n
    · rw [hkn, hv] at hk
      cases hk
      exact le_rfl
    · have hbefore := MediaFile.isBefore_iff.1 (hlater k u hk hkn)
      rcases Prod.Lex.toLex_lt_toLex.1 hbefore with hlt | ⟨heq, -⟩
      · exact hlt.le
      · exact heq.le

namespace ViewRow

variable {log log' : Log} {row row' : ViewRow} {now x : String} {said : Metadata}

/-- A row was last touched when its user last said something of it or when a file of it was uploaded,
whichever is the latest. -/
theorem Follows.le_updated_iff (h : row.Follows log)
    (hlast : log.last? (Operation.said? row.id) = some (now, said)) :
    x ≤ row.updated ↔ x ≤ now ∨ ∃ u ∈ log.uploads row.id, x ≤ u.uploaded.stored := by
  obtain ⟨now', said', filed, hsaid, hcurrent, hmerges⟩ := h.merges
  obtain ⟨rfl, rfl⟩ := Prod.mk.inj (Option.some.inj (hsaid.symm.trans hlast))
  rw [hmerges.updated]
  generalize row.file = shown at hcurrent
  cases hcurrent with
  | none hnone => simp [hnone]
  | @some n u hu hlater =>
    rw [Option.map_some, Option.getD_some, le_max_iff]
    refine or_congr_right ⟨fun hx => ⟨u, List.mem_of_getElem? hu, hx⟩, ?_⟩
    rintro ⟨v, hv, hx⟩
    exact hx.trans ((Upload.Current.some hu hlater).uploaded_le hv)

theorem Follows.uploaded_le_updated (h : row.Follows log) {u : Upload} (hu : u ∈ log.uploads row.id) :
    u.uploaded.stored ≤ row.updated := by
  obtain ⟨now, said, -, hsaid, -⟩ := h.merges
  exact (h.le_updated_iff hsaid).2 (.inr ⟨u, hu, le_rfl⟩)

/-- A log that goes on in time takes a row no further back. -/
theorem Follows.updated_le (h : row.Follows log) (h' : row'.Follows (log ++ log'))
    (hid : row'.id = row.id) (htime : (log ++ log').InTime row.id) : row.updated ≤ row'.updated := by
  obtain ⟨now, said, -, hsaid, -⟩ := h.merges
  obtain ⟨now', said', -, hsaid', -⟩ := h'.merges
  rw [h'.le_updated_iff hsaid']
  rw [hid] at hsaid' ⊢
  rcases (h.le_updated_iff hsaid).1 le_rfl with hnow | ⟨u, hu, hx⟩
  · exact .inl (hnow.trans (htime.last_le hsaid hsaid'))
  · refine .inr ⟨u, ?_, hx⟩
    rw [Log.uploads, List.filterMap_append]
    exact List.mem_append_left _ hu

end ViewRow

/-! ## Runs -/

namespace Store

variable {C : Store → Operation → Prop} {log log' : Log} {s t : Store} {catalog id : String}
  {row : ViewRow} {op : Operation} {u : Upload}

theorem Follows.of_mem_view (h : s.Follows log) (hrow : row ∈ s.view catalog) : row.Follows log := by
  obtain ⟨item, hitem, ⟨hlive, -⟩, rfl⟩ := mem_view.1 hrow
  exact h.viewRow hitem hlive

/-- A media item stays in the view until it is deleted. -/
theorem exists_row_of_onward (h : Logged C log s) (hlater : s.Onward C log' t)
    (hrow : ∃ row ∈ s.view catalog, row.id = id) (hnever : ∀ now, .deleteMedia id now ∉ log') :
    ∃ row ∈ t.view catalog, row.id = id := by
  obtain ⟨⟨now, m, hm⟩, hbefore⟩ := (follows_of_logged h).exists_row_iff.1 hrow
  refine (follows_of_logged (h.onward hlater)).exists_row_iff.2
    ⟨⟨now, m, List.mem_append_left _ hm⟩, fun now hdeleted => ?_⟩
  rcases List.mem_append.1 hdeleted with hdeleted | hdeleted
  · exact hbefore now hdeleted
  · exact hnever now hdeleted

theorem Follows.uploaded_le_of_addFile (h : s.Follows log) (hop : op.upload? id = some u)
    (hdone : op.succeeds s = true) (hrow : row ∈ (op.apply s).2.view catalog) (hid : row.id = id) :
    u.uploaded.stored ≤ row.updated := by
  have hsingle : op.IsSingle := by cases op <;> trivial
  have hafter := (@tracked_follows fun _ _ => True).done hsingle trivial hdone h
  refine (hafter.of_mem_view hrow).uploaded_le_updated ?_
  rw [hid, Log.uploads_append, hop, Option.toList_some]
  exact List.mem_append_right _ (List.mem_singleton_self u)

/-- From one point of a run to a later one, a media item of which nothing is said at an earlier time than
before stays in the view until it is deleted, and its row does not go back in when it was last touched.
At every point this is no earlier than any upload of its files, be they added in whatever order, and so
it is right after one is added. The time of a deletion does not matter, as there is no row after it. -/
theorem updated_never_back (h : Logged C log s) (hlater : s.Onward C log' t)
    (htime : (log ++ log').InTime id) :
    (∀ catalog, (∃ row ∈ s.view catalog, row.id = id) → (∀ now, .deleteMedia id now ∉ log') →
        ∃ row ∈ t.view catalog, row.id = id) ∧
      (∀ catalog catalog', ∀ row ∈ s.view catalog, ∀ row' ∈ t.view catalog', row.id = id →
        row'.id = id → row.updated ≤ row'.updated) ∧
      (∀ catalog, ∀ row ∈ t.view catalog, row.id = id →
        ∀ u ∈ (log ++ log').uploads id, u.uploaded.stored ≤ row.updated) ∧
      ∀ (op : Operation) (u : Upload), op.upload? id = some u → op.succeeds t = true →
        ∀ catalog, ∀ row ∈ (op.apply t).2.view catalog, row.id = id →
          u.uploaded.stored ≤ row.updated := by
  have hbefore := follows_of_logged h
  have hafter := follows_of_logged (h.onward hlater)
  refine ⟨?_, ?_, ?_, ?_⟩
  · exact fun catalog => exists_row_of_onward h hlater
  · intro catalog catalog' row hrow row' hrow' hid hid'
    rw [← hid] at htime
    exact (hbefore.of_mem_view hrow).updated_le (hafter.of_mem_view hrow') (hid'.trans hid.symm) htime
  · intro catalog row hrow hid u hu
    rw [← hid] at hu
    exact (hafter.of_mem_view hrow).uploaded_le_updated hu
  · exact fun op u hop hdone catalog row hrow hid => hafter.uploaded_le_of_addFile hop hdone hrow hid

/-- The point at which the first item has the later of its uploads. -/
def offshore : Store := after (shore.take 4)

/-- The earlier upload and what is said between the times of the two do not take the row back. -/
theorem updated_never_back_shore :
    Logged (fun _ _ => True) (shoreLog.take 4) offshore ∧
      offshore.Onward (fun _ _ => True) (shoreLog.drop 4) (after shore) ∧
      Log.InTime (shoreLog.take 4 ++ shoreLog.drop 4) "one" ∧
      ∃ row ∈ offshore.view "home", ∃ row' ∈ (after shore).view "home",
        row.id = "one" ∧ row'.id = "one" ∧ row.updated = "2020-03-01T00:00:00.000Z" ∧
          row.updated ≤ row'.updated := by
  have hlogged : Logged (fun _ _ => True) (shoreLog.take 4) offshore :=
    @logged_after _ (shore.take 4) (Operation.allAlong_of_forall fun _ _ => trivial)
  have honward : offshore.Onward (fun _ _ => True) (shoreLog.drop 4) (after shore) :=
    @Onward.applyAll _ [] offshore offshore (shore.drop 4) .refl
      (Operation.allAlong_of_forall fun _ _ => trivial)
  have htime : Log.InTime (shoreLog.take 4 ++ shoreLog.drop 4) "one" :=
    List.pairwise_pair.2 (by decide : "2020-01-01T00:00:00.000Z" ≤ "2020-02-02T00:00:00.000Z")
  obtain ⟨hkept, hforward, -, -⟩ := updated_never_back hlogged honward htime
  have hview : offshore.view "home" = [_, _] := rfl
  obtain ⟨row', hrow', hid'⟩ := hkept "home" ⟨_, hview ▸ List.mem_cons_self, rfl⟩ (by simp [shoreLog])
  exact ⟨hlogged, honward, htime, _, hview ▸ List.mem_cons_self, row', hrow', rfl, hid', rfl,
    hforward "home" "home" _ (hview ▸ List.mem_cons_self) row' hrow' rfl hid'⟩

end Store

end MediaCatalog
