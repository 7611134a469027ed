import MediaCatalog.Proofs.Hierarchies
import MediaCatalog.Proofs.Isolation
import MediaCatalog.Proofs.TrialOrder
import Mathlib.Data.List.Sort
/-!
# Answers and the order of rows

In which order the rows of the tables stand has no bearing on any answer: what is looked up is found
by its key, what is gathered is put in an order of its own, and ties are broken by keys.
-/

namespace MediaCatalog

/-- What saved searches are listed by: the name, then the id. -/
def StoredSearch.place (x : StoredSearch) : String ×ₗ String := toLex (x.name, x.id)

namespace Store

/-! ## Stores with the same rows -/

/-- The rows of every table are told apart by their keys, and the files of an item by their
versions. -/
structure IsKeyed (s : Store) : Prop extends s.Keyed where
  users : (s.users.map (·.email)).Nodup
  catalogs : (s.catalogs.map (·.id)).Nodup
  grants : (s.grants.map fun g => (g.user, g.catalog)).Nodup
  files : (s.files.map (·.id)).Nodup
  versions : (s.files.map fun f => (f.media, f.version)).Nodup
  searches : (s.searches.map (·.id)).Nodup

/-- Two stores have the same rows in every table, maybe in another order. -/
structure Reorders (s t : Store) : Prop where
  users : s.users.Perm t.users
  catalogs : s.catalogs.Perm t.catalogs
  grants : s.grants.Perm t.grants
  entities : s.entities.Perm t.entities
  items : s.items.Perm t.items
  files : s.files.Perm t.files
  links : s.links.Perm t.links
  searches : s.searches.Perm t.searches

variable {s t : Store} {r : Relation} {h : Hierarchy} {d : Direction}
  {catalog id media caller : String} {seed seed' : List String} {p : Predicate} {e : StoreError}

namespace Reorders

variable (hperm : s.Reorders t)
include hperm

theorem keyed (hs : s.Keyed) : t.Keyed where
  items := (hperm.items.map _).nodup_iff.1 hs.items
  entities := (hperm.entities.map _).nodup_iff.1 hs.entities
  links := (hperm.links.map _).nodup_iff.1 hs.links

/-! ## Looking up -/

theorem authorize_eq (hs : s.IsKeyed) :
    s.authorize caller catalog = t.authorize caller catalog := by
  unfold authorize
  rw [find?_of_perm (k := (caller, catalog)) hperm.grants hs.grants]
  simp

theorem entity?_eq (hs : s.Keyed) : s.entity? r id = t.entity? r id :=
  find?_of_perm (k := (r, id)) hperm.entities hs.entities (by simp [Entity.key])

theorem step_eq : s.Step r d = t.Step r d := by
  funext a b
  cases d <;> simp only [Step, hperm.entities.mem_iff]

theorem closure_perm (hseed : ∀ id, id ∈ seed ↔ id ∈ seed') :
    (s.closure r d seed).Perm (t.closure r d seed') := by
  refine (List.perm_ext_iff_of_nodup nodup_closure nodup_closure).2 fun id => ?_
  simp only [mem_closure, Reaches, hperm.step_eq, hseed]

/-- A link is looked for among the same links, to the same things. -/
theorem test_eq {scope : LinkScope} {chosen chosen' : List String}
    (hchosen : ∀ id, id ∈ chosen ↔ id ∈ chosen') :
    scope.test s media chosen = scope.test t media chosen' := by
  have htargets : ∀ id, (scope.targets s chosen).contains id =
      (scope.targets t chosen').contains id := by
    intro id
    unfold LinkScope.targets
    split
    · rw [(hperm.closure_perm hchosen).contains_eq]
    · rw [Bool.eq_iff_iff, List.contains_iff_mem, List.contains_iff_mem, hchosen]
  unfold LinkScope.test
  simp only [htargets]
  rw [hperm.links.any_eq]

theorem sameTruth : s.SameTruth t := by
  intro p b
  induction p generalizing b with
  | always | never | compare c => rfl
  | not p ih => rw [Predicate.eval, Predicate.eval, ih]
  | all ps ih | any ps ih =>
    have hparts := List.map_congr_left fun p hp => ih p hp b
    simp only [Predicate.eval, Predicate.evalAll_eq, Predicate.evalAny_eq, hparts]
  | linked scope filter ih =>
    simp only [Predicate.eval, ih]
    congr 1
    refine hperm.test_eq fun id => ?_
    simp only [LinkScope.candidates, List.mem_map, List.mem_filter, hperm.entities.mem_iff]

/-! ## Rows -/

/-- Of the files of an item no two are of one version, and so no two of one time. -/
theorem currentFile?_eq (hs : s.IsKeyed) : s.currentFile? media = t.currentFile? media := by
  refine currentFile?_congr fun time => ?_
  have hfiles : (s.filesAt media time).Perm (t.filesAt media time) :=
    (hperm.files.filter _).filter _
  refine hfiles.eq_of_pairwise (fun f g hf hg _ _ => ?_)
    (List.pairwise_of_forall fun _ _ => trivial : List.Pairwise (fun _ _ => True) _)
    (List.pairwise_of_forall fun _ _ => trivial)
  simp only [filesAt, filesOf, List.mem_filter, decide_eq_true_eq] at hf hg
  obtain ⟨⟨hf, hmedia⟩, htime⟩ := hf
  obtain ⟨⟨hg, hmedia'⟩, htime'⟩ := hg
  have hversion : f.version = g.version := (Prod.mk.inj (htime.trans htime'.symm)).2
  refine List.inj_on_of_nodup_map hs.versions hf (hperm.files.mem_iff.2 hg) ?_
  rw [hmedia, hmedia', hversion]

theorem viewRow_eq (hs : s.IsKeyed) (i : MediaItem) : s.viewRow i = t.viewRow i := by
  unfold viewRow
  rw [hperm.currentFile?_eq hs]

theorem view_perm (hs : s.IsKeyed) : (s.view catalog).Perm (t.view catalog) := by
  rw [view, List.map_congr_left fun i _ => hperm.viewRow_eq hs i]
  exact (hperm.items.filter _).map _

theorem linked_eq (hs : s.Keyed) : s.linked r media = t.linked r media :=
  hs.linked_eq_of_mem (hperm.keyed hs) fun x => by
    rw [mem_linked, mem_linked, hperm.links.mem_iff, hperm.entity?_eq hs]

theorem readRow_eq (hs : s.Keyed) : s.readRow = t.readRow := by
  funext row
  unfold readRow
  simp only [hperm.linked_eq hs]

theorem select_eq (hs : s.IsKeyed) :
    s.select p (s.view catalog) = t.select p (t.view catalog) := by
  refine hs.toKeyed.select_eq_of_perm ?_
  have hholds : p.holds s = p.holds t := by
    funext row
    rw [Predicate.holds, Predicate.holds, hperm.sameTruth]
  rw [hholds]
  exact (hperm.view_perm hs).filter _

theorem hasMalformed_eq (hs : s.Keyed) : s.hasMalformed = t.hasMalformed := by
  unfold hasMalformed hasEntity
  simp only [hperm.entity?_eq hs, hperm.links.any_eq]

theorem queryMedia_eq (hs : s.IsKeyed) (hp : p.FailsWith e) :
    s.queryMedia catalog p = t.queryMedia catalog p := by
  unfold queryMedia
  rw [Predicate.failure?_congr hperm.sameTruth hperm.entities hperm.items
    (fun i _ => hperm.viewRow_eq hs i) hp]
  simp only [hperm.select_eq hs, hperm.readRow_eq hs.toKeyed, hperm.hasMalformed_eq hs.toKeyed]

end Reorders

end Store

/-! ## Answers -/

/-- A sound predicate fails with one error only, that of a pattern that is too long. -/
theorem Predicate.IsSound.failsWith {catalog : String} {scope : Scope} {q : Query} {p : Predicate}
    (h : p.IsSound catalog scope q) : p.FailsWith .longPattern := by
  intro c hc b e he
  obtain ⟨x, -, hexpresses⟩ := exists_of_forall₂ h.expresses.flip hc
  exact (hexpresses.failure he).1

namespace Store

/-- Searching a store, with a limit to how deep queries may nest. -/
def service (s : Store) (limit : Nat) : SearchService :=
  { SearchService.ofStore s with maxDepth := limit }

namespace Reorders

variable {s t : Store} {caller catalog id : String} {q : Query} (hperm : s.Reorders t)
  (hs : s.IsKeyed)
include hperm hs

theorem search_eq (limit : Nat) :
    (s.service limit).search caller catalog q = (t.service limit).search caller catalog q := by
  have haccess : (s.service limit).authorize caller catalog =
      (t.service limit).authorize caller catalog := hperm.authorize_eq hs
  cases hread : ((s.service limit).authorize caller catalog).canRead with
  | false =>
    rw [SearchService.search_of_not_canRead hread,
      SearchService.search_of_not_canRead (haccess ▸ hread)]
  | true =>
    rw [SearchService.search_of_canRead hread, SearchService.search_of_canRead (haccess ▸ hread)]
    have hprepare : (t.service limit).prepare catalog q = (s.service limit).prepare catalog q :=
      SearchService.prepare_congr rfl
    cases hp : (s.service limit).prepare catalog q with
    | error e =>
      rw [SearchService.execute_of_prepare_error hp,
        SearchService.execute_of_prepare_error (hprepare.trans hp)]
    | ok p =>
      have hsound := SearchService.sound_of_prepare hp
      rw [SearchService.execute_of_prepare hp, SearchService.execute_of_prepare (hprepare.trans hp)]
      exact congrArg _ (hperm.queryMedia_eq hs hsound.failsWith)

theorem listAlbum_eq (limit : Nat) (album : String) (recursive : Bool) :
    (s.service limit).listAlbum caller album recursive =
      (t.service limit).listAlbum caller album recursive := by
  have hhome : (s.service limit).store.entityCatalog? .album album =
      (t.service limit).store.entityCatalog? .album album :=
    congrArg _ (hperm.entity?_eq hs.toKeyed)
  unfold SearchService.listAlbum
  rw [hhome]
  split
  · rfl
  · exact hperm.search_eq hs limit

end Reorders

end Store

end MediaCatalog
