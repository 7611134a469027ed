import MediaCatalog.Proofs.Answers
import MediaCatalog.Proofs.Writes
/-!
# Who may read a catalog

The access of a caller to a catalog is that of the last grant which succeeded and was not given up with
its transaction. A caller without one gets the same answer whatever is asked and whatever is kept.
-/

namespace MediaCatalog

/-! ## Grants of a run -/

/-- The grant gives a caller access to a catalog. -/
def Grant.isOf (g : Grant) (caller catalog : String) : Bool := g.user = caller && g.catalog = catalog

theorem Grant.isOf_iff {g : Grant} {caller catalog : String} :
    g.isOf caller catalog = true ↔ g.user = caller ∧ g.catalog = catalog := by
  simp [isOf]

/-- The access that a grant gives, or that there is without one. -/
def Access.ofGrant? : Option Grant → Access
  | some g => if g.writable then .write else .read
  | none => .denied

/-- The last of some grants that gives a caller access to a catalog. -/
def lastGrant? (grants : List Grant) (caller catalog : String) : Option Grant :=
  (grants.filter (·.isOf caller catalog)).getLast?

namespace Operation

mutual

/-- The grants of an operation that succeed and are not given up, in order. -/
def granted (s : Store) : Operation → List Grant
  | grant user catalog writable =>
    match s.grant user catalog writable with
    | .ok _ => [⟨user, catalog, writable⟩]
    | .error _ => []
  | transaction parts keep =>
    if s.inTransaction = false ∧ keep = true then
      allGranted { s with inTransaction := true } parts
    else []
  | _ => []

def allGranted (s : Store) : List Operation → List Grant
  | [] => []
  | op :: ops => op.granted s ++ allGranted (op.apply s).2 ops

end

end Operation

/-! ## Grants that are kept -/

namespace Store

variable {s s' : Store} {user catalog caller : String} {writable : Bool} {grants : List Grant}
  {op : Operation}

theorem authorize_eq :
    s.authorize caller catalog = .ofGrant? (s.grants.find? (·.isOf caller catalog)) := by
  unfold authorize
  change _ = Access.ofGrant? (s.grants.find? fun g => g.user = caller && g.catalog = catalog)
  split
  · rename_i hg
    rw [hg]
    rfl
  · rename_i hg
    rw [hg]
    rfl

/-- For each caller and each catalog the store has the last of some grants. -/
def Reflects (s : Store) (grants : List Grant) : Prop :=
  ∀ caller catalog, s.grants.find? (·.isOf caller catalog) = lastGrant? grants caller catalog

/-- A grant stands in place of those that were made before it. -/
theorem Reflects.grant (h : s.Reflects grants) (hok : s.grant user catalog writable = .ok s') :
    s'.Reflects (grants ++ [⟨user, catalog, writable⟩]) := by
  unfold Store.grant at hok
  split at hok
  · cases hok
    intro caller home
    have hothers := h caller home
    unfold lastGrant? at hothers ⊢
    rw [List.find?_append, List.find?_filter, List.filter_append, List.getLast?_append]
    by_cases hof : Grant.isOf ⟨user, catalog, writable⟩ caller home = true
    · obtain ⟨rfl, rfl⟩ := Grant.isOf_iff.1 hof
      have hnone : s.grants.find? (fun g => decide ((!(g.user = user && g.catalog = catalog)) = true ∧
          g.isOf user catalog = true)) = none := by
        rw [List.find?_eq_none]
        intro g _
        grind [Grant.isOf_iff]
      rw [hnone]
      simp [hof]
    · have hsame : (fun g : Grant => decide ((!(g.user = user && g.catalog = catalog)) = true ∧
          g.isOf caller home = true)) = (·.isOf caller home) := by
        funext g
        by_cases hg : g.isOf caller home = true
        · obtain ⟨rfl, rfl⟩ := Grant.isOf_iff.1 hg
          have hother : ¬(g.user = user ∧ g.catalog = catalog) :=
            fun h => hof (Grant.isOf_iff.2 ⟨h.1.symm, h.2.symm⟩)
          simpa [hg, imp_iff_not_or] using hother
        · simp [hg]
      rw [hsame, hothers]
      simp [hof]
  · cases hok

theorem Reflects.changes (h : s.Reflects grants) (hop : op.Changes s s')
    (hgrant : ∀ user catalog writable, op ≠ .grant user catalog writable) : s'.Reflects grants := by
  cases hop with
  | grant => exact absurd rfl (hgrant _ _ _)
  | _ => exact h

end Store

namespace Operation

mutual

/-- The grants of an operation come after those that were made before it. -/
theorem reflects_apply {s : Store} {op : Operation} {grants : List Grant} (h : s.Reflects grants) :
    (op.apply s).2.Reflects (grants ++ op.granted s) := by
  cases op with
  | grant user catalog writable =>
    rw [granted, apply]
    cases hok : s.grant user catalog writable with
    | ok s' => exact h.grant hok
    | error e => rwa [List.append_nil]
  | transaction parts keep =>
    rw [apply_transaction, granted]
    split
    · have hparts : Store.Reflects { s with inTransaction := true } grants := h
      exact reflects_applyAll hparts
    · rwa [List.append_nil]
  | _ => exact (List.append_nil grants).symm ▸ h.changes (changes_apply trivial) (by simp)

theorem reflects_applyAll {s : Store} {ops : List Operation} {grants : List Grant}
    (h : s.Reflects grants) : (applyAll s ops).Reflects (grants ++ allGranted s ops) := by
  cases ops with
  | nil => rwa [allGranted, List.append_nil]
  | cons op ops =>
    rw [applyAll, allGranted, ← List.append_assoc]
    exact reflects_applyAll (reflects_apply h)

end

end Operation

namespace Store

/-- A store that operations lead to from the beginning, at any time, with the grants on the way that
succeeded and were not given up, in order. -/
inductive Granted : List Grant → Store → Prop
  | empty : Granted [] empty
  | operation {grants : List Grant} {s : Store} {op : Operation} : Granted grants s →
      Granted (grants ++ op.granted s) (op.apply s).2
  | opening {grants : List Grant} {s : Store} : Granted grants s → s.inTransaction = false →
      Granted grants { s with inTransaction := true }
  | commit {grants : List Grant} {s : Store} : Granted grants s →
      Granted grants { s with inTransaction := false }

variable {grants : List Grant} {s : Store} {caller catalog : String}

theorem Granted.applyAll {ops : List Operation} (h : Granted grants s) :
    Granted (grants ++ Operation.allGranted s ops) (Operation.applyAll s ops) := by
  induction ops generalizing grants s with
  | nil => rwa [Operation.allGranted, List.append_nil]
  | cons op ops ih =>
    rw [Operation.applyAll, Operation.allGranted, ← List.append_assoc]
    exact ih h.operation

theorem granted_after {history : List Operation} :
    Granted (Operation.allGranted empty history) (after history) :=
  Granted.empty.applyAll

theorem Granted.reflects (h : Granted grants s) : s.Reflects grants := by
  induction h with
  | empty => exact fun _ _ => rfl
  | operation _ ih => exact Operation.reflects_apply ih
  | opening _ _ ih => exact ih
  | commit _ ih => exact ih

/-- The access of a caller is that of the last grant which succeeded and was not given up. -/
theorem Granted.authorize_eq (h : Granted grants s) :
    s.authorize caller catalog = .ofGrant? (lastGrant? grants caller catalog) := by
  rw [Store.authorize_eq, h.reflects caller catalog]

end Store

/-! ## Answers -/

namespace SearchService

variable {service : SearchService} {caller catalog : String} {q : Query} {rows : List MediaRow}

theorem search_denied (h : service.authorize caller catalog = .denied) :
    service.search caller catalog q = .error (.notAuthorized catalog) :=
  search_of_not_canRead (by rw [h]; rfl)

theorem ne_denied_of_search (h : service.search caller catalog q = .ok rows) :
    service.authorize caller catalog ≠ .denied := by
  intro hdenied
  rw [search_denied hdenied] at h
  cases h

/-- A search service on a store, which allows queries of some depth. -/
def atDepth (s : Store) (maxDepth : Nat) : SearchService := { ofStore s with maxDepth := maxDepth }

/-- The access of a caller is that of the last grant which succeeded and was not given up. Rows are
returned only to a caller who has access; one who has none gets the same refusal for every question, on
this store and on every other. -/
theorem answers_granted (grants : List Grant) (s : Store) (hgranted : Store.Granted grants s)
    (maxDepth : Nat) (caller catalog : String) :
    (atDepth s maxDepth).authorize caller catalog = .ofGrant? (lastGrant? grants caller catalog) ∧
      (∀ rows, (atDepth s maxDepth).Answers caller catalog (.ok rows) →
        (atDepth s maxDepth).authorize caller catalog ≠ .denied) ∧
      (∀ album recursive rows, (atDepth s maxDepth).listAlbum caller album recursive = .ok rows →
        ∃ home, s.entityCatalog? .album album = some home ∧
          (atDepth s maxDepth).authorize caller home ≠ .denied) ∧
      ((atDepth s maxDepth).authorize caller catalog = .denied →
        (∀ answer, (atDepth s maxDepth).Answers caller catalog answer →
          answer = .error (.notAuthorized catalog)) ∧
        ∀ (t : Store) (otherDepth : Nat), (atDepth t otherDepth).authorize caller catalog = .denied →
          ∀ answer answer', (atDepth s maxDepth).Answers caller catalog answer →
            (atDepth t otherDepth).Answers caller catalog answer' → answer = answer') := by
  have hrefused : ∀ service : SearchService, service.authorize caller catalog = .denied →
      ∀ answer, service.Answers caller catalog answer → answer = .error (.notAuthorized catalog) := by
    intro service hdenied answer hanswer
    obtain ⟨q, rfl⟩ := hanswer.exists_search
    exact search_denied hdenied
  refine ⟨hgranted.authorize_eq, ?_, ?_, ?_⟩
  · intro rows hanswer
    obtain ⟨q, hq⟩ := hanswer.exists_search
    exact ne_denied_of_search hq.symm
  · intro album recursive rows hrows
    obtain ⟨home, hhome, hsearch⟩ := exists_of_listAlbum hrows
    exact ⟨home, hhome, ne_denied_of_search hsearch⟩
  · intro hdenied
    refine ⟨hrefused _ hdenied, ?_⟩
    intro t otherDepth hother answer answer' hanswer hanswer'
    rw [hrefused _ hdenied _ hanswer, hrefused _ hother _ hanswer']

/-- A catalog whose writable grant was to be replaced in a transaction that was given up. -/
def givenUp : List Operation :=
  [.createUser "owner@example.com" "Owner", .createCatalog "home" "Home",
    .grant "owner@example.com" "home" true,
    .transaction [.grant "owner@example.com" "home" false, .createUser "guest@example.com" "Guest",
      .grant "guest@example.com" "home" true] false]

theorem answers_granted_givenUp :
    (atDepth (.after givenUp) defaultMaxDepth).authorize "owner@example.com" "home" = .write ∧
      (atDepth (.after givenUp) defaultMaxDepth).authorize "guest@example.com" "home" = .denied ∧
      (atDepth (.after givenUp) defaultMaxDepth).listCatalog "guest@example.com" "home" =
        .error (.notAuthorized "home") := by
  have hgranted := @Store.granted_after givenUp
  have howner := answers_granted _ _ hgranted defaultMaxDepth "owner@example.com" "home"
  have hguest := answers_granted _ _ hgranted defaultMaxDepth "guest@example.com" "home"
  have hdenied : (atDepth (.after givenUp) defaultMaxDepth).authorize "guest@example.com" "home" =
      .denied := by
    rw [hguest.1]
    decide
  refine ⟨?_, hdenied, (hguest.2.2.2 hdenied).1 _ .listCatalog⟩
  rw [howner.1]
  decide

end SearchService

end MediaCatalog
