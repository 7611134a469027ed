import MediaCatalog.Predicate.Meaning
import MediaCatalog.Proofs.Closure
import MediaCatalog.Proofs.Keys
/-!
# Above and below

What lies below a row is what leads up to it by parents, and what lies above it is what it leads
up to, in hierarchies of any shape: parents may run in circles, to the row itself or to rows that do
not exist.
-/

namespace MediaCatalog.Store

/-- One id is reached from another by following parents, any number of them. -/
def LeadsUp (s : Store) (r : Relation) : String → String → Prop :=
  Relation.ReflTransGen (s.Step r .ancestors)

variable {s : Store} {r : Relation} {h : Hierarchy} {d : Direction} {id x y : String}
  {ids seed : List String}

/-! ## Directions -/

/-- A step down is a step up, taken back. -/
theorem step_descendants : s.Step r .descendants x y ↔ s.Step r .ancestors y x :=
  exists_congr fun _ => and_congr_right fun _ => and_congr_right fun _ => and_comm

theorem swap_step : Function.swap (s.Step r .ancestors) = s.Step r .descendants := by
  funext a b
  exact propext step_descendants.symm

theorem reaches_descendants :
    Relation.ReflTransGen (s.Step r .descendants) x y ↔ s.LeadsUp r y x := by
  rw [← swap_step, Relation.reflTransGen_swap, LeadsUp]

/-- What leads up to a row by parents is a row. -/
theorem hasEntity_of_leadsUp (hid : s.hasEntity r id = true) (hx : s.LeadsUp r x id) :
    s.hasEntity r x = true := by
  rcases Relation.ReflTransGen.cases_head hx with rfl | ⟨_, ⟨e, he, hr, hxe, -⟩, -⟩
  · exact hid
  · exact hasEntity_iff.2 ⟨e, he, hr, hxe⟩

/-! ## Closures -/

/-- In whichever order ids are added, the same ones are there when nothing can be added any more. -/
theorem perm_closure (hadds : Relation.ReflTransGen (s.Adds r d) seed.eraseDups ids)
    (hend : ∀ ids', ¬s.Adds r d ids ids') : ids.Perm (s.closure r d seed) := by
  have hnodup := nodup_of_adds hadds (nodup_eraseDups seed)
  refine (List.perm_ext_iff_of_nodup hnodup nodup_closure).2 fun b => ?_
  rw [mem_iff_of_adds hadds (isClosed_iff.2 hend), mem_iff_of_adds adds_closure isClosed_closure]

/-- The closure of a seed is the union of those of its members. -/
theorem mem_closure_iff_exists :
    x ∈ s.closure r d seed ↔ ∃ a ∈ seed, x ∈ s.closure r d [a] := by
  simp only [mem_closure, Reaches, List.mem_singleton, exists_eq_left]

theorem mem_hierarchyIds : x ∈ s.hierarchyIds h id d ↔
    s.hasEntity h.relation id = true ∧
      Relation.ReflTransGen (s.Step h.relation d) id x := by
  rw [hierarchyIds, List.mem_mergeSort, mem_closure, Reaches]
  cases s.hasEntity h.relation id <;> simp

theorem hierarchyIds_perm (hid : s.hasEntity h.relation id = true) :
    (s.hierarchyIds h id d).Perm (s.closure h.relation d [id]) := by
  rw [hierarchyIds, if_pos hid]
  exact List.mergeSort_perm _ _

/-- A media item may be linked to what a filter picks, or to what leads up to it when recursive. -/
theorem mem_targets {scope : LinkScope} :
    x ∈ scope.targets s seed ↔ ∃ a ∈ seed, x = a ∨
      scope.recursive = true ∧ scope.relation ≠ .person ∧ s.LeadsUp scope.relation x a := by
  have hperson : scope.relation.isHierarchical = true ↔ scope.relation ≠ .person := by
    cases scope.relation <;> decide
  unfold LinkScope.targets
  split
  case isTrue h =>
    obtain ⟨hrec, hhier⟩ := Bool.and_eq_true_iff.1 h
    simp only [mem_closure, Reaches, reaches_descendants, hrec, ne_eq, hperson.1 hhier,
      not_false_eq_true, true_and]
    refine exists_congr fun a => and_congr_right fun _ => ⟨.inr, ?_⟩
    rintro (rfl | h)
    · exact .refl
    · exact h
  case isFalse h =>
    have hflat : ¬(scope.recursive = true ∧ scope.relation ≠ .person) := by
      rwa [← hperson, ← Bool.and_eq_true]
    simp [← and_assoc, hflat]

/-- What a filter picks in a hierarchy is linked to when anything at or below it is. -/
theorem mem_targets_iff_exists {scope : LinkScope} (hrelation : scope.relation = h.relation)
    (hrecursive : scope.recursive = true) (hseed : ∀ id ∈ seed, s.hasEntity h.relation id = true) :
    x ∈ scope.targets s seed ↔ ∃ id ∈ seed, x ∈ s.hierarchyIds h id .descendants := by
  have hperson : h.relation ≠ .person := by cases h <;> decide
  rw [mem_targets]
  refine exists_congr fun id => and_congr_right fun hid => ?_
  rw [mem_hierarchyIds, reaches_descendants, hrelation]
  constructor
  · rintro (rfl | ⟨-, -, hx⟩)
    · exact ⟨hseed x hid, .refl⟩
    · exact ⟨hseed id hid, hx⟩
  · exact fun hx => .inr ⟨hrecursive, hperson, hx.2⟩

/-! ## Hierarchies -/

/-- The closures of a hierarchy hold what the parents of its rows say, and no more. -/
structure ClosureLaws (s : Store) (h : Hierarchy) : Prop where
  /-- Ids are not found without end, in whichever order they are. -/
  ends : ∀ d, WellFounded fun ids' ids => s.Adds h.relation d ids ids'
  /-- A closure is what there is in the end, in whichever order ids are found. -/
  settles : ∀ d seed ids, Relation.ReflTransGen (s.Adds h.relation d) seed.eraseDups ids →
    (∀ ids', ¬s.Adds h.relation d ids ids') → ids.Perm (s.closure h.relation d seed)
  nodup : ∀ id d, (s.hierarchyIds h id d).Nodup
  /-- At a row and below it are the rows that lead up to it. -/
  descendants : ∀ id x, x ∈ s.hierarchyIds h id .descendants ↔
    s.hasEntity h.relation id = true ∧ s.hasEntity h.relation x = true ∧ s.LeadsUp h.relation x id
  /-- At a row and above it are the ids that it leads up to, of rows or not. -/
  ancestors : ∀ id x, x ∈ s.hierarchyIds h id .ancestors ↔
    s.hasEntity h.relation id = true ∧ s.LeadsUp h.relation id x
  absent : ∀ id d, s.hasEntity h.relation id = false → s.hierarchyIds h id d = []
  dual : ∀ x y, s.hasEntity h.relation x = true → s.hasEntity h.relation y = true →
    (y ∈ s.hierarchyIds h x .descendants ↔ x ∈ s.hierarchyIds h y .ancestors)
  /-- The closure of any seed is the union of the closures of its members. -/
  union : ∀ d seed x, x ∈ s.closure h.relation d seed ↔ ∃ a ∈ seed, x ∈ s.closure h.relation d [a]
  single : ∀ id d, s.hasEntity h.relation id = true →
    (s.hierarchyIds h id d).Perm (s.closure h.relation d [id])
  /-- A recursive filter looks for links to all that is at or below the rows that it picks. -/
  targets : ∀ (scope : LinkScope) chosen x, scope.relation = h.relation → scope.recursive = true →
    (∀ id ∈ chosen, s.hasEntity h.relation id = true) →
    (x ∈ scope.targets s chosen ↔ ∃ id ∈ chosen, x ∈ s.hierarchyIds h id .descendants)

theorem closureLaws (s : Store) (h : Hierarchy) : s.ClosureLaws h where
  ends d := wellFounded_adds
  settles d seed ids := perm_closure
  nodup id d := (List.mergeSort_perm _ _).nodup_iff.2 nodup_closure
  descendants id x := by
    rw [mem_hierarchyIds, reaches_descendants]
    exact and_congr_right fun hid =>
      ⟨fun hx => ⟨hasEntity_of_leadsUp hid hx, hx⟩, fun ⟨_, hx⟩ => hx⟩
  ancestors id x := mem_hierarchyIds
  absent id d hid := by
    refine List.eq_nil_iff_forall_not_mem.2 fun x hx => ?_
    rw [mem_hierarchyIds, hid] at hx
    cases hx.1
  dual x y hx hy := by
    rw [mem_hierarchyIds, mem_hierarchyIds, reaches_descendants, LeadsUp]
    exact ⟨fun h => ⟨hy, h.2⟩, fun h => ⟨hx, h.2⟩⟩
  union d seed x := mem_closure_iff_exists
  single id d := hierarchyIds_perm
  targets scope chosen x := mem_targets_iff_exists

/-- Two albums that stand in a circle, and one below a row that does not exist. -/
def circle : Store :=
  { Store.empty with
    entities := [⟨.album, "day", "home", some "night", "Day"⟩,
      ⟨.album, "night", "home", some "day", "Night"⟩,
      ⟨.album, "dusk", "home", some "gone", "Dusk"⟩] }

theorem closureLaws_circle :
    (circle.hierarchyIds .album "day" .descendants).Perm ["day", "night"] ∧
      (circle.hierarchyIds .album "dusk" .ancestors).Perm ["dusk", "gone"] ∧
      circle.hierarchyIds .album "gone" .descendants = [] ∧
      circle.LeadsUp .album "night" "day" ∧ circle.LeadsUp .album "dusk" "gone" ∧
      "night" ∈ circle.hierarchyIds .album "day" .ancestors := by
  have hlaws := closureLaws circle .album
  have hday : (circle.hierarchyIds .album "day" .descendants).Perm ["day", "night"] :=
    hlaws.single "day" .descendants (by decide)
  have hdusk : (circle.hierarchyIds .album "dusk" .ancestors).Perm ["dusk", "gone"] :=
    hlaws.single "dusk" .ancestors (by decide)
  have hnight : (circle.hierarchyIds .album "night" .descendants).Perm ["night", "day"] :=
    hlaws.single "night" .descendants (by decide)
  refine ⟨hday, hdusk, hlaws.absent "gone" .descendants (by decide), ?_, ?_, ?_⟩
  · exact ((hlaws.descendants "day" "night").1 (hday.mem_iff.2 (by decide))).2.2
  · exact ((hlaws.ancestors "dusk" "gone").1 (hdusk.mem_iff.2 (by decide))).2
  · exact (hlaws.dual "night" "day" (by decide) (by decide)).1 (hnight.mem_iff.2 (by decide))

end MediaCatalog.Store
