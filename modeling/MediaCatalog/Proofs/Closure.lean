import MediaCatalog.Store.Entities
import Mathlib.Data.List.Nodup
import Mathlib.Logic.Relation
import Mathlib.Tactic.Common
/-!
# What a closure holds

A closure holds exactly what its seed reaches by steps to parents or to children, on every table:
the steps it takes are enough because each one but the last adds a row's id or parent that was not
there.
-/

namespace MediaCatalog.Store

/-- One id lies one step from another. -/
def Step (s : Store) (r : Relation) : Direction → String → String → Prop
  | .descendants, a, b => ∃ e ∈ s.entities, e.relation = r ∧ e.parent = some a ∧ e.id = b
  | .ancestors, a, b => ∃ e ∈ s.entities, e.relation = r ∧ e.id = a ∧ e.parent = some b

/-- An id is reached from one of a seed by any number of steps. -/
def Reaches (s : Store) (r : Relation) (d : Direction) (seed : List String) (id : String) : Prop :=
  ∃ a ∈ seed, Relation.ReflTransGen (s.Step r d) a id

variable {s : Store} {r : Relation} {d : Direction} {ids seed : List String} {a b : String}

/-! ## Steps -/

theorem mem_neighbours : b ∈ s.neighbours r d ids ↔ ∃ a ∈ ids, s.Step r d a b := by
  cases d
  · simp only [neighbours, Step, List.mem_map, List.mem_filter, decide_eq_true_eq, Option.any_eq_true,
      List.contains_iff_mem]
    constructor
    · rintro ⟨e, ⟨⟨he, hr⟩, p, hp, hm⟩, rfl⟩
      exact ⟨p, hm, e, he, hr, hp, rfl⟩
    · rintro ⟨p, hm, e, he, hr, hp, rfl⟩
      exact ⟨e, ⟨⟨he, hr⟩, p, hp, hm⟩, rfl⟩
  · simp only [neighbours, Step, List.mem_filterMap, List.mem_filter, decide_eq_true_eq,
      List.contains_iff_mem]
    constructor
    · rintro ⟨e, ⟨⟨he, hr⟩, hm⟩, hp⟩
      exact ⟨e.id, hm, e, he, hr, rfl, hp⟩
    · rintro ⟨_, hm, e, he, hr, rfl, hp⟩
      exact ⟨e, ⟨⟨he, hr⟩, hm⟩, hp⟩

/-- Where a step can lead: to the id of a row, or to the parent of one. -/
def stepTargets (s : Store) (r : Relation) : Direction → List String
  | .descendants => (s.entities.filter (·.relation = r)).map (·.id)
  | .ancestors => (s.entities.filter (·.relation = r)).filterMap (·.parent)

theorem mem_stepTargets (h : s.Step r d a b) : b ∈ s.stepTargets r d := by
  cases d
  · obtain ⟨e, he, hr, -, rfl⟩ := h
    exact List.mem_map.2 ⟨e, by simp [he, hr], rfl⟩
  · obtain ⟨e, he, hr, -, hp⟩ := h
    exact List.mem_filterMap.2 ⟨e, by simp [he, hr], hp⟩

theorem length_stepTargets_le : (s.stepTargets r d).length ≤ s.entities.length := by
  cases d
  · simpa [stepTargets] using List.length_filter_le _ s.entities
  · exact Nat.le_trans (List.length_filterMap_le _ _) (List.length_filter_le _ _)

/-- The targets of steps that a list lacks. -/
def missing (s : Store) (r : Relation) (d : Direction) (ids : List String) : List String :=
  (s.stepTargets r d).filter (!ids.contains ·)

theorem length_missing_append_lt {new : List String} (hab : s.Step r d a b) (hb : b ∉ ids)
    (hnew : b ∈ new) : (s.missing r d (ids ++ new)).length < (s.missing r d ids).length := by
  have hfewer : s.missing r d (ids ++ new) = (s.missing r d ids).filter (!new.contains ·) := by
    rw [missing, missing, List.filter_filter]
    congr 1
    funext y
    simp [Bool.and_comm]
  rw [hfewer]
  exact List.length_filter_lt_length_iff_exists.2
    ⟨b, List.mem_filter.2 ⟨mem_stepTargets hab, by simpa using hb⟩, by simpa using hnew⟩

/-! ## Additions -/

/-- A list grows by one id, which lies one step from an id in it and is not in it yet. -/
def Adds (s : Store) (r : Relation) (d : Direction) (ids ids' : List String) : Prop :=
  ∃ a ∈ ids, ∃ b, s.Step r d a b ∧ b ∉ ids ∧ ids' = ids ++ [b]

/-- No step leads out of a list. -/
def IsClosed (s : Store) (r : Relation) (d : Direction) (ids : List String) : Prop :=
  ∀ a ∈ ids, ∀ b, s.Step r d a b → b ∈ ids

/-- Ids cannot be added without end, in whichever order they are taken: each one was missing. -/
theorem wellFounded_adds : WellFounded fun ids' ids => s.Adds r d ids ids' := by
  refine Subrelation.wf (r := InvImage (· < ·) fun ids => (s.missing r d ids).length) ?_
    (InvImage.wf _ Nat.lt_wfRel.wf)
  rintro _ ids ⟨a, -, b, hab, hb, rfl⟩
  exact length_missing_append_lt hab hb (List.mem_singleton_self b)

/-- A list to which nothing can be added is closed. -/
theorem isClosed_iff : s.IsClosed r d ids ↔ ∀ ids', ¬s.Adds r d ids ids' := by
  constructor
  · rintro h _ ⟨a, ha, b, hab, hb, -⟩
    exact hb (h a ha b hab)
  · intro h a ha b hab
    by_contra hb
    exact h _ ⟨a, ha, b, hab, hb, rfl⟩

section Growth

variable {ids' : List String} (h : Relation.ReflTransGen (s.Adds r d) ids ids')
include h

theorem subset_of_adds : ids ⊆ ids' := by
  induction h with
  | refl => exact List.Subset.refl _
  | tail _ hadds ih =>
    obtain ⟨a, -, b, -, -, rfl⟩ := hadds
    exact List.Subset.trans ih (List.subset_append_left _ _)

theorem reaches_of_adds (hb : b ∈ ids') : s.Reaches r d ids b := by
  induction h generalizing b with
  | refl => exact ⟨b, hb, .refl⟩
  | tail _ hadds ih =>
    obtain ⟨a, ha, x, hax, -, rfl⟩ := hadds
    rcases List.mem_append.1 hb with hb | hb
    · exact ih hb
    · obtain ⟨y, hy, hya⟩ := ih ha
      rw [List.mem_singleton.1 hb]
      exact ⟨y, hy, hya.tail hax⟩

theorem nodup_of_adds (hids : ids.Nodup) : ids'.Nodup := by
  induction h with
  | refl => exact hids
  | tail _ hadds ih =>
    obtain ⟨a, -, b, -, hb, rfl⟩ := hadds
    refine List.nodup_append.2 ⟨ih, List.nodup_singleton b, fun x hx y hy hxy => ?_⟩
    rw [hxy, List.mem_singleton.1 hy] at hx
    exact hb hx

/-- What is closed in the end is what the beginning reaches. -/
theorem mem_iff_of_adds (hclosed : s.IsClosed r d ids') : b ∈ ids' ↔ s.Reaches r d ids b := by
  refine ⟨reaches_of_adds h, ?_⟩
  rintro ⟨a, ha, hab⟩
  induction hab with
  | refl => exact subset_of_adds h ha
  | tail _ hbc ih => exact hclosed _ ih _ hbc

end Growth

/-- Ids that lie one step from a list are added to it one by one. -/
theorem adds_append {new : List String} (hnew : new.Nodup)
    (hstep : ∀ b ∈ new, ∃ a ∈ ids, s.Step r d a b) (hfresh : ∀ b ∈ new, b ∉ ids) :
    Relation.ReflTransGen (s.Adds r d) ids (ids ++ new) := by
  induction new generalizing ids with
  | nil => rw [List.append_nil]
  | cons b new ih =>
    obtain ⟨hb, hnew⟩ := List.nodup_cons.1 hnew
    obtain ⟨a, ha, hab⟩ := hstep b List.mem_cons_self
    refine .head ⟨a, ha, b, hab, hfresh b List.mem_cons_self, rfl⟩ ?_
    rw [List.append_cons ids b new]
    refine ih hnew (fun x hx => ?_) fun x hx hmem => ?_
    · obtain ⟨y, hy, hyx⟩ := hstep x (List.mem_cons_of_mem b hx)
      exact ⟨y, List.mem_append_left _ hy, hyx⟩
    · rcases List.mem_append.1 hmem with hmem | hmem
      · exact hfresh x (List.mem_cons_of_mem b hx) hmem
      · rw [List.mem_singleton.1 hmem] at hx
        exact hb hx

/-! ## Iteration -/

theorem nodup_eraseDups : ∀ xs : List String, xs.eraseDups.Nodup
  | [] => List.nodup_nil
  | x :: xs => by
    have hrest := nodup_eraseDups (xs.filter fun y => !y == x)
    rw [List.eraseDups_cons, List.nodup_cons]
    exact ⟨by simp [List.mem_eraseDups], hrest⟩
termination_by xs => xs.length
decreasing_by exact Nat.lt_succ_of_le (List.length_filter_le _ _)

/-- The ids that one turn of the iteration adds. -/
theorem mem_new : b ∈ ((s.neighbours r d ids).filter (!ids.contains ·)).eraseDups ↔
    (∃ a ∈ ids, s.Step r d a b) ∧ b ∉ ids := by
  rw [List.mem_eraseDups, List.mem_filter, mem_neighbours]
  simp

/-- Every turn of the iteration adds ids. -/
theorem adds_closureFrom (n : Nat) :
    Relation.ReflTransGen (s.Adds r d) ids (s.closureFrom r d n ids) := by
  induction n generalizing ids with
  | zero => exact .refl
  | succ n ih =>
    simp only [closureFrom]
    split
    · exact .refl
    · exact (adds_append (nodup_eraseDups _) (fun b hb => (mem_new.1 hb).1)
        fun b hb => (mem_new.1 hb).2).trans ih

/-- The fuel suffices when it counts the targets that are still missing. -/
theorem isClosed_closureFrom (n : Nat) (hn : (s.missing r d ids).length ≤ n) :
    s.IsClosed r d (s.closureFrom r d n ids) := by
  induction n generalizing ids with
  | zero =>
    -- No target of a step is missing.
    intro a _ b hab
    have hnil := List.eq_nil_of_length_eq_zero (Nat.le_zero.1 hn)
    simpa [closureFrom] using List.filter_eq_nil_iff.1 hnil b (mem_stepTargets hab)
  | succ n ih =>
    simp only [closureFrom]
    split
    next hempty =>
      intro a ha b hab
      by_contra hb
      have hnew := mem_new.2 ⟨⟨a, ha, hab⟩, hb⟩
      rw [List.isEmpty_iff.1 hempty] at hnew
      cases hnew
    next hne =>
      -- A new id is a target that was missing, so one unit of fuel is enough for it.
      obtain ⟨x, hx⟩ := List.exists_mem_of_ne_nil _ (mt List.isEmpty_iff.2 hne)
      obtain ⟨⟨a, -, hax⟩, hxids⟩ := mem_new.1 hx
      exact ih (Nat.le_of_lt_succ (Nat.lt_of_lt_of_le (length_missing_append_lt hax hxids hx) hn))

/-- Nothing is added to a closed list. -/
theorem closureFrom_of_isClosed (h : s.IsClosed r d ids) (n : Nat) : s.closureFrom r d n ids = ids := by
  cases n with
  | zero => rfl
  | succ n =>
    have hnone : ((s.neighbours r d ids).filter (!ids.contains ·)).eraseDups = [] := by
      refine List.eq_nil_iff_forall_not_mem.2 fun b hb => ?_
      obtain ⟨⟨a, ha, hab⟩, hfresh⟩ := mem_new.1 hb
      exact hfresh (h a ha b hab)
    simp only [closureFrom, hnone, List.isEmpty_nil, if_true]

theorem closureFrom_add (n k : Nat) :
    s.closureFrom r d (n + k) ids = s.closureFrom r d k (s.closureFrom r d n ids) := by
  induction n generalizing ids with
  | zero => rw [Nat.zero_add, closureFrom]
  | succ n ih =>
    rw [Nat.succ_add]
    simp only [closureFrom]
    split
    next hempty =>
      -- Where the iteration stops, it stops again.
      cases k with
      | zero => rfl
      | succ k => simp only [closureFrom, hempty, if_true]
    next => exact ih

/-! ## Closures -/

theorem isClosed_closure : s.IsClosed r d (s.closure r d seed) :=
  isClosed_closureFrom _ (Nat.le_trans (List.length_filter_le _ _) length_stepTargets_le)

/-- More turns than there are rows change nothing. -/
theorem closureFrom_of_le {n : Nat} (hn : s.entities.length ≤ n) :
    s.closureFrom r d n seed.eraseDups = s.closure r d seed := by
  obtain ⟨k, rfl⟩ := Nat.exists_eq_add_of_le hn
  rw [closureFrom_add]
  exact closureFrom_of_isClosed isClosed_closure k

theorem adds_closure : Relation.ReflTransGen (s.Adds r d) seed.eraseDups (s.closure r d seed) :=
  adds_closureFrom _

theorem nodup_closure : (s.closure r d seed).Nodup :=
  nodup_of_adds adds_closure (nodup_eraseDups seed)

/-- A closure holds what the seed reaches and nothing else. -/
theorem mem_closure : b ∈ s.closure r d seed ↔ s.Reaches r d seed b := by
  rw [mem_iff_of_adds adds_closure isClosed_closure, Reaches, Reaches]
  simp only [List.mem_eraseDups]

instance : Decidable (s.Reaches r d seed b) := decidable_of_iff _ mem_closure

end MediaCatalog.Store
