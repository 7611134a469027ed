import MediaCatalog.Truth
/-!
# Laws of three-valued truth

Negation is its own inverse and turns the truth of a whole group into that of the group of
opposites. The unknown stays the unknown.
-/

namespace MediaCatalog.Truth

/-- The truth of parts that all have to hold. -/
def all (ts : List Truth) : Truth := ts.foldr and yes

/-- The truth of parts of which one has to hold. -/
def any (ts : List Truth) : Truth := ts.foldr or no

/-- A truth, or its opposite when inverted. -/
def invertIf (inverted : Bool) (t : Truth) : Truth := if inverted then t.not else t

variable {t u : Truth} {ts : List Truth} {b : Bool}

@[simp] theorem not_not : t.not.not = t := by cases t <;> rfl

@[simp] theorem not_unknown : unknown.not = unknown := rfl

@[simp] theorem not_and : (t.and u).not = t.not.or u.not := by cases t <;> cases u <;> rfl

@[simp] theorem not_or : (t.or u).not = t.not.and u.not := by cases t <;> cases u <;> rfl

@[simp] theorem not_ofBool : (ofBool b).not = ofBool (!b) := by cases b <;> rfl

@[simp] theorem isYes_ofBool : (ofBool b).isYes = b := by cases b <;> rfl

theorem isYes_iff : t.isYes = true ↔ t = yes := by cases t <;> decide

theorem not_all : (all ts).not = any (ts.map Truth.not) := by
  induction ts with
  | nil => rfl
  | cons t ts ih => simp_all [all, any]

theorem not_any : (any ts).not = all (ts.map Truth.not) := by
  induction ts with
  | nil => rfl
  | cons t ts ih => simp_all [all, any]

/-! ## Groups by their parts -/

theorem all_eq_yes : all ts = yes ↔ ∀ t ∈ ts, t = yes := by
  induction ts with
  | nil => simp [all]
  | cons t ts ih =>
    rw [List.forall_mem_cons, ← ih, all, List.foldr_cons, ← all]
    cases t <;> cases all ts <;> decide

theorem all_eq_no : all ts = no ↔ no ∈ ts := by
  induction ts with
  | nil => simp [all]
  | cons t ts ih =>
    rw [List.mem_cons, ← ih, all, List.foldr_cons, ← all]
    cases t <;> cases all ts <;> decide

theorem any_eq_yes : any ts = yes ↔ yes ∈ ts := by
  induction ts with
  | nil => simp [any]
  | cons t ts ih =>
    rw [List.mem_cons, ← ih, any, List.foldr_cons, ← any]
    cases t <;> cases any ts <;> decide

theorem any_eq_no : any ts = no ↔ ∀ t ∈ ts, t = no := by
  induction ts with
  | nil => simp [any]
  | cons t ts ih =>
    rw [List.forall_mem_cons, ← ih, any, List.foldr_cons, ← any]
    cases t <;> cases any ts <;> decide

theorem ofBool_ne_unknown : ofBool b ≠ unknown := by cases b <;> decide

theorem ofBool_eq_yes : ofBool b = yes ↔ b = true := by cases b <;> decide

/-- A truth is known by when it is yes and when it is no. -/
theorem eq_of_yes_of_no (hyes : t = yes ↔ u = yes) (hno : t = no ↔ u = no) : t = u := by
  cases t <;> cases u <;> simp_all

/-- A truth is known by when it is yes and when it is unknown. -/
theorem eq_of_yes_of_unknown (hyes : t = yes ↔ u = yes) (hunknown : t = unknown ↔ u = unknown) :
    t = u := by
  cases t <;> cases u <;> simp_all

end MediaCatalog.Truth
