import MediaCatalog.Store.View
import Mathlib.Data.List.MinMax
import Mathlib.Data.Prod.Lex
import Mathlib.Data.String.Basic
/-!
# Current files

The current file of a media item is the first among its files of the latest upload and the highest
version.
-/

namespace MediaCatalog

/-- What files are compared by: the upload, then the version. -/
def MediaFile.time (f : MediaFile) : String ×ₗ Nat := toLex (f.uploaded, f.version)

theorem MediaFile.isBefore_iff {f g : MediaFile} : f.isBefore g = true ↔ f.time < g.time := by
  simp [isBefore, time, Prod.Lex.toLex_lt_toLex]

namespace Store

variable {s : Store} {media : String} {f : MediaFile}

theorem currentFile?_eq_argmax : s.currentFile? media = (s.filesOf media).argmax MediaFile.time := by
  rw [currentFile?, List.argmax]
  congr 1
  funext best f
  cases best with
  | none => rfl
  | some g =>
    simp only [Option.map_some, Option.getD_some, List.argAux, MediaFile.later, MediaFile.isBefore_iff]
    split <;> rfl

theorem mem_files_of_currentFile (h : s.currentFile? media = some f) : f ∈ s.files := by
  rw [currentFile?_eq_argmax] at h
  exact (List.mem_filter.1 (List.argmax_mem h)).1

/-- The first of the greatest stands first among those that are as great. -/
theorem head?_filter_of_argmax {α β : Type} [LinearOrder β] {key : α → β} {xs : List α} {x : α}
    (h : xs.argmax key = some x) : (xs.filter (key · = key x)).head? = some x := by
  induction xs generalizing x with
  | nil => cases h
  | cons y ys ih =>
    rw [List.argmax_cons] at h
    cases hrest : ys.argmax key with
    | none =>
      rw [hrest] at h
      cases h
      simp
    | some z =>
      rw [hrest] at h
      dsimp only at h
      split at h
      next hlt =>
        cases h
        rw [List.filter_cons_of_neg (by simpa using hlt.ne)]
        exact ih hrest
      next =>
        cases h
        simp

theorem argmax_eq_some_iff {α β : Type} [LinearOrder β] {key : α → β} {xs : List α} {x : α} :
    xs.argmax key = some x ↔
      (xs.filter (key · = key x)).head? = some x ∧ ∀ y ∈ xs, key y ≤ key x := by
  constructor
  · exact fun h => ⟨head?_filter_of_argmax h, fun y hy => List.le_of_mem_argmax hy h⟩
  · rintro ⟨hhead, hgreatest⟩
    have hx : x ∈ xs := (List.mem_filter.1 (List.mem_of_mem_head? hhead)).1
    cases hfound : xs.argmax key with
    | none =>
      rw [List.argmax_eq_none.1 hfound] at hx
      cases hx
    | some y =>
      have hkey : key y = key x :=
        le_antisymm (hgreatest y (List.argmax_mem hfound)) (List.le_of_mem_argmax hx hfound)
      rw [← hhead, ← hkey, head?_filter_of_argmax hfound]

/-- The files of an item that are of one time, in the order in which they came. -/
def filesAt (s : Store) (media : String) (time : String ×ₗ Nat) : List MediaFile :=
  (s.filesOf media).filter (·.time = time)

/-- The current file hangs on which files there are at each time, and on the order of those of one
time. -/
theorem currentFile?_congr {t : Store} (h : ∀ time, s.filesAt media time = t.filesAt media time) :
    s.currentFile? media = t.currentFile? media := by
  have hmem : ∀ f, f ∈ s.filesOf media ↔ f ∈ t.filesOf media := by
    intro f
    have hf : f ∈ s.filesAt media f.time ↔ f ∈ t.filesAt media f.time := by rw [h]
    simpa [filesAt] using hf
  ext f
  rw [currentFile?_eq_argmax, currentFile?_eq_argmax, argmax_eq_some_iff, argmax_eq_some_iff]
  have hfirst : (s.filesOf media).filter (·.time = f.time) =
      (t.filesOf media).filter (·.time = f.time) := h f.time
  rw [hfirst]
  simp only [hmem]

end Store

end MediaCatalog
