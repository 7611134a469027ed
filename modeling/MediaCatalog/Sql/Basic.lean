import MediaCatalog.Cell
/-!
# Statements

A statement is a list of texts and bound values. When it is written out, each bound value becomes a
numbered placeholder, so statements can be joined without any counting.
-/

namespace MediaCatalog

namespace Sql

/-- A text of a statement, or a value bound in it. -/
inductive Piece where
  | text (s : String)
  | bind (value : Cell)
deriving DecidableEq

end Sql

/-- A statement or a part of one. -/
abbrev Sql := List Sql.Piece

namespace Sql

/-- The placeholder with a number, counted from one. -/
def placeholder (n : Nat) : String := "?" ++ toString n

/-- The text of a statement whose first placeholder comes after `n` others. -/
def textFrom (n : Nat) : Sql → String
  | [] => ""
  | .text s :: rest => s ++ textFrom n rest
  | .bind _ :: rest => placeholder (n + 1) ++ textFrom (n + 1) rest

/-- The text of a statement. -/
def toText (q : Sql) : String := q.textFrom 0

/-- The bound values in the order of their placeholders. -/
def params : Sql → List Cell
  | [] => []
  | .text _ :: rest => params rest
  | .bind v :: rest => v :: params rest

theorem params_append {a b : Sql} : (a ++ b).params = a.params ++ b.params := by
  induction a with
  | nil => rfl
  | cons x a ih => cases x <;> simp [params, ih]

/-- A part is numbered after the values bound before it. -/
theorem textFrom_append {a b : Sql} {n : Nat} :
    (a ++ b).textFrom n = a.textFrom n ++ b.textFrom (n + a.params.length) := by
  induction a generalizing n with
  | nil => simp [textFrom, params]
  | cons x a ih =>
    cases x with
    | text s => simp [textFrom, params, ih, String.append_assoc]
    | bind v => simp [textFrom, params, ih, String.append_assoc, Nat.add_assoc, Nat.add_comm 1]

end Sql

end MediaCatalog
