import MediaCatalog.Store.Basic
/-!
# Transactions

A transaction keeps what was done in it only if it succeeds. There is no transaction inside
another.
-/

namespace MediaCatalog.Store

/-- Runs `body` as a transaction; `nested` is the error inside another one. -/
def atomically {ε α : Type} (nested : ε) (body : Store → Except ε α × Store) (s : Store) :
    Except ε α × Store :=
  if s.inTransaction then (.error nested, s)
  else
    match body { s with inTransaction := true } with
    | (.ok x, s') => (.ok x, { s' with inTransaction := false })
    | (.error e, _) => (.error e, s)

end MediaCatalog.Store
