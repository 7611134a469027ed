import MediaCatalog.Json.Fault
import MediaCatalog.Time.Fault
/-!
# Errors of the store
-/

namespace MediaCatalog

/-- The columns of a row that have to be read back from text. -/
inductive TextColumn where
  | created
  | updated
  | uploaded
  | taken
  | people
deriving DecidableEq

/-- Why a stored text cannot be read back. -/
inductive ReadFault where
  | time (fault : Time.Fault)
  | document (fault : Json.Fault)
deriving DecidableEq

/-- Why the store refuses an operation. -/
inductive StoreError where
  /-- Another row has the same value in a column that must be unique. -/
  | notUnique (column : String)
  /-- A row names another that does not exist. -/
  | missingReference
  /-- A transaction was begun inside another. -/
  | nestedTransaction
  /-- A predicate speaks of a related thing where there is none. -/
  | unknownColumn
  /-- A pattern that cannot be read, or that was tried on something other than text. -/
  | badPattern
  /-- A wildcard pattern that is too long. -/
  | longPattern
  /-- A predicate whose condition is too deep. -/
  | deepCondition
  /-- A predicate that has too many values. -/
  | manyValues
  /-- A stored text that should be a document is none. -/
  | malformedDocument
  /-- A stored timestamp or document that cannot be read back. -/
  | unreadable (column : TextColumn) (cause : ReadFault)
  /-- A row that should be there is not. -/
  | noRow
deriving DecidableEq

namespace StoreError

/-- What is said of a broken constraint. -/
def message? : StoreError → Option String
  | notUnique column => some ("UNIQUE constraint failed: " ++ column)
  | missingReference => some "FOREIGN KEY constraint failed"
  | _ => none

end StoreError

end MediaCatalog
