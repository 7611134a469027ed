import MediaCatalog.Query.Check
import MediaCatalog.Store.Error
/-!
# Errors of a search
-/

namespace MediaCatalog

/-- Why a search gives no rows. -/
inductive SearchError where
  | invalid (cause : ValidationError)
  | notFound (kind id : String)
  | notAuthorized (catalog : String)
  | storage (cause : StoreError)
  /-- A saved query is no longer a query. -/
  | corrupt (fault : Json.Fault)
deriving DecidableEq

namespace SearchError

/-- The text of an error. Of what went wrong in the store only broken constraints are told. -/
def message? : SearchError → Option String
  | invalid e => some ("invalid query: " ++ e.message)
  | notFound kind id => some (kind ++ " " ++ id ++ " not found")
  | notAuthorized catalog => some ("not authorized to access catalog " ++ catalog)
  | storage e => e.message?.map ("database error: " ++ ·)
  | corrupt _ => none

/-- The request is at fault and not the system. -/
def isClientError : SearchError → Bool
  | invalid _ | notFound .. | notAuthorized _ => true
  | storage _ | corrupt _ => false

end SearchError

end MediaCatalog
