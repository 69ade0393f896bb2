/-!
# Failures of rendering

Reading and normalising an expression never fail; turning a term into a filter fragment may.
-/

namespace BooleanSearch

/-- Why a term or a whole expression has no fragment. -/
inductive FormatError where
  /-- The quoter refuses the literal. -/
  | unquotable (literal reason : String)
  /-- The marker does not occur in the template. -/
  | missingMarker (marker template : String)
  /-- The marker is the empty text. -/
  | emptyMarker
  /-- A formatter's own failure. -/
  | custom (message : String)
  deriving DecidableEq, Repr

/-- The wording of a failure. -/
def FormatError.message : FormatError → String
  | .unquotable literal reason => "cannot quote value `" ++ literal ++ "`: " ++ reason
  | .missingMarker marker template =>
    "placeholder `" ++ marker ++ "` does not occur in data source template `" ++ template ++ "`"
  | .emptyMarker => "placeholder marker must not be empty"
  | .custom message => message

end BooleanSearch
