namespace BoundSql

/-!
# Error — what can go wrong

The causes of failure, each with the names that its message needs.

* `LoweringError.message` — why a tree is no condition.
* `Error.message` — the message of any failure.
-/

/-- Why a tree cannot be lowered to a condition. -/
inductive LoweringError where
  /-- The operator has no SQL in its position. -/
  | unsupportedOperator (op context : String)
  /-- The function has no SQL. -/
  | unsupportedFunction (name : String)
  /-- Another kind of tree stands where `context` is required. -/
  | unexpectedOperand (context found : String)
  /-- The pattern of a match is neither a string nor a column. -/
  | invalidPattern (found : String)
  deriving DecidableEq

/-- A failure. -/
inductive Error where
  | lowering (cause : LoweringError)
  /-- Nothing is known about the columns of the entity. -/
  | missingMetadata (entity : String)
  /-- The entity has no such field. -/
  | unknownField (entity field : String)
  /-- The settings are not usable. -/
  | settings (reason : String)
  | internal (reason : String)
  deriving DecidableEq

def LoweringError.message : LoweringError → String
  | .unsupportedOperator op context =>
      "operator `" ++ op ++ "` is not supported in " ++ context
  | .unsupportedFunction name => "function `" ++ name ++ "` cannot be translated"
  | .unexpectedOperand context found => "expected " ++ context ++ ", found " ++ found
  | .invalidPattern found => "pattern must be a string or column, found " ++ found

def Error.message : Error → String
  | .lowering cause => "translation failed: " ++ cause.message
  | .missingMetadata entity => "no table metadata registered for entity `" ++ entity ++ "`"
  | .unknownField entity field => "entity `" ++ entity ++ "` has no field `" ++ field ++ "`"
  | .settings reason => "invalid configuration: " ++ reason
  | .internal reason => "internal error: " ++ reason

end BoundSql
