/-!
# Errors of the audit log

An operation fails for one of four reasons, each with its own wording. Validation and access
failures are the caller's doing; storage and encoding failures are not.

## Main definitions

* `AuditError` — the causes
* `AuditError.message` — the text of each
* `AuditError.isClientError` — whether the caller caused it
-/

namespace AuditTrail

/-- Why an audit operation failed. -/
inductive AuditError where
  /-- The input breaks a rule of the log. -/
  | validation (message : String)
  /-- The principal may not do this. -/
  | forbidden (message : String)
  /-- The document store failed. -/
  | database (detail : String)
  /-- An event could not be encoded as a stored document. -/
  | serialization (detail : String)
  deriving DecidableEq, Repr

namespace AuditError

/-- The text of an error. -/
def message : AuditError → String
  | .validation m => "Validation error: " ++ m
  | .forbidden m => "Forbidden: " ++ m
  | .database d => "Database error: " ++ d
  | .serialization d => "Serialization error: " ++ d

/-- Validation and access failures are caused by the caller's input, not by storage. -/
def isClientError : AuditError → Bool
  | .validation _ | .forbidden _ => true
  | .database _ | .serialization _ => false

end AuditError

end AuditTrail
