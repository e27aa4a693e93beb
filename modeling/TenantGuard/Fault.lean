import TenantGuard.Fault.Code
import TenantGuard.Json.Value

/-!
# Faults

A `Fault` is what an operation fails with: a code, a message for the caller, a message for the
operator, structured details and whether another failure caused it.  The constructors below fix the
wording of each kind of fault; the builders change one part and keep the others.
-/

namespace TenantGuard

namespace Fault

/-- **Structured details of a fault.** -/
structure Details where
  context : List (String × Json) := []
  entityId : Option String := none
  entityType : Option String := none
  suggestion : Option String := none
  deriving Repr, Inhabited, BEq

namespace Details

def empty : Details := {}

def withEntity (d : Details) (kind id : String) : Details :=
  { d with entityType := some kind, entityId := some id }

/-- Adds a context value; a value of the same key gives way. -/
def withContext (d : Details) (key : String) (v : Json) : Details :=
  { d with context := Json.setMember key v d.context }

def withSuggestion (d : Details) (s : String) : Details := { d with suggestion := some s }

/-- Whether there is nothing to report.  An entity type alone counts as nothing. -/
def isEmpty (d : Details) : Bool :=
  d.context.isEmpty && d.entityId.isNone && d.suggestion.isNone

/-- The details as JSON; absent ones are left out. -/
def toJson (d : Details) : Json :=
  .object (Json.present
    [("context", if d.context.isEmpty then none else some (.object d.context)),
     ("entity_id", d.entityId.map .text),
     ("entity_type", d.entityType.map .text),
     ("suggested_action", d.suggestion.map .text)])

end Details

end Fault

/-- **A fault.**  Only `code`, `message` and `details` are ever shown to a caller. -/
structure Fault where
  code : Fault.Code
  message : String
  internal : Option String := none
  details : Fault.Details := {}
  hasSource : Bool := false
  deriving Repr, Inhabited, BEq

namespace Fault

def withInternal (code : Code) (message internal : String) : Fault :=
  { code, message, internal := some internal }

/-! ## The kinds of faults -/

def internalError (internal : String) : Fault :=
  withInternal .internalError "An internal error occurred" internal

/-- A record or scope that was named does not exist. -/
def notFound (kind id : String) : Fault :=
  { code := .notFound
    message := kind ++ " not found: " ++ id
    details := Details.empty.withEntity kind id }

def validation (message : String) : Fault := { code := .validationError, message }

/-- Request input that cannot be read: a path, a query, an identifier. -/
def invalidFormat (message : String) : Fault := { code := .invalidFormat, message }

def unauthorized (message : String) : Fault := { code := .unauthorized, message }

/-- A denial.  The reason stays internal. -/
def forbidden (reason : String) : Fault := withInternal .permissionDenied "Forbidden" reason

/-- The identity is unknown and cannot be invited. -/
def invalidIdentity (identity : String) : Fault :=
  { code := .invalidIdentity
    message := "User '" ++ identity ++ "' does not exist and is not a valid email address"
    details := (Details.empty.withEntity "user" identity).withSuggestion
      "Invite the user by email address, or use an existing user id" }

def roleNotFound (name : String) : Fault :=
  { code := .roleNotFound
    message := "Role not found: " ++ name
    details := Details.empty.withEntity "role" name }

def storeUnavailable (internal : String) : Fault :=
  withInternal .storeUnavailable "The data store is unavailable" internal

/-- A backend failed or could not be reached. -/
def backendUnavailable (backend internal : String) : Fault :=
  { withInternal .backendUnavailable "The upstream service is unavailable" internal with
    details := Details.empty.withContext "backend" (.text backend) }

/-- The caller cancelled the operation. -/
def cancelled (operation : String) : Fault :=
  withInternal .cancelled "The operation was cancelled" ("cancelled: " ++ operation)

/-- The operation ran past its deadline. -/
def timeout (operation : String) : Fault :=
  withInternal .timeout "The operation timed out" ("deadline exceeded: " ++ operation)

def configuration (message : String) : Fault := { code := .configurationError, message }

/-! ## Failures of other parts -/

/-- **What a database reports.** -/
inductive DatabaseFailure where
  | rowNotFound
  /-- The database refused a statement; it may name the constraint that was violated. -/
  | refused (constraint : Option String)
  | poolTimedOut | poolClosed | io | tls
  | other
  deriving DecidableEq, Repr

/-- Whether `needle` stands somewhere in a text. -/
def contains (needle : List Char) : List Char → Bool
  | [] => needle.isEmpty
  | c :: cs => needle.isPrefixOf (c :: cs) || contains needle cs

/-- A violated uniqueness rule is told from the constraint's name. -/
def isUniqueness (constraint : String) : Bool :=
  contains "unique".toList constraint.toList || contains "pkey".toList constraint.toList

/-- A database failure, with the database's own wording kept internal. -/
def ofDatabase (failure : DatabaseFailure) (wording : String) : Fault :=
  let plain (code : Code) (message : String) : Fault :=
    { withInternal code message wording with hasSource := true }
  match failure with
  | .rowNotFound => plain .notFound "The requested record was not found"
  | .refused (some c) =>
    if isUniqueness c then
      { withInternal .duplicateRecord "A record with this identifier already exists"
          ("Constraint violation: " ++ c) with hasSource := true }
    else plain .databaseError "A database error occurred"
  | .poolTimedOut | .poolClosed | .io | .tls =>
    plain .storeUnavailable "The data store is unavailable"
  | .refused none | .other => plain .databaseError "A database error occurred"

/-- JSON that cannot be read. -/
def ofJsonFailure (wording : String) : Fault :=
  { withInternal .serializationError "Failed to process JSON data" wording with hasSource := true }

/-- A failed exchange with a backend. -/
def ofExchange (timedOut : Bool) (wording : String) : Fault :=
  if timedOut then
    { withInternal .backendTimeout "The upstream service timed out" wording with hasSource := true }
  else
    { withInternal .backendUnavailable "The upstream service is unavailable" wording with
      hasSource := true }

/-- A time limit that ran out. -/
def ofElapsed (wording : String) : Fault :=
  { withInternal .timeout "The operation timed out" wording with hasSource := true }

/-- Settings that cannot be loaded. -/
def ofSettings (wording : String) : Fault :=
  withInternal .configurationError "Configuration error occurred" wording

/-! ## Builders and views -/

def withSource (f : Fault) : Fault := { f with hasSource := true }

def withDetails (f : Fault) (d : Details) : Fault := { f with details := d }

def withContext (f : Fault) (key : String) (v : Json) : Fault :=
  { f with details := f.details.withContext key v }

/-- The text of a fault in a log. -/
def logText (f : Fault) : String :=
  "[" ++ f.code.name ++ "] " ++ f.message ++
    f.internal.elim "" fun i => " (internal: " ++ i ++ ")"

def status (f : Fault) : Nat := f.code.status

def isNotFound (f : Fault) : Bool := f.code == .notFound

def isStoreFailure (f : Fault) : Bool := f.code.isStoreFailure

end Fault

end TenantGuard
