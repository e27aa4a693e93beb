/-!
# Fault codes

Every fault carries one of nineteen codes.  The code decides the status of the answer, whether a
caller may try again, the group the fault is counted in and how serious it is.
-/

namespace TenantGuard.Fault

/-- **The codes.** -/
inductive Code where
  | permissionDenied | unauthorized | invalidToken | tokenExpired
  | invalidIdentity | roleNotFound
  | notFound | duplicateRecord
  | storeUnavailable | databaseError
  | backendUnavailable | backendTimeout
  | validationError | invalidFormat
  | cancelled | timeout
  | configurationError
  | serializationError | internalError
  deriving DecidableEq, Repr, Inhabited

/-- **How serious a fault is**, from a caller's mistake to the loss of the store. -/
inductive Severity where
  | low | medium | high | critical
  deriving DecidableEq, Repr

namespace Code

/-- Every code, in the order of the numeric codes but for the last two. -/
def all : List Code :=
  [permissionDenied, unauthorized, invalidToken, tokenExpired, invalidIdentity, roleNotFound,
    notFound, duplicateRecord, storeUnavailable, databaseError, backendUnavailable,
    backendTimeout, validationError, invalidFormat, cancelled, timeout, configurationError,
    serializationError, internalError]

/-- The name in logs and counters. -/
def name : Code → String
  | permissionDenied => "PermissionDenied"
  | unauthorized => "Unauthorized"
  | invalidToken => "InvalidToken"
  | tokenExpired => "TokenExpired"
  | invalidIdentity => "InvalidIdentity"
  | roleNotFound => "RoleNotFound"
  | notFound => "NotFound"
  | duplicateRecord => "DuplicateRecord"
  | storeUnavailable => "StoreUnavailable"
  | databaseError => "DatabaseError"
  | backendUnavailable => "UpstreamUnavailable"
  | backendTimeout => "UpstreamTimeout"
  | validationError => "ValidationError"
  | invalidFormat => "InvalidFormat"
  | cancelled => "Cancelled"
  | timeout => "Timeout"
  | configurationError => "ConfigurationError"
  | serializationError => "SerializationError"
  | internalError => "InternalError"

/-- The name on the wire. -/
def wireName : Code → String
  | permissionDenied => "PERMISSION_DENIED"
  | unauthorized => "UNAUTHORIZED"
  | invalidToken => "INVALID_TOKEN"
  | tokenExpired => "TOKEN_EXPIRED"
  | invalidIdentity => "INVALID_IDENTITY"
  | roleNotFound => "ROLE_NOT_FOUND"
  | notFound => "NOT_FOUND"
  | duplicateRecord => "DUPLICATE_RECORD"
  | storeUnavailable => "STORE_UNAVAILABLE"
  | databaseError => "DATABASE_ERROR"
  | backendUnavailable => "UPSTREAM_UNAVAILABLE"
  | backendTimeout => "UPSTREAM_TIMEOUT"
  | validationError => "VALIDATION_ERROR"
  | invalidFormat => "INVALID_FORMAT"
  | cancelled => "CANCELLED"
  | timeout => "TIMEOUT"
  | configurationError => "CONFIGURATION_ERROR"
  | serializationError => "SERIALIZATION_ERROR"
  | internalError => "INTERNAL_ERROR"

def ofWireName? (s : String) : Option Code := all.find? (·.wireName == s)

def number : Code → Nat
  | permissionDenied => 1000
  | unauthorized => 1001
  | invalidToken => 1002
  | tokenExpired => 1003
  | invalidIdentity => 1100
  | roleNotFound => 1101
  | notFound => 2000
  | duplicateRecord => 2001
  | storeUnavailable => 2100
  | databaseError => 2101
  | backendUnavailable => 3000
  | backendTimeout => 3001
  | validationError => 4100
  | invalidFormat => 4101
  | cancelled => 5000
  | timeout => 5001
  | configurationError => 6000
  | serializationError => 9001
  | internalError => 9000

/-- The status of an answer that reports the fault. -/
def status : Code → Nat
  | notFound => 404
  | duplicateRecord => 409
  | permissionDenied => 403
  | unauthorized | invalidToken | tokenExpired => 401
  | invalidIdentity | roleNotFound | validationError => 422
  | invalidFormat => 400
  | storeUnavailable | cancelled => 503
  | backendUnavailable => 502
  | backendTimeout | timeout => 504
  | databaseError | configurationError | serializationError | internalError => 500

/-- Whether the caller may try again. -/
def isRetryable : Code → Bool
  | storeUnavailable | backendUnavailable | backendTimeout | timeout => true
  | _ => false

/-- The group of a code, by its range of numbers. -/
def category (c : Code) : String :=
  match c.number / 100 with
  | 10 => "authorization"
  | 11 => "identity"
  | 20 => "record"
  | 21 => "store"
  | 30 => "upstream"
  | 41 => "validation"
  | 50 => "operation"
  | 60 => "configuration"
  | 90 => "internal"
  | _ => "unknown"

def severity : Code → Severity
  | permissionDenied | unauthorized | invalidToken | tokenExpired | invalidIdentity
  | roleNotFound | notFound | duplicateRecord | validationError | invalidFormat => .low
  | backendUnavailable | backendTimeout | cancelled | timeout => .medium
  | databaseError | configurationError | serializationError => .high
  | storeUnavailable | internalError => .critical

/-- Whether the store or the operation's time limit failed, and no decision was made. -/
def isStoreFailure : Code → Bool
  | storeUnavailable | databaseError | timeout | cancelled => true
  | _ => false

end Code

def Severity.name : Severity → String
  | .low => "low"
  | .medium => "medium"
  | .high => "high"
  | .critical => "critical"

end TenantGuard.Fault
