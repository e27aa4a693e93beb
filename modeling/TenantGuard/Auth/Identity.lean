import TenantGuard.Json.Value
import TenantGuard.Telemetry

/-!
# Identities and refusals

A bearer token stands for an `Identity`, or it is refused.  What the caller is told of a `Refusal`
is less than its cause: `Refusal.code` puts all the ways in which a token can be wrong under one
code.
-/

namespace TenantGuard

/-- **Who a caller is.** -/
structure Identity where
  userId : String
  /-- An address that the issuer of the token vouches for. -/
  email : Option String
  deriving DecidableEq, Repr, Inhabited

/-- **Why a caller is turned away.** -/
inductive Refusal where
  | missingCredentials
  | invalidToken
  | tokenExpired
  | malformedToken (reason : String)
  | internal (reason : String)
  deriving DecidableEq, Repr

namespace Refusal

/-- The cause, for the operator. -/
def message : Refusal → String
  | missingCredentials => "Missing authentication credentials"
  | invalidToken => "Invalid authentication token"
  | tokenExpired => "Token has expired"
  | malformedToken reason => "Token validation error: " ++ reason
  | internal reason => "Internal authentication error: " ++ reason

def status : Refusal → Nat
  | internal _ => 500
  | _ => 401

def code : Refusal → String
  | missingCredentials => "MISSING_CREDENTIALS"
  | invalidToken | malformedToken _ => "INVALID_TOKEN"
  | tokenExpired => "TOKEN_EXPIRED"
  | internal _ => "INTERNAL_ERROR"

/-- What the caller is told. -/
def publicMessage : Refusal → String
  | missingCredentials => "Authentication credentials are required"
  | invalidToken | malformedToken _ => "The provided token is invalid"
  | tokenExpired => "The authentication token has expired"
  | internal _ => "An authentication error occurred"

/-- The body of the answer. -/
def toJson (r : Refusal) : Json :=
  .object
    [("success", .boolean false),
     ("error", .object [("code", .text r.code), ("message", .text r.publicMessage)])]

/-- What is counted when a caller is turned away. -/
def event (r : Refusal) : Telemetry.Event := .tokenRefused r.code

end Refusal

end TenantGuard
