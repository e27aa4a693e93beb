import TenantGuard.Auth.SignedToken
import TenantGuard.Auth.TokenTable

/-!
# Authenticators

What turns a bearer token into an identity: a table of tokens, or a verifier of signed ones.  A
token that is accepted is counted by the method that accepted it, a caller who is turned away by the
code of the refusal.
-/

namespace TenantGuard

/-- **What decides on bearer tokens.** -/
inductive Authenticator where
  | table (tokens : TokenTable)
  | signed (verifier : Verifier)
  deriving Repr

namespace Authenticator

/-- The method under which accepted tokens are counted. -/
def method : Authenticator → String
  | table _ => "static"
  | signed _ => "jwt"

/-- The count of an accepted token. -/
def accepted (a : Authenticator) : Telemetry.Event := .tokenAccepted a.method

/-- **The identity that a token stands for**, at a time in seconds since 1970.  A signed token
counts as accepted once its claims hold, even if they turn out to speak of nobody. -/
def identify (a : Authenticator) (now : Int) (token : String) :
    Except Refusal Identity × List Telemetry.Event :=
  match a with
  | table t =>
    match t.verify token with
    | .ok i => (.ok i, [a.accepted])
    | .error e => (.error e, [])
  | signed v =>
    match v.claims now token with
    | .ok c => (c.identity, [a.accepted])
    | .error e => (.error e, [])

end Authenticator

end TenantGuard
