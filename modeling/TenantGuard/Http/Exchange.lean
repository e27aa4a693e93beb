import TenantGuard.Http.Message
import TenantGuard.Url

/-!
# Exchanges with backends

A request that goes out, and what comes of it.  Who carries it out is left open: a `Transport` is
any function from one to the other.
-/

namespace TenantGuard.Http

/-- **A request that goes out.** -/
structure Outbound where
  method : String
  url : String
  headers : List Header
  body : List UInt8
  deriving DecidableEq, Repr, Inhabited

/-- The path that is asked for, after its dot segments are resolved. -/
def Outbound.path? (o : Outbound) : Option (List Char) := (Url.parse? o.url).map (·.path)

/-- **What comes of it.** -/
inductive Exchange where
  /-- The backend was not reached, or did not answer in time. -/
  | failed (reason : String)
  | answered (status : Nat) (headers : List Header) (body : List UInt8)
  deriving DecidableEq, Repr, Inhabited

/-- **Who carries exchanges out.** -/
abbrev Transport := Outbound → Exchange

end TenantGuard.Http
