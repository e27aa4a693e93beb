import TenantGuard.Http.Message

/-!
# Calls from other origins

Which origins a browser may call from.  Every response says which origin may read it, and a request
of method `OPTIONS` is answered at once with what may be sent.
-/

namespace TenantGuard.Http

/-- **The origins that may call.** -/
inductive Cors where
  | anyOrigin
  | listed (origins : List (List UInt8))
  deriving DecidableEq, Repr, Inhabited

namespace Cors

/-- The policy for a list of origins: any origin if the list is empty; origins that cannot stand in
a header do not count. -/
def ofOrigins (origins : List String) : Cors :=
  if origins.isEmpty then anyOrigin
  else listed ((origins.map Text.Utf8.bytes).filter
    (·.all fun b => (32 ≤ b.toNat && b.toNat != 127) || b.toNat == 9))

/-- The origin that may read the response. -/
def allowedOrigin? (c : Cors) (r : Request) : Option (List UInt8) :=
  match c with
  | anyOrigin => some (Text.Utf8.bytes "*")
  | listed origins => (firstValue? "origin" r.headers).filter origins.contains

/-- What a response depends on besides its address. -/
def vary : Header :=
  .ofText "vary" "origin, access-control-request-method, access-control-request-headers"

def originHeaders (c : Cors) (r : Request) : List Header :=
  (c.allowedOrigin? r).toList.map fun o => ⟨"access-control-allow-origin", o⟩

/-- The answer to a request that asks what may be sent. -/
def preflight (c : Cors) (r : Request) : Response :=
  { status := 200
    headers := c.originHeaders r ++
      [vary, .ofText "access-control-allow-methods" "GET,POST,DELETE,OPTIONS",
       .ofText "access-control-allow-headers" "authorization,content-type"] }

/-- Says in a response which origin may read it. -/
def mark (c : Cors) (r : Request) (response : Response) : Response :=
  (c.originHeaders r).foldl Response.withHeader
    { response with headers := response.headers ++ [vary] }

end Cors

end TenantGuard.Http
