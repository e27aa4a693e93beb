import TenantGuard.Engine
import TenantGuard.Http.Exchange
import TenantGuard.Http.MediaType
import TenantGuard.Proxy.Forwarding
import TenantGuard.Query.Restriction
import TenantGuard.Settings
import TenantGuard.TenantPath

/-!
# The tenant proxy

A backend serves all tenants; the proxy in front of it lets a request through only for one project
and one resource, both named in the path.

* `Proxy.tenant` reads them; `Proxy.authorizeWith` asks whether the caller may read the project,
  and every answer but yes is the same denial; `Proxy.outbound` restricts the request's parameters
  to the resource and names the project in the tenant header;
* `Proxy.prepareWith` is all three in this order: only what it gives is ever sent;
* `Proxy.relay` passes the backend's answer on, unless it says that the proxy itself was refused or
  that the backend failed;
* `Proxy.handleWith` is the whole, over any oracle that answers for the store; `Proxy.handle` asks
  the store of an execution within the time of a permission check.
-/

namespace TenantGuard

open Http (Request Response Outbound Exchange Transport)
open Plan (Oracle)
open Store (Query)

/-- **A mounted backend.** -/
structure Proxy where
  name : String
  dialect : Dialect
  /-- Where it is mounted, without trailing slashes. -/
  mount : String
  /-- The backend's address, without trailing slashes. -/
  base : String
  nativePrefix : String
  tenantHeader : Http.HeaderName
  /-- The time that a permission check may take, in milliseconds. -/
  authzTimeout : Nat
  deriving DecidableEq, Repr, Inhabited

namespace Proxy

variable {σ : Type}

/-- The greatest length of a request's body, in bytes. -/
def maxBodyLength : Nat := 8 * 1024 * 1024

/-- Mounts a backend; its tenant header must be the name of a header. -/
def ofBackend (authzTimeout : Nat) (b : Backend) : Except Fault Proxy :=
  match Http.HeaderName.read? b.tenantHeader with
  | none => .error (.configuration ("Backend '" ++ b.name ++
      "' has an invalid tenant header: invalid HTTP header name"))
  | some tenantHeader => .ok
    { name := b.name, dialect := b.dialect, mount := b.mount
      base := TenantPath.dropEndSlashes b.url, nativePrefix := b.nativePrefix, tenantHeader
      authzTimeout }

/-- **Why a request goes no further.** -/
structure Denial where
  outcome : Telemetry.Outcome
  fault : Fault
  deriving Repr

/-! ## The tenant -/

/-- The part of a path below the mount; nothing if it does not lie below. -/
def belowMount (p : Proxy) (path : String) : String :=
  String.ofList ((Text.after? p.mount.toList path.toList).getD [])

/-- **The tenant that a request names.** -/
def tenant (p : Proxy) (r : Request) : Except Denial TenantPath :=
  match TenantPath.parse (p.belowMount r.path) with
  | .ok t => .ok t
  | .error e => .error ⟨.badRequest, e.toFault⟩

/-! ## Authorization -/

/-- Why the permission check did not say yes, for the operator. -/
def cause : Except Fault Bool → String
  | .ok _ => "denied"
  | .error e =>
    if e.isNotFound then "unknown_project" else if e.code == .timeout then "timeout"
    else "store_error"

/-- The denial, whatever its cause: the caller is not told. -/
def refusal (p : Proxy) (caller : Identity) (t : TenantPath) (answer : Except Fault Bool) :
    Denial :=
  ⟨.forbidden, .forbidden ("proxy " ++ p.name ++ " refused " ++ caller.userId ++ " on " ++
    t.scope.text ++ ": " ++ cause answer)⟩

/-- **May the caller read the project?**  The oracle is the store, within the limits of the
check. -/
def authorizeWith (p : Proxy) (store : Oracle Query Query.Answer σ) (caller : Identity)
    (t : TenantPath) (x : σ) : Except Denial Unit × List Telemetry.Event × σ :=
  match (Engine.check caller.userId .read t.scope).run.run store x with
  | (.ok true, es, x) => (.ok (), es, x)
  | (answer, es, x) => (.error (p.refusal caller t answer), es, x)

/-! ## The request that goes out -/

/-- The address that is asked for. -/
def outboundUrl (p : Proxy) (t : TenantPath) (query : List Form.Pair) : String :=
  p.base ++ t.backendPath p.nativePrefix ++ "?" ++ Form.encode query

/-- The body that goes out: a form's parameters are restricted like those of the address. -/
def outboundBody (p : Proxy) (t : TenantPath) (r : Request) : Except Fault (List UInt8) :=
  if maxBodyLength < r.body.length then
    .error (.validation "Request body rejected: length limit exceeded")
  else if Http.isForm r.headers then
    match p.dialect.restrictPairs (Form.parse (Text.Utf8.lossy r.body)) t.resourceId with
    | .ok pairs => .ok (Text.Utf8.bytes (Form.encode pairs))
    | .error e => .error e.toFault
  else .ok r.body

/-- **The request that goes out** for a tenant. -/
def outbound (p : Proxy) (t : TenantPath) (r : Request) : Except Fault Outbound := do
  let query ← (p.dialect.restrictPairs (Form.parse (r.query.getD "")) t.resourceId).mapError
    QueryFault.toFault
  let body ← p.outboundBody t r
  return {
    method := r.method
    url := p.outboundUrl t query
    headers := outboundHeaders p.tenantHeader.text t.projectId r.headers
    body }

/-- **What is sent for a request**, or why nothing is. -/
def prepareWith (p : Proxy) (store : Oracle Query Query.Answer σ) (caller : Option Identity)
    (r : Request) (x : σ) : Except Denial Outbound × List Telemetry.Event × σ :=
  match caller with
  | none => (.error ⟨.unauthenticated, .unauthorized "Authentication required"⟩, [], x)
  | some caller =>
    match p.tenant r with
    | .error d => (.error d, [], x)
    | .ok t =>
      match p.authorizeWith store caller t x with
      | (.error d, es, x) => (.error d, es, x)
      | (.ok (), es, x) =>
        match p.outbound t r with
        | .ok out => (.ok out, es, x)
        | .error f => (.error ⟨.badRequest, f⟩, es, x)

/-! ## The backend's answer -/

/-- Statuses of a backend that are not the caller's business: it refused the proxy, it failed, or
the number is none. -/
def isBackendFault (status : Nat) : Bool :=
  status == 401 || status == 403 || (500 ≤ status && status < 600) || status < 100 || 999 < status

/-- **What the caller gets of an exchange.** -/
def relay (p : Proxy) : Exchange → Except Fault Response
  | .failed reason => .error (.backendUnavailable p.name reason)
  | .answered status headers body =>
    if isBackendFault status then
      .error (.backendUnavailable p.name ("upstream answered " ++ toString status))
    else .ok { status, headers := returnable headers, body }

/-- **How a request was handled.** -/
structure Handled (σ : Type) where
  response : Response
  /-- What was sent to the backend. -/
  sent : Option Outbound
  events : List Telemetry.Event
  /-- The store's state after the permission check. -/
  state : σ

/-- **Handles one request**, the permission check being answered by any store. -/
def handleWith (p : Proxy) (store : Oracle Query Query.Answer σ) (transport : Transport)
    (now : Moment) (caller : Option Identity) (r : Request) (x : σ) : Handled σ :=
  match p.prepareWith store caller r x with
  | (.error d, es, x) =>
    { response := .ofFault now d.fault, sent := none
      events := es ++ [.proxied p.name d.outcome, .reported d.fault.code], state := x }
  | (.ok out, es, x) =>
    match p.relay (transport out) with
    | .ok response =>
      { response, sent := some out
        events := es ++ [.timed p.name, .proxied p.name .forwarded], state := x }
    | .error f =>
      { response := .ofFault now f, sent := some out
        events := es ++ [.timed p.name, .proxied p.name .backendError, .reported f.code]
        state := x }

/-- The limits of a permission check that starts at an instant. -/
def limitsFrom (p : Proxy) (start : Instant) : Limits :=
  { deadline := some (start + p.authzTimeout) }

/-- **Handles one request** in an execution. -/
def handle (p : Proxy) (transport : Transport) (now : Moment) (caller : Option Identity)
    (r : Request) (x : Execution) : Handled Execution :=
  p.handleWith (Execution.ask (p.limitsFrom x.clock) now) transport now caller r x

end Proxy

end TenantGuard
