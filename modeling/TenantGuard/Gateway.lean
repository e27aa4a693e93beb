import TenantGuard.Api.Perform
import TenantGuard.Api.Reading
import TenantGuard.Auth.Authenticator
import TenantGuard.Auth.Bearer
import TenantGuard.Auth.LoginMemory
import TenantGuard.Gateway.Target
import TenantGuard.Http.Cors

/-!
# The gateway

The whole server as a function of one request: `Gateway.handle` answers it and gives the state after
it, with what was sent to a backend on the way.

* `authenticate` asks for credentials, except at public paths, and reconciles the caller's login;
* `serve` does what the target of the request is there for;
* `guarded` puts the answers for other origins around both, and `finish` what belongs to the method:
  a target names the methods that it takes to who uses another one, and a request for a head alone
  gets no body.
-/

namespace TenantGuard

open Http (Request Response Outbound Transport Cors)
open Api (Ledger Place)
open Administration (Stamp)

/-- **Whether there is a database, and whether it answers.** -/
inductive DatabaseHealth where
  | notConfigured
  | up
  | down
  deriving DecidableEq, Repr, Inhabited

def DatabaseHealth.name : DatabaseHealth → String
  | notConfigured => "not_configured"
  | up => "up"
  | down => "down"

/-- **A server.** -/
structure Gateway where
  authenticator : Authenticator
  /-- How long logins are remembered; `none`: logins change nothing. -/
  logins : Option LoginMemory.Policy := none
  cors : Cors := .anyOrigin
  proxies : List Proxy := []
  database : DatabaseHealth := .notConfigured
  exposesMetrics : Bool := false
  deriving Repr

namespace Gateway

/-! ## Making a server -/

/-- The authenticator that settings ask for. -/
def authenticatorOf (a : AuthSettings) : Except Fault Authenticator :=
  match a.verifier with
  | .signed => (Verifier.ofSettings a.token).map .signed
  | .table => .ok (.table a.tokens)

/-- **The server that settings describe.** -/
def ofSettings (s : Settings) (database : DatabaseHealth) : Except Fault Gateway := do
  let authenticator ← authenticatorOf s.auth
  let proxies ← s.proxy.backends.mapM (Proxy.ofBackend s.proxy.authzTimeout.millis)
  return {
    authenticator, proxies, database
    logins := if s.auth.reconcileLogins then some {} else none
    cors := .ofOrigins s.server.allowedOrigins
    exposesMetrics := s.observability.metricsEnabled }

/-! ## States and answers -/

/-- **What changes from request to request.** -/
structure State where
  ledger : Ledger
  logins : LoginMemory := {}
  deriving Inhabited

def State.note (s : State) (es : List Telemetry.Event) : State :=
  { s with ledger := { s.ledger with events := s.ledger.events ++ es } }

/-- **An answer**, and what was sent to a backend for it. -/
structure Answer where
  response : Response
  sent : Option Outbound := none

/-! ## Callers -/

/-- The time that the reconciliation of a login may take, in milliseconds. -/
def loginTimeLimit : Nat := 2000

/-- Records a login in the store and remembers it, unless that was done a short time ago.  A
reconciliation that fails is given up until the next request. -/
def reconcile (g : Gateway) (stamp : Stamp) (caller : Identity) (s : State) : State :=
  match g.logins with
  | none => s
  | some policy =>
    let start := s.ledger.execution.clock
    if s.logins.knows policy start caller.userId then s
    else
      let limits : Limits := { deadline := some (start + loginTimeLimit) }
      match s.ledger.execution.transact limits stamp.now
          (Administration.reconcileLogin stamp.now caller.userId caller.email) with
      | (.ok _, x) =>
        { ledger := { s.ledger with execution := x }
          logins := s.logins.remember policy x.clock caller.userId }
      | (.error _, x) => { s with ledger := { s.ledger with execution := x } }

/-- **The caller of a request**, or why nobody is let in.  At a public path nobody is asked. -/
def authenticate (g : Gateway) (stamp : Stamp) (r : Request) (s : State) :
    Except Refusal (Option Identity) × State :=
  if isPublicPath r.path then (.ok none, s)
  else match bearerToken? r.headers with
    | none => (.error .missingCredentials, s.note [Refusal.missingCredentials.event])
    | some token =>
      match g.authenticator.identify stamp.now.seconds token with
      | (.error refusal, es) => (.error refusal, s.note (es ++ [refusal.event]))
      | (.ok caller, es) => (.ok (some caller), g.reconcile stamp caller (s.note es))

/-! ## Probes -/

/-- The version that the health probe names. -/
def version : String := "0.1.0"

def health (now : Moment) : Response :=
  .ofJson 200
    (.object
      [("status", .text "healthy"), ("version", .text version), ("timestamp", .text now.toText)])

/-- Ready unless there is a database that does not answer. -/
def readiness (d : DatabaseHealth) : Response :=
  let ready := d ≠ .down
  .ofJson (if ready then 200 else 503)
    (.object [("ready", .boolean ready), ("database", .text d.name)])

/-- The counts of all events so far. -/
def metrics (exposes : Bool) (events : List Telemetry.Event) : Response :=
  if exposes then
    { Response.ofText 200 (String.join ((Telemetry.exposition events).map (· ++ "\n"))) with
      headers := [.ofText "content-type" "text/plain; version=0.0.4; charset=utf-8"] }
  else .ofText 404 "metrics exporter disabled\n"

/-- The answer to a path that leads nowhere. -/
def notFound : Response := .failure 404 "No route matches this request" "NOT_FOUND"

/-- The answer to a method that the target does not take. -/
def wrongMethod : Response := { status := 405 }

/-! ## The management interface -/

/-- Answers a request to a place: a rejection changes nothing, a fault is counted and reported. -/
def serveApi (stamp : Stamp) (caller : Option Identity) (place : Place) (r : Request)
    (l : Ledger) : Response × Ledger :=
  match caller with
  | none =>
    let refusal := Refusal.missingCredentials
    (.ofRefusal refusal, { l with events := l.events ++ [refusal.event] })
  | some caller =>
    match Api.Call.ofRequest place r with
    | .error rejection => (rejection.toResponse, l)
    | .ok call =>
      match (Api.perform stamp caller call).run l with
      | (.ok reply, l) => (.success reply.status reply.toJson, l)
      | (.error f, l) =>
        (.ofFault stamp.now f, { l with events := l.events ++ [.reported f.code] })

/-! ## Requests -/

/-- **Does what a target is there for.** -/
def serve (g : Gateway) (transport : Transport) (stamp : Stamp) (target : Target)
    (caller : Option Identity) (r : Request) (s : State) : Answer × State :=
  match target with
  | .health => (⟨health stamp.now, none⟩, s)
  | .readiness => (⟨readiness g.database, none⟩, s)
  | .metrics => (⟨metrics g.exposesMetrics s.ledger.events, none⟩, s)
  | .api place =>
    let (response, ledger) := serveApi stamp caller place r s.ledger
    (⟨response, none⟩, { s with ledger })
  | .proxy p =>
    let h := p.handle transport stamp.now caller r s.ledger.execution
    (⟨h.response, h.sent⟩, { s with ledger := ⟨h.state, s.ledger.events ++ h.events⟩ })
  | .nowhere => (⟨notFound, none⟩, s)

/-- Lets the caller in and serves the request, if the target takes its method. -/
def serveAuthenticated (g : Gateway) (transport : Transport) (stamp : Stamp) (target : Target)
    (r : Request) (s : State) : Answer × State :=
  match g.authenticate stamp r s with
  | (.error refusal, s) => (⟨.ofRefusal refusal, none⟩, s)
  | (.ok caller, s) =>
    if target.takes r.method then g.serve transport stamp target caller r s
    else (⟨wrongMethod, none⟩, s)

/-- Answers what browsers ask for other origins, and tells them who may read the other answers. -/
def guarded (g : Gateway) (transport : Transport) (stamp : Stamp) (target : Target) (r : Request)
    (s : State) : Answer × State :=
  if r.method = "OPTIONS" then (⟨g.cors.preflight r, none⟩, s)
  else
    let (a, s) := g.serveAuthenticated transport stamp target r s
    ({ a with response := g.cors.mark r a.response }, s)

/-- Names the methods of a target to who uses another one, and drops the body of an answer to a
request for a head alone. -/
def finish (target : Target) (method : String) (response : Response) : Response :=
  match target.methods? with
  | none => response
  | some methods =>
    if !methods.contains method then
      response.withHeader (.ofText "allow" (",".intercalate methods))
    else if method = "HEAD" then { response with body := [] }
    else response

/-- **Handles one request.** -/
def handle (g : Gateway) (transport : Transport) (stamp : Stamp) (r : Request) (s : State) :
    Answer × State :=
  let target := Target.ofPath g.proxies r.path
  let (a, s) := g.guarded transport stamp target r s
  ({ a with response := finish target r.method a.response }, s)

end Gateway

end TenantGuard
