import TenantGuard.Auth.SignedToken
import TenantGuard.Auth.TokenTable
import TenantGuard.Query.Dialect
import TenantGuard.Settings.Scalar
import TenantGuard.TenantPath
import TenantGuard.Url

/-!
# Settings

What a server is started with.

* `Settings.load` reads the settings from a document and from variables and accepts them only if
  `Settings.validate` does;
* `Settings.validate` refuses what would fail once requests come in: a key that is missing, a table
  of tokens that is empty, a backend that is mounted where it cannot be reached or in place of
  something else.
-/

namespace TenantGuard

/-- **Where a server listens.** -/
structure ServerSettings where
  host : String := "0.0.0.0"
  portNumber : Nat := 8080
  /-- The origins that browsers may call from; none listed: any. -/
  allowedOrigins : List String := []
  shutdownGrace : TimeSpan := .ofSeconds 10
  deriving DecidableEq, Repr, Inhabited

/-- **The database behind a server.** -/
structure DatabaseSettings where
  url : String
  maxConnections : Nat := 20
  minConnections : Nat := 2
  acquireTimeout : TimeSpan := .ofSeconds 5
  runMigrations : Bool := true
  deriving DecidableEq, Repr, Inhabited

/-- **What a server reports about itself.** -/
structure ObservabilitySettings where
  traceEndpoint : Option String := none
  serviceName : String := "scopegate"
  logLevel : String := "info"
  jsonLogging : Bool := true
  metricsEnabled : Bool := true
  deriving DecidableEq, Repr, Inhabited

/-- **What bearer tokens are checked with.** -/
inductive VerifierKind where
  | signed
  | table
  deriving DecidableEq, Repr, Inhabited

def VerifierKind.name : VerifierKind → String
  | signed => "jwt"
  | table => "static"

/-- **How callers are known.** -/
structure AuthSettings where
  verifier : VerifierKind := .signed
  token : TokenSettings := {}
  tokens : TokenTable := []
  /-- Whether a login makes the user known and claims an invitation. -/
  reconcileLogins : Bool := true
  deriving DecidableEq, Repr, Inhabited

/-- **A backend behind the proxy.** -/
structure Backend where
  name : String
  dialect : Dialect
  /-- Where the backend is mounted. -/
  route : String
  url : String
  ownPrefix : Option String := none
  ownHeader : Option String := none
  deriving DecidableEq, Repr, Inhabited

namespace Backend

/-- Where the backend's endpoints live. -/
def nativePrefix (b : Backend) : String := b.ownPrefix.getD b.dialect.spec.nativePrefix

/-- The header that names the tenant to the backend. -/
def tenantHeader (b : Backend) : String := b.ownHeader.getD b.dialect.spec.tenantHeader

/-- Where the backend is mounted, without trailing slashes. -/
def mount (b : Backend) : String := TenantPath.dropEndSlashes b.route

end Backend

/-- **The proxy's limits and backends.** -/
structure ProxySettings where
  /-- The time that a permission check may take. -/
  authzTimeout : TimeSpan := .ofSeconds 2
  /-- The time that a backend may take. -/
  backendTimeout : TimeSpan := .ofSeconds 30
  backends : List Backend := []
  deriving DecidableEq, Repr, Inhabited

/-- **All settings of a server.** -/
structure Settings where
  server : ServerSettings := {}
  database : DatabaseSettings
  observability : ObservabilitySettings := {}
  auth : AuthSettings := {}
  proxy : ProxySettings := {}
  deriving DecidableEq, Repr, Inhabited

namespace Settings

/-! ## Reading -/

def server? (j : Json) : Option ServerSettings := do
  let t ← Section.ofJson? ["host", "port", "cors_allowed_origins", "shutdown_grace"] j
  let d : ServerSettings := {}
  return {
    host := ← t.withDefault "host" text? d.host
    portNumber := ← t.withDefault "port" (nat? (Nat.pow 2 16 - 1)) d.portNumber
    allowedOrigins := ← t.withDefault "cors_allowed_origins" (list? text?) d.allowedOrigins
    shutdownGrace := ← t.withDefault "shutdown_grace" timeSpan? d.shutdownGrace }

def database? (j : Json) : Option DatabaseSettings := do
  let t ← Section.ofJson?
    ["url", "max_connections", "min_connections", "acquire_timeout", "run_migrations"] j
  let d : DatabaseSettings := { url := ← t.required "url" text? }
  return { d with
    maxConnections := ← t.withDefault "max_connections" (nat? (Nat.pow 2 32 - 1)) d.maxConnections
    minConnections := ← t.withDefault "min_connections" (nat? (Nat.pow 2 32 - 1)) d.minConnections
    acquireTimeout := ← t.withDefault "acquire_timeout" timeSpan? d.acquireTimeout
    runMigrations := ← t.withDefault "run_migrations" bool? d.runMigrations }

def observability? (j : Json) : Option ObservabilitySettings := do
  let t ← Section.ofJson?
    ["otlp_endpoint", "service_name", "log_level", "json_logging", "metrics_enabled"] j
  let d : ObservabilitySettings := {}
  return {
    traceEndpoint := ← t.optional "otlp_endpoint" text?
    serviceName := ← t.withDefault "service_name" text? d.serviceName
    logLevel := ← t.withDefault "log_level" text? d.logLevel
    jsonLogging := ← t.withDefault "json_logging" bool? d.jsonLogging
    metricsEnabled := ← t.withDefault "metrics_enabled" bool? d.metricsEnabled }

def token? (j : Json) : Option TokenSettings := do
  let t ← Section.ofJson?
    ["algorithm", "secret", "public_key_pem", "issuer", "audience", "leeway_secs"] j
  let d : TokenSettings := {}
  return {
    algorithm := ← t.withDefault "algorithm" text? d.algorithm
    secret := ← t.optional "secret" text?
    publicKeyPem := ← t.optional "public_key_pem" text?
    issuer := ← t.optional "issuer" text?
    audience := ← t.optional "audience" text?
    leeway := ← t.withDefault "leeway_secs" (nat? (Nat.pow 2 64 - 1)) d.leeway }

def entry? (j : Json) : Option TokenEntry := do
  let t ← Section.ofJson? ["token", "user_id", "email"] j
  return {
    token := ← t.required "token" text?
    identity :=
      { userId := ← t.required "user_id" text?
        email := ← t.optional "email" text? } }

def verifier? : Json → Option VerifierKind :=
  choice? ([.signed, .table].map fun k => (k.name, k))

def auth? (j : Json) : Option AuthSettings := do
  let t ← Section.ofJson? ["verifier", "jwt", "static_tokens", "reconcile_logins"] j
  let d : AuthSettings := {}
  return {
    verifier := ← t.withDefault "verifier" verifier? d.verifier
    token := ← t.withDefault "jwt" token? d.token
    tokens := ← t.withDefault "static_tokens" (list? entry?) d.tokens
    reconcileLogins := ← t.withDefault "reconcile_logins" bool? d.reconcileLogins }

def dialect? : Json → Option Dialect :=
  choice? ([.logs, .metrics].map fun d => (d.name, d))

def backend? (j : Json) : Option Backend := do
  let t ← Section.ofJson?
    ["name", "kind", "route_prefix", "upstream_url", "native_prefix", "tenant_header"] j
  return {
    name := ← t.required "name" text?
    dialect := ← t.required "kind" dialect?
    route := ← t.required "route_prefix" text?
    url := ← t.required "upstream_url" text?
    ownPrefix := ← t.optional "native_prefix" text?
    ownHeader := ← t.optional "tenant_header" text? }

def proxy? (j : Json) : Option ProxySettings := do
  let t ← Section.ofJson? ["authz_timeout", "upstream_timeout", "backends"] j
  let d : ProxySettings := {}
  return {
    authzTimeout := ← t.withDefault "authz_timeout" timeSpan? d.authzTimeout
    backendTimeout := ← t.withDefault "upstream_timeout" timeSpan? d.backendTimeout
    backends := ← t.withDefault "backends" (list? backend?) d.backends }

/-- The settings in a tree. -/
def ofTree? (j : Json) : Option Settings := do
  let t ← Section.ofJson? ["server", "database", "observability", "auth", "proxy"] j
  return {
    server := ← t.withDefault "server" server? {}
    database := ← t.required "database" database?
    observability := ← t.withDefault "observability" observability? {}
    auth := ← t.withDefault "auth" auth? {}
    proxy := ← t.withDefault "proxy" proxy? {} }

/-! ## Validation -/

/-- The key that the algorithm needs must be there. -/
def validateToken (t : TokenSettings) : Except Fault Unit :=
  if t.algorithm = "HS256" then
    if t.secret.isNone then .error (.configuration "auth.jwt.secret is required for HS256")
    else .ok ()
  else if t.algorithm = "RS256" then
    if t.publicKeyPem.isNone then
      .error (.configuration "auth.jwt.public_key_pem is required for RS256")
    else .ok ()
  else .error (.configuration ("Unsupported JWT algorithm: " ++ t.algorithm))

def validateAuth (a : AuthSettings) : Except Fault Unit :=
  match a.verifier with
  | .signed => validateToken a.token
  | .table =>
    if a.tokens.isEmpty then
      .error (.configuration "auth.static_tokens must not be empty for the static verifier")
    else .ok ()

/-- Whether a mount starts with a slash and names a path. -/
def namesPath (mount : String) : Bool :=
  match mount.toList with
  | '/' :: _ :: _ => true
  | _ => false

/-- Whether a mount is kept for the server's own routes. -/
def isReserved (mount : String) : Bool :=
  "/api".toList.isPrefixOf mount.toList || mount == "/health" || mount == "/metrics"

/-- Accepts a backend, given the mounts that are taken. -/
def validateBackend (taken : List String) (b : Backend) : Except Fault Unit :=
  let refuse (reason : String) : Except Fault Unit :=
    .error (.configuration ("Backend '" ++ b.name ++ "': " ++ reason))
  if !namesPath b.mount then refuse "route_prefix must start with '/' and name a path"
  else if isReserved b.mount then
    refuse ("route_prefix " ++ b.mount ++ " collides with a built-in route")
  else if taken.contains b.mount then
    .error (.configuration ("Duplicate proxy route_prefix: " ++ b.mount))
  else if (Url.parse? b.url).isNone then refuse ("invalid upstream_url " ++ b.url)
  else .ok ()

/-- Accepts backends one by one. -/
def validateBackends (taken : List String) : List Backend → Except Fault Unit
  | [] => .ok ()
  | b :: bs => do
    validateBackend taken b
    validateBackends (b.mount :: taken) bs

/-- **Refuses settings that would fail once requests come in.** -/
def validate (s : Settings) : Except Fault Unit := do
  validateAuth s.auth
  validateBackends [] s.proxy.backends

/-! ## Loading -/

/-- The members of a document; without a document there are none. -/
def document? : Option String → Option (List (String × Json))
  | none => some []
  | some text => match Json.parse? text with
    | some (.object ms) => some (sortedMembers ms)
    | _ => none

/-- What a document and variables say, if it makes settings. -/
def read? (document : Option String) (vars : List (String × String)) : Option Settings := do
  ofTree? (tree (← document? document) vars)

/-- **Loads settings.** -/
def load (document : Option String) (vars : List (String × String)) : Except Fault Settings :=
  match read? document vars with
  | none => .error (.ofSettings "the settings cannot be read")
  | some s => do
    s.validate
    return s

end Settings

end TenantGuard
