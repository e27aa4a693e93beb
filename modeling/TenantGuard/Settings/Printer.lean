import TenantGuard.Settings

/-!
# Settings as a document

What a server was started with, section by section.  A span of time is written as its seconds and
the nanoseconds beyond them, and a backend shows the prefix and the header that are in effect.
-/

namespace TenantGuard

def TimeSpan.toJson (t : TimeSpan) : Json := .array [.ofNat t.seconds, .ofNat t.nanos]

namespace Settings

def textsJson (xs : List String) : Json := .array (xs.map .text)

def serverJson (s : ServerSettings) : Json :=
  .object
    [("host", .text s.host), ("port", .ofNat s.portNumber),
     ("cors_allowed_origins", textsJson s.allowedOrigins),
     ("shutdown_grace", s.shutdownGrace.toJson)]

def databaseJson (d : DatabaseSettings) : Json :=
  .object
    [("url", .text d.url), ("max_connections", .ofNat d.maxConnections),
     ("min_connections", .ofNat d.minConnections), ("acquire_timeout", d.acquireTimeout.toJson),
     ("run_migrations", .boolean d.runMigrations)]

def observabilityJson (o : ObservabilitySettings) : Json :=
  .object
    [("otlp_endpoint", .ofOption o.traceEndpoint), ("service_name", .text o.serviceName),
     ("log_level", .text o.logLevel), ("json_logging", .boolean o.jsonLogging),
     ("metrics_enabled", .boolean o.metricsEnabled)]

def tokenJson (t : TokenSettings) : Json :=
  .object
    [("algorithm", .text t.algorithm), ("secret", .ofOption t.secret),
     ("public_key_pem", .ofOption t.publicKeyPem), ("issuer", .ofOption t.issuer),
     ("audience", .ofOption t.audience), ("leeway_secs", .ofNat t.leeway)]

def entryJson (e : TokenEntry) : Json :=
  .object
    [("token", .text e.token), ("user_id", .text e.identity.userId),
     ("email", .ofOption e.identity.email)]

def authJson (a : AuthSettings) : Json :=
  .object
    [("verifier", .text a.verifier.name), ("jwt", tokenJson a.token),
     ("static_tokens", .array (a.tokens.map entryJson)),
     ("reconcile_logins", .boolean a.reconcileLogins)]

def backendJson (b : Backend) : Json :=
  .object
    [("name", .text b.name), ("kind", .text b.dialect.name), ("route_prefix", .text b.route),
     ("upstream_url", .text b.url), ("native_prefix", .text b.nativePrefix),
     ("tenant_header", .text b.tenantHeader)]

def proxyJson (p : ProxySettings) : Json :=
  .object
    [("authz_timeout", p.authzTimeout.toJson), ("upstream_timeout", p.backendTimeout.toJson),
     ("backends", .array (p.backends.map backendJson))]

/-- **The document.** -/
def toJson (s : Settings) : Json :=
  .object
    [("server", serverJson s.server), ("database", databaseJson s.database),
     ("observability", observabilityJson s.observability), ("auth", authJson s.auth),
     ("proxy", proxyJson s.proxy)]

end Settings

end TenantGuard
