import TenantGuard.Fault.Code
import TenantGuard.Role
import TenantGuard.Scope

/-!
# Telemetry

What the system counts.  Each countable event belongs to one series, a metric's name with labels;
`exposition` writes the counts of a list of events as lines of text, with a line of help for each
metric that has been counted.
-/

namespace TenantGuard.Telemetry

/-- **How a permission check ended.** -/
inductive Verdict where
  | allow | deny | notFound | error
  deriving DecidableEq, Repr

def Verdict.name : Verdict → String
  | allow => "allow"
  | deny => "deny"
  | notFound => "not_found"
  | error => "error"

/-- **How a proxied request ended.** -/
inductive Outcome where
  | unauthenticated | badRequest | forbidden | forwarded | backendError
  deriving DecidableEq, Repr

def Outcome.name : Outcome → String
  | unauthenticated => "unauthenticated"
  | badRequest => "bad_request"
  | forbidden => "forbidden"
  | forwarded => "forwarded"
  | backendError => "upstream_error"

/-- **What is counted.** -/
inductive Event where
  | decided (action : Action) (level : ScopeType) (verdict : Verdict)
  /-- A fault was reported to a caller. -/
  | reported (code : Fault.Code)
  | tokenRefused (code : String)
  | tokenAccepted (method : String)
  | proxied (backend : String) (outcome : Outcome)
  /-- A round trip to a backend was timed. -/
  | timed (backend : String)
  deriving DecidableEq, Repr

/-- **A series**: a metric, its labels, and what its sample line adds to the metric's name. -/
structure Series where
  metric : String
  labels : List (String × String)
  sampleSuffix : String := ""
  deriving DecidableEq, Repr

namespace Event

def series : Event → Series
  | decided a t v =>
    ⟨"scopegate_authz_decisions_total",
      [("action", a.name), ("scope_type", t.name), ("decision", v.name)], ""⟩
  | reported c => ⟨"scopegate_errors_total", [("code", c.name), ("category", c.category)], ""⟩
  | tokenRefused c => ⟨"scopegate_auth_errors_total", [("error_type", c)], ""⟩
  | tokenAccepted m => ⟨"scopegate_auth_success_total", [("method", m)], ""⟩
  | proxied b o => ⟨"scopegate_proxy_requests_total", [("backend", b), ("outcome", o.name)], ""⟩
  | timed b => ⟨"scopegate_proxy_upstream_seconds", [("backend", b)], "_count"⟩

end Event

/-- What each metric means. -/
def help : List (String × String) :=
  [("scopegate_authz_decisions_total", "Permission checks by action, scope type and decision"),
   ("scopegate_proxy_requests_total", "Proxied requests by backend and outcome"),
   ("scopegate_errors_total", "Errors raised, by code and category"),
   ("scopegate_auth_errors_total", "Rejected authentication attempts by error type"),
   ("scopegate_auth_success_total", "Verified bearer tokens by verification method"),
   ("scopegate_proxy_upstream_seconds", "Upstream round-trip latency per backend")]

/-- A label's value between its quotes: line breaks and quotes are escaped, and so is a backslash
unless it stands before a quote or a line break, or behind another backslash. -/
def escapeLabel : Bool → List Char → List Char
  | held, [] => if held then ['\\', '\\'] else []
  | held, '\n' :: cs => '\\' :: 'n' :: escapeLabel held cs
  | _, '"' :: cs => '\\' :: '"' :: escapeLabel false cs
  | held, '\\' :: cs =>
    if held then '\\' :: '\\' :: escapeLabel false cs else escapeLabel true cs
  | held, c :: cs =>
    if held then '\\' :: '\\' :: c :: escapeLabel false cs else c :: escapeLabel false cs

def labelText (l : String × String) : String :=
  l.1 ++ "=\"" ++ String.ofList (escapeLabel false l.2.toList) ++ "\""

/-- The sample line of a series. -/
def Series.line (s : Series) (count : Nat) : String :=
  s.metric ++ s.sampleSuffix ++ "\x7b" ++ String.intercalate "," (s.labels.map labelText) ++
    "\x7d " ++ toString count

/-- **The counts of a list of events**, as sorted lines. -/
def exposition (events : List Event) : List String :=
  let all := events.map Event.series
  let helpLines := (help.filter fun (metric, _) => all.any (·.metric == metric)).map
    fun (metric, meaning) => "# HELP " ++ metric ++ " " ++ meaning
  let samples := all.eraseDups.map fun s => s.line (all.count s)
  (helpLines ++ samples).mergeSort (· ≤ ·)

end TenantGuard.Telemetry
