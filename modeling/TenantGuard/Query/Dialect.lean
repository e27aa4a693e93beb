/-!
# Query dialects

A backend speaks one of two query languages.  The dialect says which request parameters hold an
expression or a series selector, which parameter holds the backend's own filter, where the
backend's endpoints live and which header names its tenant.
-/

namespace TenantGuard

/-- **The query languages**: LogsQL, and PromQL with MetricsQL. -/
inductive Dialect where
  | logs
  | metrics
  deriving DecidableEq, Repr, Inhabited

namespace Dialect

/-- **What a dialect fixes.** -/
structure Spec where
  /-- Parameters that hold a query expression. -/
  queryParams : List String
  /-- Parameters that hold one series selector. -/
  selectorParams : List String
  /-- The backend's own filter parameter, set on every forwarded request. -/
  extraFilterParam : String
  /-- Where the backend's endpoints live unless a backend says otherwise. -/
  nativePrefix : String
  /-- The tenant header unless a backend says otherwise. -/
  tenantHeader : String
  deriving Repr

def spec : Dialect → Spec
  | logs =>
    { queryParams := ["query"]
      selectorParams := []
      extraFilterParam := "extra_filters"
      nativePrefix := "/select/logsql"
      tenantHeader := "AccountID" }
  | metrics =>
    { queryParams := ["query"]
      selectorParams := ["match[]"]
      extraFilterParam := "extra_label"
      nativePrefix := "/api/v1"
      tenantHeader := "X-Scope-OrgID" }

def name : Dialect → String
  | logs => "logs"
  | metrics => "metrics"

def ofName? (s : String) : Option Dialect := [logs, metrics].find? (·.name == s)

def isQueryParam (d : Dialect) (name : String) : Bool := d.spec.queryParams.contains name

def isSelectorParam (d : Dialect) (name : String) : Bool := d.spec.selectorParams.contains name

/-- The filter expression for a resource. -/
def resourceFilter (d : Dialect) (resourceId : String) : String :=
  match d with
  | logs => "resource_id:\"" ++ resourceId ++ "\""
  | metrics => "\x7bresource_id=\"" ++ resourceId ++ "\"\x7d"

theorem resourceFilter_logs (resourceId : String) :
    logs.resourceFilter resourceId = "resource_id:\"" ++ resourceId ++ "\"" := rfl

theorem resourceFilter_metrics (resourceId : String) :
    metrics.resourceFilter resourceId = "\x7bresource_id=\"" ++ resourceId ++ "\"\x7d" := rfl

/-- The value of the backend's filter parameter for a resource. -/
def extraFilter (d : Dialect) (resourceId : String) : String :=
  match d with
  | logs => "\x7b\"resource_id\":\"" ++ resourceId ++ "\"\x7d"
  | metrics => "resource_id=" ++ resourceId

/-- The quotes that open a string literal: double, single and backquote. -/
def isQuote (c : Char) : Bool := c == '"' || c == '\'' || c == '\x60'

/-- Whether a backslash escapes the next character inside a literal with this quote. -/
def hasEscapes (d : Dialect) (quote : Char) : Bool :=
  quote == '"' || (quote == '\'' && d == metrics)

end Dialect

/-- **Why a query text is refused.** -/
inductive QueryFault where
  | expectedLiteral
  | escapeNotSupported
  | unterminatedLiteral
  | commentNotAllowed
  | unbalanced (bracket : Char)
  | unclosed (bracket : Char)
  | badMetricName (name : String)
  | selectorNotClosed
  | expectedLabel
  | missingOperator (label : String)
  | missingSeparator
  deriving DecidableEq, Repr

def QueryFault.message : QueryFault → String
  | expectedLiteral => "Expected a quoted string"
  | escapeNotSupported => "Backslash escapes are not supported in this kind of string"
  | unterminatedLiteral => "Unterminated string in query expression"
  | commentNotAllowed => "'#' is only allowed inside quoted strings in LogsQL expressions"
  | unbalanced c => "Unbalanced '" ++ String.singleton c ++ "' in query expression"
  | unclosed c => "Unclosed '" ++ String.singleton c ++ "' in query expression"
  | badMetricName n => "Invalid metric name in series selector: " ++ n
  | selectorNotClosed => "Series selector must end with '\x7d'"
  | expectedLabel => "Series selector matchers must start with a label name"
  | missingOperator l => "Missing match operator after label '" ++ l ++ "'"
  | missingSeparator => "Series selector matchers must be separated by ','"

end TenantGuard
