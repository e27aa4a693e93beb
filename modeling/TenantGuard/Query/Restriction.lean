import TenantGuard.Query.Expression
import TenantGuard.Query.Selector
import TenantGuard.Query.Form
import TenantGuard.Fault

/-!
# Restricting request parameters

Every parameter that holds an expression or a selector is restricted to one resource, the client's
copies of the backend's filter parameter are dropped, and the filter parameter for the resource is
put at the end.  Other parameters pass unchanged.
-/

namespace TenantGuard

/-- A refused query text as a fault of the request. -/
def QueryFault.toFault (q : QueryFault) : Fault := .invalidFormat q.message

namespace Dialect

/-- The value that goes out for a parameter. -/
def restrictValue (d : Dialect) (name value resourceId : String) : Except QueryFault String :=
  if d.isQueryParam name then Expression.injectFilter d value resourceId
  else if d.isSelectorParam name then Selector.restrict d value resourceId
  else .ok value

/-- The parameter that pins the backend's own filter. -/
def filterPair (d : Dialect) (resourceId : String) : Form.Pair :=
  (d.spec.extraFilterParam, d.extraFilter resourceId)

/-- The client's parameters that are kept. -/
def kept (d : Dialect) (pairs : List Form.Pair) : List Form.Pair :=
  pairs.filter fun p => p.1 != d.spec.extraFilterParam

/-- **Restricts the parameters of a request**; the first parameter that is refused decides the
fault. -/
def restrictPairs (d : Dialect) (pairs : List Form.Pair) (resourceId : String) :
    Except QueryFault (List Form.Pair) := do
  let restricted ← (d.kept pairs).mapM fun (name, value) =>
    return (name, ← d.restrictValue name value resourceId)
  return restricted ++ [d.filterPair resourceId]

/-- Restricts a form-encoded text. -/
def restrictEncoded (d : Dialect) (encoded resourceId : String) : Except QueryFault String := do
  return Form.encode (← d.restrictPairs (Form.parse encoded) resourceId)

end Dialect

end TenantGuard
