import TenantGuard.Api.Call
import TenantGuard.Engine
import TenantGuard.Text.Blank

/-!
# Carrying out calls

`perform` carries out one call for an identified caller.  All steps of a call share one time limit.

* who creates an organization needs no permission; a project or a resource is only added where the
  caller may write, grants are only seen and changed where the caller may manage access;
* a scope that does not exist is denied like one without a grant;
* the permission is checked before anything else that depends on the store.
-/

namespace TenantGuard.Api

open Administration (Stamp GrantRequest)

/-- **An execution and what has been counted in it.** -/
structure Ledger where
  execution : Execution
  events : List Telemetry.Event := []
  deriving Inhabited

/-- A part of a call. -/
abbrev Task (α : Type) := ExceptT Fault (StateM Ledger) α

namespace Task

/-- Runs a plan that only reads. -/
def inquire {α : Type} (l : Limits) (now : Moment) (plan : Inquiry α) : Task α := fun s =>
  let (r, es, x) := s.execution.consult l now plan.run
  (r, ⟨x, s.events ++ es⟩)

/-- Runs a transaction that was accepted. -/
def change {α : Type} (l : Limits) (now : Moment) (body : Except Fault (Change α)) : Task α :=
  fun s =>
    let (r, x) := s.execution.transactIfValid l now body
    (r, { s with execution := x })

/-- Hands on a result. -/
def ofExcept {α : Type} (r : Except Fault α) : Task α := fun s => (r, s)

end Task

/-- The time that one call may take, in milliseconds. -/
def timeLimit : Nat := 10000

/-- The limits of a call that starts at an instant. -/
def limitsFrom (start : Instant) : Limits := { deadline := some (start + timeLimit) }

/-- A scope on which the caller is allowed to do something. -/
def requireScope (l : Limits) (now : Moment) (caller : Identity) (a : Action) (n : ScopeName) :
    Task Scope := do
  let scope ← Task.ofExcept n.resolve
  Task.inquire l now (Engine.enforce caller.userId a scope)
  return scope

/-- A scope that does not exist is denied. -/
def denyUnknown (s : Scope) (f : Fault) : Fault :=
  if f.isNotFound then Engine.unknownScope s else f

/-- The actions at a scope; none are told of a scope that does not exist. -/
def permissionsAt (user : String) (s : Scope) : Inquiry (List Action) := do
  match ← Procedure.attempt (Engine.list user s) with
  | .ok actions => return actions
  | .error f => throw (denyUnknown s f)

/-- **Carries out a call** under given limits. -/
def performWithin (l : Limits) (stamp : Stamp) (caller : Identity) : Call → Task Reply
  | .whoami => do
    let grants ← Task.inquire l stamp.now (Inquiry.grantsOf caller.userId)
    return .caller caller grants
  | .authorize a names => do
    let scopes ← Task.ofExcept (names.mapM ScopeName.resolve)
    let allowed ← Task.inquire l stamp.now (Engine.filterPermitted caller.userId a scopes)
    return .permitted a allowed
  | .createOrganization name => do
    let o ← Task.change l stamp.now (Administration.createOrganization stamp name caller.userId)
    return .organization o
  | .createProject organizationId name description => do
    let _ ← requireScope l stamp.now caller .write ⟨ScopeType.organization.name, organizationId⟩
    let p ← Task.change l stamp.now
      (Administration.createProject stamp organizationId name description caller.userId)
    return .project p
  | .createResource projectId name kind => do
    let _ ← requireScope l stamp.now caller .write ⟨ScopeType.project.name, projectId⟩
    let r ← Task.change l stamp.now (Administration.createResource stamp projectId name kind)
    return .resource r
  | .listPermissions n => do
    let scope ← Task.ofExcept n.resolve
    let actions ← Task.inquire l stamp.now (permissionsAt caller.userId scope)
    return .permissions scope actions
  | .listAssignments n => do
    let scope ← requireScope l stamp.now caller .manageAccess n
    let rows ← Task.inquire l stamp.now (Inquiry.grantsAt scope)
    return .assignments rows
  | .assignRole n userId roleName expiresAt => do
    let scope ← requireScope l stamp.now caller .manageAccess n
    let request : GrantRequest :=
      { userId := Text.trimmed userId, roleName, scope, assignedBy := some caller.userId
        expiresAt }
    let g ← Task.change l stamp.now (Administration.assignRole stamp request)
    return .granted g
  | .revokeRole n userId roleName => do
    let scope ← requireScope l stamp.now caller .manageAccess n
    let found ← Task.change l stamp.now (.ok (Administration.revokeRole userId roleName scope))
    return .revoked found

/-- **Carries out a call.** -/
def perform (stamp : Stamp) (caller : Identity) (c : Call) : Task Reply := do
  performWithin (limitsFrom (← get).execution.clock) stamp caller c

end TenantGuard.Api
