import TenantGuard.Administration
import TenantGuard.Auth.Identity

/-!
# Calls of the management interface

What a caller can ask for, `Call`, and what comes back, `Reply`.  A call names scopes the way the
caller wrote them; they are checked when it is carried out.
-/

namespace TenantGuard.Api

open Administration (Granted)

/-- **A scope as a caller names it.** -/
structure ScopeName where
  type : String
  id : String
  deriving DecidableEq, Repr, Inhabited

/-- The scope that is meant. -/
def ScopeName.resolve (n : ScopeName) : Except Fault Scope := Scope.parse n.type n.id

/-- **What a caller can ask for.** -/
inductive Call where
  /-- The caller's identity and grants. -/
  | whoami
  /-- Those of some scopes on which the caller may do something. -/
  | authorize (action : Action) (scopes : List ScopeName)
  | createOrganization (name : String)
  | createProject (organizationId name : String) (description : Option String)
  | createResource (projectId name kind : String)
  /-- What the caller may do to a scope. -/
  | listPermissions (scope : ScopeName)
  /-- The grants at a scope. -/
  | listAssignments (scope : ScopeName)
  | assignRole (scope : ScopeName) (userId roleName : String) (expiresAt : Option Moment)
  | revokeRole (scope : ScopeName) (userId roleName : String)
  deriving DecidableEq, Repr, Inhabited

/-- **What comes back.** -/
inductive Reply where
  | caller (i : Identity) (grants : List Assignment)
  | permitted (action : Action) (scopes : List Scope)
  | organization (o : Organization)
  | project (p : Project)
  | resource (r : Resource)
  | permissions (scope : Scope) (actions : List Action)
  | assignments (rows : List Assignment)
  | granted (g : Granted)
  /-- Whether there was a grant to revoke. -/
  | revoked (found : Bool)
  deriving DecidableEq, Repr

namespace Reply

/-- What was added is reported as created; a grant that was there already was not added. -/
def status : Reply → Nat
  | organization _ | project _ | resource _ => 201
  | granted g => if g.outcome.changed then 201 else 200
  | caller _ _ | permitted _ _ | permissions _ _ | assignments _ | revoked _ => 200

def actionsJson (as : List Action) : Json := .array (as.map fun a => .text a.name)

def toJson : Reply → Json
  | caller i grants =>
    .object
      [("user_id", .text i.userId), ("email", .ofOption i.email),
       ("assignments", .array (grants.map Assignment.toJson))]
  | permitted a scopes =>
    .object [("action", .text a.name), ("permitted", .array (scopes.map Scope.toJson))]
  | organization o => o.toJson
  | project p => p.toJson
  | resource r => r.toJson
  | permissions s as => .object [("scope", s.toJson), ("actions", actionsJson as)]
  | assignments rows => .array (rows.map Assignment.toJson)
  | granted g => g.toJson
  | revoked found => .object [("removed", .boolean found)]

end Reply

end TenantGuard.Api
