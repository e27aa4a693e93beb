import TenantGuard.Scope
import TenantGuard.Moment.Text

/-!
# Assignments

An assignment gives a user a role at one scope, for good or until an instant.  It is active while
its expiry lies ahead: `Assignment.isActiveAt`.  Two assignments of one user, role and scope are the
same grant: `Assignment.key`.
-/

namespace TenantGuard

/-- **A role given to a user at a scope.** -/
structure Assignment where
  id : String
  userId : String
  roleId : String
  scope : Scope
  assignedBy : Option String
  createdAt : Moment
  /-- `none`: never expires. -/
  expiresAt : Option Moment
  deriving DecidableEq, Repr, Inhabited

/-- **What makes two assignments the same grant.** -/
structure GrantKey where
  userId : String
  roleId : String
  scope : Scope
  deriving DecidableEq, Repr, Inhabited

namespace Assignment

/-- Active: no expiry, or an expiry strictly after `now`. -/
def isActiveAt (a : Assignment) (now : Moment) : Bool :=
  match a.expiresAt with
  | none => true
  | some t => now < t

def key (a : Assignment) : GrantKey := ⟨a.userId, a.roleId, a.scope⟩

def toJson (a : Assignment) : Json :=
  .object
    [("id", .text a.id), ("user_id", .text a.userId), ("role_id", .text a.roleId),
     ("scope", a.scope.toJson), ("assigned_by", .ofOption a.assignedBy),
     ("created_at", .text a.createdAt.toText),
     ("expires_at", .ofOption (a.expiresAt.map Moment.toText))]

end Assignment

end TenantGuard
