import TenantGuard.Store.State
import TenantGuard.Fault

/-!
# Reading the store

The questions that can be put to a store, and their answers from its contents.  An answer never
changes the store.
-/

namespace TenantGuard.Store

/-- **A question to the store.** -/
inductive Query where
  | parent (scope : Scope)
  | roleNamed (name : String)
  | permissions (roleId : String)
  /-- The active assignments of a user, anywhere. -/
  | grantsOf (userId : String)
  /-- The active assignments of anyone at a scope. -/
  | grantsAt (scope : Scope)
  /-- The active assignments of a user at a scope. -/
  | grantsFor (userId : String) (scope : Scope)
  | userKnown (userId : String)
  deriving DecidableEq, Repr

namespace Query

/-- The type of the answer. -/
def Answer : Query → Type
  | parent _ => Option Scope
  | roleNamed _ => Option Role
  | permissions _ => List Permission
  | grantsOf _ | grantsAt _ | grantsFor _ _ => List Assignment
  | userKnown _ => Bool

/-- The name of the step that puts the question. -/
def label : Query → String
  | parent _ => "parent_scope"
  | roleNamed _ => "role_by_name"
  | permissions _ => "permissions_for_role"
  | grantsOf _ => "active_assignments"
  | grantsAt _ => "active_assignments_at"
  | grantsFor _ _ => "active_assignments_for"
  | userKnown _ => "user_exists"

end Query

/-- **The answer from the contents of a store** at an instant.  Only the parent of a scope that does
not exist is a fault. -/
def State.answer (s : State) (now : Moment) : (q : Query) → Except Fault q.Answer
  | .parent scope =>
    match s.parent? scope with
    | some p => .ok p
    | none => .error (.notFound scope.type.name scope.id)
  | .roleNamed name => .ok (s.roleNamed? name)
  | .permissions roleId => .ok (s.permissionsOf roleId)
  | .grantsOf u => .ok ((s.activeRows now).filter (·.userId == u))
  | .grantsAt scope => .ok ((s.activeRows now).filter (·.scope == scope))
  | .grantsFor u scope => .ok ((s.activeRows now).filter fun a => a.userId == u && a.scope == scope)
  | .userKnown u => .ok (s.users.contains u)

end TenantGuard.Store
