import TenantGuard.Store.State
import TenantGuard.Fault

/-!
# The operations of a transaction

A transaction works on a copy of the contents, one operation at a time.  `Operation.apply` says what
an operation answers and what becomes of the copy; an operation that fails leaves it as it was.
-/

namespace TenantGuard.Store

/-- **What became of a grant.** -/
inductive GrantOutcome where
  | created
  | alreadyActive
  | reactivated
  deriving DecidableEq, Repr, Inhabited

namespace GrantOutcome

def name : GrantOutcome → String
  | created => "created"
  | alreadyActive => "already_active"
  | reactivated => "reactivated"

/-- Whether a row was added or altered. -/
def changed : GrantOutcome → Bool
  | alreadyActive => false
  | _ => true

end GrantOutcome

/-- **The points at which a store can be made to fail.** -/
inductive FailPoint where
  | reads
  | insertUser
  | insertOrganization
  | insertProject
  | insertAssignment
  | reassignUser
  | deleteUser
  | commit
  deriving DecidableEq, Repr, Inhabited

namespace FailPoint

def all : List FailPoint :=
  [reads, insertUser, insertOrganization, insertProject, insertAssignment, reassignUser, deleteUser,
    commit]

def name : FailPoint → String
  | reads => "Reads"
  | insertUser => "InsertUser"
  | insertOrganization => "InsertOrganization"
  | insertProject => "InsertProject"
  | insertAssignment => "InsertAssignment"
  | reassignUser => "ReassignUser"
  | deleteUser => "DeleteUser"
  | commit => "Commit"

def ofName? (s : String) : Option FailPoint := all.find? (·.name == s)

/-- The fault that an armed point raises. -/
def fault (p : FailPoint) : Fault := .storeUnavailable ("injected failure at " ++ p.name)

end FailPoint

/-- **An operation of a transaction.** -/
inductive Operation where
  | roleNamed (name : String)
  | findUser (id : String)
  | insertUser (user : User)
  | deleteUser (id : String)
  | insertOrganization (organization : Organization)
  | insertProject (project : Project)
  | insertResource (resource : Resource)
  | scopeExists (scope : Scope)
  | insertAssignment (assignment : Assignment)
  | deleteAssignment (key : GrantKey)
  | reassignUser (source target : String)
  deriving DecidableEq, Repr

/-! ## What each operation does -/

namespace State

/-- Adds a user; one that is there already stays. -/
def insertUser (s : State) (u : User) : Bool × State :=
  if s.users.contains u.id then (false, s) else (true, { s with users := s.users.insert u.id u })

/-- Removes a user with all their assignments. -/
def deleteUser (s : State) (id : String) : Bool × State :=
  if s.users.contains id then
    (true, { s with
      users := s.users.erase id
      assignments := s.assignments.filter fun a => a.userId != id })
  else (false, s)

/-- **Grants**: an active row of the same key stays as it is, an expired one takes the new expiry,
giver and time and keeps its identifier, and without any a row is added. -/
def grant (now : Moment) (a : Assignment) : List Assignment → GrantOutcome × List Assignment
  | [] => (.created, [a])
  | row :: rows =>
    if row.key = a.key then
      if row.isActiveAt now then (.alreadyActive, row :: rows)
      else
        (.reactivated,
          { row with
            expiresAt := a.expiresAt
            assignedBy := a.assignedBy
            createdAt := a.createdAt } :: rows)
    else
      let (outcome, rows) := grant now a rows
      (outcome, row :: rows)

/-- Removes every row of a grant. -/
def revoke (key : GrantKey) (rows : List Assignment) : List Assignment :=
  rows.filter fun a => a.key != key

/-- Whether a user has a row on the role and scope of another row that is active or not, as
asked. -/
def holds (rows : List Assignment) (user : String) (now : Moment) (active : Bool)
    (a : Assignment) : Bool :=
  rows.any fun b =>
    b.userId == user && b.roleId == a.roleId && b.scope == a.scope && b.isActiveAt now == active

/-- Whether a user has any row on the role and scope of another row. -/
def holdsAny (rows : List Assignment) (user : String) (a : Assignment) : Bool :=
  rows.any fun b => b.userId == user && b.roleId == a.roleId && b.scope == a.scope

/-- Whether a row gives way when the rows of `source` move to `target`: an expired row of the target
gives way to an incoming one, an incoming row gives way to an active one of the target. -/
def givesWay (rows : List Assignment) (source target : String) (now : Moment) (a : Assignment) :
    Bool :=
  (a.userId == target && !a.isActiveAt now && holdsAny rows source a) ||
    (a.userId == source && holds rows target now true a)

/-- **Moves the rows of a user to another** and counts those that move. -/
def reassign (source target : String) (now : Moment) (rows : List Assignment) :
    Nat × List Assignment :=
  let kept := rows.filter fun a => !givesWay rows source target now a
  (kept.countP (·.userId == source),
    kept.map fun a => if a.userId = source then { a with userId := target } else a)

end State

namespace Operation

/-- The type of the answer. -/
def Answer : Operation → Type
  | roleNamed _ => Option Role
  | findUser _ => Option User
  | insertUser _ | deleteUser _ | scopeExists _ | deleteAssignment _ => Bool
  | insertOrganization _ | insertProject _ | insertResource _ => Unit
  | insertAssignment _ => GrantOutcome
  | reassignUser _ _ => Nat

/-- The name of the step. -/
def label : Operation → String
  | roleNamed _ => "role_by_name"
  | findUser _ => "find_user"
  | insertUser _ => "insert_user"
  | deleteUser _ => "delete_user"
  | insertOrganization _ => "insert_organization"
  | insertProject _ => "insert_project"
  | insertResource _ => "insert_resource"
  | scopeExists _ => "scope_exists"
  | insertAssignment _ => "insert_assignment"
  | deleteAssignment _ => "delete_assignment"
  | reassignUser _ _ => "reassign_user"

/-- The point at which the operation can be made to fail. -/
def failPoint? : Operation → Option FailPoint
  | insertUser _ => some .insertUser
  | deleteUser _ => some .deleteUser
  | insertOrganization _ => some .insertOrganization
  | insertProject _ => some .insertProject
  | insertAssignment _ => some .insertAssignment
  | reassignUser _ _ => some .reassignUser
  | _ => none

/-- **Applies an operation** to the copy that a transaction works on. -/
def apply (now : Moment) : (op : Operation) → State → Except Fault (op.Answer × State)
  | roleNamed name, s => .ok (s.roleNamed? name, s)
  | findUser id, s => .ok (s.users.find? id, s)
  | insertUser u, s => .ok (s.insertUser u)
  | deleteUser id, s => .ok (s.deleteUser id)
  | insertOrganization o, s =>
    .ok ((), { s with organizations := s.organizations.insert o.id o })
  | insertProject p, s =>
    if s.organizations.contains p.organizationId then
      .ok ((), { s with projects := s.projects.insert p.id p })
    else .error (.notFound "organization" p.organizationId)
  | insertResource r, s =>
    if s.projects.contains r.projectId then
      .ok ((), { s with resources := s.resources.insert r.id r })
    else .error (.notFound "project" r.projectId)
  | scopeExists scope, s => .ok (s.hasScope scope, s)
  | insertAssignment a, s =>
    let (outcome, rows) := State.grant now a s.assignments
    .ok (outcome, { s with assignments := rows })
  | deleteAssignment key, s =>
    let rows := State.revoke key s.assignments
    .ok (rows.length != s.assignments.length, { s with assignments := rows })
  | reassignUser source target, s =>
    let (moved, rows) := State.reassign source target now s.assignments
    .ok (moved, { s with assignments := rows })

end Operation

end TenantGuard.Store
