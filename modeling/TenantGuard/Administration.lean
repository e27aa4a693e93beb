import TenantGuard.Email
import TenantGuard.Execution

/-!
# Administration

The operations that change the store.  Each one checks what it is given and is then one transaction:
either all of its writes land or none.

* `createOrganization`, `createProject` and `createResource` add entities; who adds an organization
  or a project owns it;
* `assignRole` and `revokeRole` add and remove grants; a grant to an unknown email address invites
  its owner;
* `transferPlaceholder` and `reconcileLogin` hand the grants of an invitation to the user who
  claims it.
-/

namespace TenantGuard

open Store (GrantOutcome)

namespace Administration

/-- **What an operation draws from its surroundings**: the time and fresh identifiers. -/
structure Stamp where
  now : Moment
  entityId : String
  assignmentId : String
  deriving Repr, Inhabited

/-- The greatest length of a name, in characters. -/
def maxNameLength : Nat := 200

/-- The name that is stored: without blanks at its ends, not empty and not too long. -/
def validateName (name : String) : Except Fault String :=
  let name := Text.trimmed name
  if name.isEmpty then .error (.validation "Name must not be empty")
  else if maxNameLength < name.length then
    .error (.validation "Name must be at most 200 characters")
  else .ok name

/-- The kind that is stored: without blanks at its ends and not empty. -/
def validateKind (kind : String) : Except Fault String :=
  let kind := Text.trimmed kind
  if kind.isEmpty then .error (.validation "Resource kind must not be empty") else .ok kind

/-- The role of a name, within a transaction. -/
def requireRole (name : String) : Change Role := do
  match ← Change.roleNamed name with
  | some role => return role
  | none => throw (.roleNotFound name)

/-! ## Entities -/

/-- Makes a user, who is added if need be, the owner of a new scope. -/
def grantOwner (stamp : Stamp) (owner : String) (scope : Scope) : Change Unit := do
  let _ ← Change.insertUser (.known owner none stamp.now)
  let role ← requireRole PredefinedRole.owner.name
  let _ ← Change.insertAssignment
    { id := stamp.assignmentId, userId := owner, roleId := role.id, scope, assignedBy := some owner
      createdAt := stamp.now, expiresAt := none }

/-- **Creates an organization** and makes `owner` its owner. -/
def createOrganization (stamp : Stamp) (name owner : String) :
    Except Fault (Change Organization) := do
  let name ← validateName name
  let o : Organization := ⟨stamp.entityId, name, stamp.now, stamp.now⟩
  return do
    Change.insertOrganization o
    grantOwner stamp owner o.scope
    return o

/-- **Creates a project** in an organization and makes `owner` its owner. -/
def createProject (stamp : Stamp) (organizationId name : String) (description : Option String)
    (owner : String) : Except Fault (Change Project) := do
  let name ← validateName name
  let p : Project := ⟨stamp.entityId, organizationId, name, description, stamp.now, stamp.now⟩
  return do
    Change.insertProject p
    grantOwner stamp owner p.scope
    return p

/-- **Creates a resource** in a project.  Access to it comes from the project. -/
def createResource (stamp : Stamp) (projectId name kind : String) :
    Except Fault (Change Resource) := do
  let kind ← validateKind kind
  let name ← validateName name
  let r : Resource := ⟨stamp.entityId, projectId, name, kind, stamp.now, stamp.now⟩
  return do
    Change.insertResource r
    return r

/-! ## Grants -/

/-- **A grant that is asked for.** -/
structure GrantRequest where
  /-- A known user, or an email address to invite. -/
  userId : String
  roleName : String
  scope : Scope
  assignedBy : Option String
  expiresAt : Option Moment
  deriving Repr, Inhabited

/-- **What came of it.** -/
structure Granted where
  userId : String
  role : Role
  scope : Scope
  outcome : GrantOutcome
  /-- Whether an invitation was recorded. -/
  placeholderCreated : Bool
  deriving DecidableEq, Repr, Inhabited

def Granted.toJson (g : Granted) : Json :=
  .object
    [("user_id", .text g.userId), ("role", g.role.toJson), ("scope", g.scope.toJson),
     ("outcome", .text g.outcome.name), ("placeholder_created", .boolean g.placeholderCreated)]

/-- An expiry must lie ahead. -/
def validateExpiry (now : Moment) : Option Moment → Except Fault Unit
  | some t => if now < t then .ok () else .error (.validation "expires_at must be in the future")
  | none => .ok ()

/-- Makes sure that a user is known, inviting an unknown one by email. -/
def requireUser (now : Moment) (userId : String) : Change Bool := do
  match ← Change.findUser userId with
  | some _ => return false
  | none =>
    if Email.isValid userId then Change.insertUser (.placeholder userId now)
    else throw (.invalidIdentity userId)

/-- **Grants a role at a scope.**  A grant that is active already is left alone. -/
def assignRole (stamp : Stamp) (r : GrantRequest) : Except Fault (Change Granted) := do
  validateExpiry stamp.now r.expiresAt
  return do
    let role ← requireRole r.roleName
    let found ← Change.scopeExists r.scope
    if !found then throw (.notFound r.scope.type.name r.scope.id)
    let placeholderCreated ← requireUser stamp.now r.userId
    let outcome ← Change.insertAssignment
      { id := stamp.assignmentId, userId := r.userId, roleId := role.id, scope := r.scope
        assignedBy := r.assignedBy, createdAt := stamp.now, expiresAt := r.expiresAt }
    return { userId := r.userId, role, scope := r.scope, outcome, placeholderCreated }

/-- **Revokes a role at a scope**, and says whether there was such a grant. -/
def revokeRole (userId roleName : String) (scope : Scope) : Change Bool := do
  let role ← requireRole roleName
  Change.deleteAssignment ⟨userId, role.id, scope⟩

/-! ## Invitations -/

/-- Hands the rows of a placeholder to a user and removes the placeholder. -/
def movePlaceholder (placeholder user : String) : Change Nat := do
  let moved ← Change.reassignUser placeholder user
  let _ ← Change.deleteUser placeholder
  return moved

/-- **Hands an invitation to a user**, and counts the grants that moved. -/
def transferPlaceholder (now : Moment) (email userId : String) : Except Fault (Change Nat) := do
  if email = userId then throw (.validation "A placeholder cannot be transferred onto itself")
  return do
    match ← Change.findUser email with
    | none => throw (.notFound "user" email)
    | some u =>
      if !u.isPlaceholder then throw (.validation ("User '" ++ email ++ "' is not a placeholder"))
    let _ ← Change.insertUser (.known userId (some email) now)
    movePlaceholder email userId

/-- **What a login changed.** -/
structure Reconciled where
  userCreated : Bool
  transferred : Nat
  deriving DecidableEq, Repr, Inhabited

/-- Whether a login with an email may claim an invitation. -/
def claims (userId : String) (email : Option String) : Option String :=
  email.filter fun e => Email.isValid e && e != userId

/-- **Records a login**: the user becomes known, and an invitation to the verified email becomes
theirs. -/
def reconcileLogin (now : Moment) (userId : String) (email : Option String) :
    Change Reconciled := do
  let userCreated ← Change.insertUser (.known userId email now)
  match claims userId email with
  | none => return ⟨userCreated, 0⟩
  | some e =>
    let pending ← Change.findUser e
    if pending.any (·.isPlaceholder) then
      return ⟨userCreated, ← movePlaceholder e userId⟩
    return ⟨userCreated, 0⟩

end Administration

end TenantGuard
