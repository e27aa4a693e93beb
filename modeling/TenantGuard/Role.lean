import TenantGuard.Fault

/-!
# Actions, permissions and roles

A permission allows one action in one domain; this system judges the domain `scope` alone.  A role
is a name for a set of permissions.  Three roles are built in, each allowing all that the next one
allows: `PredefinedRole.actions`.
-/

namespace TenantGuard

/-- **What can be done to a scope.** -/
inductive Action where
  | read
  | write
  | delete
  | manageAccess
  deriving DecidableEq, Repr, Inhabited

namespace Action

/-- All actions, in the order in which they are listed. -/
def all : List Action := [read, write, delete, manageAccess]

theorem mem_all (a : Action) : a ∈ all := by cases a <;> decide

def name : Action → String
  | read => "read"
  | write => "write"
  | delete => "delete"
  | manageAccess => "manage_access"

def ofName? (s : String) : Option Action := all.find? (·.name == s)

def parse (s : String) : Except Fault Action :=
  match ofName? s with
  | some a => .ok a
  | none => .error (.invalidFormat ("Unknown action: " ++ s))

end Action

/-- The domain of the permissions that count here. -/
def permissionDomain : String := "scope"

/-- **A permission**: one action in one domain. -/
structure Permission where
  id : String
  domain : String
  action : Action
  deriving DecidableEq, Repr, Inhabited

namespace Permission

/-- The permission for an action in this system's own domain. -/
def forAction (a : Action) : Permission :=
  { id := permissionDomain ++ ":" ++ a.name, domain := permissionDomain, action := a }

/-- Whether a permission allows an action here; those of other domains never do. -/
def grants (p : Permission) (a : Action) : Bool := p.domain == permissionDomain && p.action == a

def text (p : Permission) : String := p.domain ++ ":" ++ p.action.name

def toJson (p : Permission) : Json :=
  .object
    [("id", .text p.id), ("resource_type", .text p.domain), ("action", .text p.action.name)]

end Permission

/-- **A role.**  Which permissions it has is kept in the store. -/
structure Role where
  id : String
  name : String
  displayName : String
  isSystem : Bool
  deriving DecidableEq, Repr, Inhabited

namespace Role

def toJson (r : Role) : Json :=
  .object
    [("id", .text r.id), ("name", .text r.name), ("display_name", .text r.displayName),
     ("is_system", .boolean r.isSystem)]

/-- Role names are compared without regard to the case of ASCII letters. -/
def isNamed (r : Role) (name : String) : Bool :=
  r.name.toList.map Char.toLower == name.toList.map Char.toLower

end Role

/-- **The built-in roles.** -/
inductive PredefinedRole where
  | owner
  | editor
  | viewer
  deriving DecidableEq, Repr

namespace PredefinedRole

def all : List PredefinedRole := [owner, editor, viewer]

def id : PredefinedRole → String
  | owner => "owner"
  | editor => "editor"
  | viewer => "viewer"

def name : PredefinedRole → String
  | owner => "Owner"
  | editor => "Editor"
  | viewer => "Viewer"

def displayName : PredefinedRole → String
  | owner => "Owner (full control, including access management)"
  | editor => "Editor (read and modify)"
  | viewer => "Viewer (read only)"

def actions : PredefinedRole → List Action
  | owner => [.read, .write, .delete, .manageAccess]
  | editor => [.read, .write, .delete]
  | viewer => [.read]

def permissions (r : PredefinedRole) : List Permission := r.actions.map Permission.forAction

def toRole (r : PredefinedRole) : Role :=
  { id := r.id, name := r.name, displayName := r.displayName, isSystem := true }

end PredefinedRole

end TenantGuard
