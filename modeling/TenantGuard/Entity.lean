import TenantGuard.Scope
import TenantGuard.Moment.Text

/-!
# Users, organizations, projects and resources

The records behind the scope tree.  A user who was invited by email and has not yet logged in is a
placeholder: a record whose identifier is the email address.
-/

namespace TenantGuard

/-- **A user.** -/
structure User where
  id : String
  email : Option String
  isPlaceholder : Bool
  createdAt : Moment
  deriving DecidableEq, Repr, Inhabited

namespace User

/-- A user who has logged in. -/
def known (id : String) (email : Option String) (now : Moment) : User :=
  { id, email, isPlaceholder := false, createdAt := now }

/-- A user who was invited by email. -/
def placeholder (email : String) (now : Moment) : User :=
  { id := email, email := some email, isPlaceholder := true, createdAt := now }

def toJson (u : User) : Json :=
  .object
    [("id", .text u.id), ("email", .ofOption u.email), ("is_placeholder", .boolean u.isPlaceholder),
     ("created_at", .text u.createdAt.toText)]

end User

/-- **An organization**, a root of the scope tree. -/
structure Organization where
  id : String
  name : String
  createdAt : Moment
  updatedAt : Moment
  deriving DecidableEq, Repr, Inhabited

namespace Organization

def scope (o : Organization) : Scope := .organization o.id

def toJson (o : Organization) : Json :=
  .object
    [("id", .text o.id), ("name", .text o.name), ("created_at", .text o.createdAt.toText),
     ("updated_at", .text o.updatedAt.toText)]

end Organization

/-- **A project** of an organization. -/
structure Project where
  id : String
  organizationId : String
  name : String
  description : Option String
  createdAt : Moment
  updatedAt : Moment
  deriving DecidableEq, Repr, Inhabited

namespace Project

def scope (p : Project) : Scope := .project p.id

def toJson (p : Project) : Json :=
  .object
    [("id", .text p.id), ("organization_id", .text p.organizationId), ("name", .text p.name),
     ("description", .ofOption p.description), ("created_at", .text p.createdAt.toText),
     ("updated_at", .text p.updatedAt.toText)]

end Project

/-- **A resource** of a project; its kind is a free label. -/
structure Resource where
  id : String
  projectId : String
  name : String
  kind : String
  createdAt : Moment
  updatedAt : Moment
  deriving DecidableEq, Repr, Inhabited

namespace Resource

def scope (r : Resource) : Scope := .resource r.id

def toJson (r : Resource) : Json :=
  .object
    [("id", .text r.id), ("project_id", .text r.projectId), ("name", .text r.name),
     ("kind", .text r.kind), ("created_at", .text r.createdAt.toText),
     ("updated_at", .text r.updatedAt.toText)]

end Resource

end TenantGuard
