import TenantGuard.Http.Route
import TenantGuard.Text.Percent

/-!
# Places of the management interface

The paths below `/api/v1` and the methods that each of them takes.  The parameters of a path are
taken as they were sent and read by `Place.decode?`.
-/

namespace TenantGuard.Api

/-- **A path of the management interface** with its parameters. -/
inductive Place where
  | me
  | authorize
  | organizations
  | projectsOf (organization : String)
  | resourcesOf (project : String)
  | permissionsAt (type id : String)
  | assignmentsAt (type id : String)
  | assignment (type id user role : String)
  deriving DecidableEq, Repr, Inhabited

namespace Place

/-- The paths below the mount, each with the place that it names for the values of its
parameters. -/
def paths : List (String × (List String → Option Place)) :=
  [("/me", fun _ => some me),
   ("/authorize", fun _ => some authorize),
   ("/organizations", fun _ => some organizations),
   ("/organizations/:organization/projects", fun vs => vs[0]?.map projectsOf),
   ("/projects/:project/resources", fun vs => vs[0]?.map resourcesOf),
   ("/scopes/:type/:id/permissions", fun vs => return permissionsAt (← vs[0]?) (← vs[1]?)),
   ("/scopes/:type/:id/assignments", fun vs => return assignmentsAt (← vs[0]?) (← vs[1]?)),
   ("/scopes/:type/:id/assignments/:user/:role",
    fun vs => return assignment (← vs[0]?) (← vs[1]?) (← vs[2]?) (← vs[3]?))]

/-- Where the management interface is mounted. -/
def mount : String := "/api/v1"

/-- **The routes of the management interface.** -/
def routes : List (Http.Route (List String → Option Place)) :=
  paths.map fun (path, place) => .ofText (mount ++ path) place

/-- A parameter with its percent triples read; nothing if that is no UTF-8. -/
def param? (s : String) : Option String :=
  (Text.Utf8.decode? (Text.Percent.decode (Text.Utf8.bytes s))).map String.ofList

/-- **The place with its parameters read.** -/
def decode? : Place → Option Place
  | me => some me
  | authorize => some authorize
  | organizations => some organizations
  | projectsOf o => return projectsOf (← param? o)
  | resourcesOf p => return resourcesOf (← param? p)
  | permissionsAt t i => return permissionsAt (← param? t) (← param? i)
  | assignmentsAt t i => return assignmentsAt (← param? t) (← param? i)
  | assignment t i u r => return assignment (← param? t) (← param? i) (← param? u) (← param? r)

/-- The methods that a place takes. -/
def methods : Place → List String
  | me | permissionsAt _ _ => ["GET", "HEAD"]
  | authorize | organizations | projectsOf _ | resourcesOf _ => ["POST"]
  | assignmentsAt _ _ => ["GET", "HEAD", "POST"]
  | assignment _ _ _ _ => ["DELETE"]

end Place

end TenantGuard.Api
