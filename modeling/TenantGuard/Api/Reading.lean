import TenantGuard.Api.Call
import TenantGuard.Api.Place
import TenantGuard.Http.MediaType
import TenantGuard.Http.Message
import TenantGuard.Json.Shape

/-!
# Reading calls from requests

A call is read from the path, the method and, where it needs one, a JSON body.  The faults are
looked for in this order: the path's parameters, the kind of the body, its length, its text, its
shape.

* `document` reads a body of a shape;
* `Call.ofRequest` reads the call; what it cannot read is a `Rejection`.
-/

namespace TenantGuard.Api

open Http (Request Response)
open Json (Shape)

/-- **Why a request is no call.** -/
inductive Rejection where
  | unreadablePath
  | notJson
  | tooLong
  | malformed
  | misshapen
  deriving DecidableEq, Repr

namespace Rejection

def status : Rejection → Nat
  | unreadablePath | malformed => 400
  | notJson => 415
  | tooLong => 413
  | misshapen => 422

def message : Rejection → String
  | unreadablePath => "The path is not valid UTF-8"
  | notJson => "The body must be JSON"
  | tooLong => "The body is too long"
  | malformed => "The body is not valid JSON"
  | misshapen => "The body does not have the expected shape"

def toResponse (r : Rejection) : Response := .ofText r.status r.message

def ofShapeFault : Json.ShapeFault → Rejection
  | .malformed => malformed
  | .misshapen => misshapen

end Rejection

/-! ## Bodies -/

/-- The greatest length of a body, in bytes. -/
def maxBodyLength : Nat := 2 * 1024 * 1024

/-- **The document of a shape that a body starts with.** -/
def document (s : Shape) (r : Request) : Except Rejection Json :=
  if !Http.isJson r.headers then .error .notJson
  else if maxBodyLength < r.body.length then .error .tooLong
  else (s.readFirst r.body).mapError Rejection.ofShapeFault

namespace Body

def organization : Shape := .record [("name", .text)]

def project : Shape := .record [("name", .text), ("description", .optional .text)]

def resource : Shape := .record [("name", .text), ("kind", .text)]

def scopeName : Shape := .record [("type", .text), ("id", .text)]

def authorize : Shape :=
  .record [("action", .oneOf (Action.all.map Action.name)), ("scopes", .listOf scopeName)]

def assignment : Shape :=
  .record [("user_id", .text), ("role", .text), ("expires_at", .optional .instant)]

end Body

/-- A text of a document. -/
def textOf? (name : String) (j : Json) : Option String := (j.member? name).bind Json.text?

def scopeName? (j : Json) : Option ScopeName :=
  return ⟨← textOf? "type" j, ← textOf? "id" j⟩

def authorizeOf? (j : Json) : Option Call := do
  let action ← Action.ofName? (← textOf? "action" j)
  let scopes ← (← j.member? "scopes").items?
  return .authorize action (← scopes.mapM scopeName?)

def createOrganizationOf? (j : Json) : Option Call :=
  return .createOrganization (← textOf? "name" j)

def createProjectOf? (organization : String) (j : Json) : Option Call :=
  return .createProject organization (← textOf? "name" j) (textOf? "description" j)

def createResourceOf? (project : String) (j : Json) : Option Call :=
  return .createResource project (← textOf? "name" j) (← textOf? "kind" j)

def assignRoleOf? (scope : ScopeName) (j : Json) : Option Call :=
  return .assignRole scope (← textOf? "user_id" j) (← textOf? "role" j)
    ((textOf? "expires_at" j).bind Moment.readLoose?)

/-! ## Calls -/

/-- A call that takes a document of a shape. -/
def withDocument (s : Shape) (r : Request) (call? : Json → Option Call) :
    Except Rejection Call := do
  match call? (← document s r) with
  | some c => .ok c
  | none => .error .misshapen

/-- The call of a request to a place with its parameters read. -/
def Call.atPlace (r : Request) : Place → Except Rejection Call
  | .me => .ok .whoami
  | .authorize => withDocument Body.authorize r authorizeOf?
  | .organizations => withDocument Body.organization r createOrganizationOf?
  | .projectsOf o => withDocument Body.project r (createProjectOf? o)
  | .resourcesOf p => withDocument Body.resource r (createResourceOf? p)
  | .permissionsAt t i => .ok (.listPermissions ⟨t, i⟩)
  | .assignmentsAt t i =>
    if r.method = "POST" then withDocument Body.assignment r (assignRoleOf? ⟨t, i⟩)
    else .ok (.listAssignments ⟨t, i⟩)
  | .assignment t i u role => .ok (.revokeRole ⟨t, i⟩ u role)

/-- **The call that a request to a place makes**, if the place takes the request's method. -/
def Call.ofRequest (place : Place) (r : Request) : Except Rejection Call :=
  match place.decode? with
  | none => .error .unreadablePath
  | some place => Call.atPlace r place

end TenantGuard.Api
