import TenantGuard.Scope

/-!
# Tenant paths

A request to a backend names its tenant in the path:
`/projects/{project_id}/resources/{resource_id}/…`.  `TenantPath.parse` reads the two identifiers
and the remainder, which is empty or starts with a slash and has more than that.
-/

namespace TenantGuard

open Text (splitAtMost)

/-- **The tenant that a path names.** -/
structure TenantPath where
  projectId : String
  resourceId : String
  /-- What follows the resource identifier, with its leading slash, or nothing. -/
  remainder : String
  deriving DecidableEq, Repr, Inhabited

/-- **What is wrong with a path.** -/
inductive TenantPathFault where
  | missingSegment (expected : String)
  | wrongSegment (expected found : String)
  | missingId (kind : String)
  | malformedId (kind : String)
  deriving DecidableEq, Repr

namespace TenantPathFault

def message : TenantPathFault → String
  | missingSegment expected =>
    "Path must contain /projects/\x7bproject_id\x7d/resources/\x7bresource_id\x7d: missing '" ++
      expected ++ "' segment"
  | wrongSegment expected found => "Expected '" ++ expected ++ "' segment, found '" ++ found ++ "'"
  | missingId kind => "Missing " ++ kind ++ " id in path"
  | malformedId kind => "Malformed " ++ kind ++ " id in path"

def toFault (p : TenantPathFault) : Fault := .invalidFormat p.message

end TenantPathFault

namespace TenantPath

/-- A segment that must be a given word. -/
def expectWord (word : String) : Option (List Char) → Except TenantPathFault Unit
  | none => .error (.missingSegment word)
  | some s =>
    if s = word.toList then .ok ()
    else if s.isEmpty then .error (.missingSegment word)
    else .error (.wrongSegment word (String.ofList s))

/-- A segment that must be an identifier. -/
def expectId (kind : String) : Option (List Char) → Except TenantPathFault String
  | none => .error (.missingId kind)
  | some s =>
    if s.isEmpty then .error (.missingId kind)
    else match Scope.validateId (String.ofList s) with
      | .ok () => .ok (String.ofList s)
      | .error _ => .error (.malformedId kind)

/-- The remainder of a path, from its last piece. -/
def remainderOf : Option (List Char) → String
  | none => ""
  | some [] => ""
  | some (c :: cs) => String.ofList ('/' :: c :: cs)

/-- **Reads the part of a request path below a backend's prefix.**  Slashes in front do not
count. -/
def parse (path : String) : Except TenantPathFault TenantPath := do
  let segments := splitAtMost '/' 4 (path.toList.dropWhile (· == '/'))
  expectWord "projects" segments[0]?
  let projectId ← expectId "project" segments[1]?
  expectWord "resources" segments[2]?
  let resourceId ← expectId "resource" segments[3]?
  return { projectId, resourceId, remainder := remainderOf segments[4]? }

/-- A text without the slashes that it ends with. -/
def dropEndSlashes (s : String) : String :=
  String.ofList (s.toList.reverse.dropWhile (· == '/')).reverse

/-- The path on the backend: its prefix without trailing slashes, then the remainder. -/
def backendPath (t : TenantPath) (nativePrefix : String) : String :=
  dropEndSlashes nativePrefix ++ t.remainder

/-- The project's scope. -/
def scope (t : TenantPath) : Scope := .project t.projectId

end TenantPath

end TenantGuard
