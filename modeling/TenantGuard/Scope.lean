import TenantGuard.Fault
import TenantGuard.Text.Split

/-!
# Scopes

The scope tree has three levels: an organization holds projects, a project holds resources.  A
`Scope` names one node by its level and its identifier.

* `ScopeType.parent` climbs one level; `ScopeType.depth_parent` says that it cannot go on for ever;
* `Scope.validateId` accepts the identifiers that may stand in a path or a query.
-/

namespace TenantGuard

/-- **The levels of the scope tree.** -/
inductive ScopeType where
  | organization
  | project
  | resource
  deriving DecidableEq, Repr, Inhabited

namespace ScopeType

def name : ScopeType → String
  | organization => "organization"
  | project => "project"
  | resource => "resource"

/-- The level of the parent; an organization has none. -/
def parent : ScopeType → Option ScopeType
  | organization => none
  | project => some organization
  | resource => some project

/-- How many levels there are above. -/
def depth : ScopeType → Nat
  | organization => 0
  | project => 1
  | resource => 2

theorem depth_parent {t p : ScopeType} (h : t.parent = some p) : p.depth + 1 = t.depth := by
  cases t <;> simp only [parent, Option.some.injEq, reduceCtorEq] at h <;> subst h <;> rfl

/-- The name of a level in logs. -/
def label : ScopeType → String
  | organization => "Organization"
  | project => "Project"
  | resource => "Resource"

/-- Reads a level, in the singular or in the plural. -/
def parse (s : String) : Except Fault ScopeType :=
  if s = "organization" ∨ s = "organizations" then .ok organization
  else if s = "project" ∨ s = "projects" then .ok project
  else if s = "resource" ∨ s = "resources" then .ok resource
  else .error (.invalidFormat ("Unknown scope type: " ++ s))

end ScopeType

/-- **One node of the scope tree.** -/
structure Scope where
  type : ScopeType
  id : String
  deriving DecidableEq, Repr, Inhabited

namespace Scope

def organization (id : String) : Scope := ⟨.organization, id⟩

def project (id : String) : Scope := ⟨.project, id⟩

def resource (id : String) : Scope := ⟨.resource, id⟩

/-- The scope in a message: its level, a slash, its identifier. -/
def text (s : Scope) : String := s.type.name ++ "/" ++ s.id

/-- The greatest length of an identifier, in bytes. -/
def maxIdLength : Nat := 128

def isIdChar (c : Char) : Bool := c.isAlphanum || c == '_' || c == '-'

/-- Whether a text starts with a letter or digit and goes on with such, `_` and `-`. -/
def isIdText : List Char → Bool
  | [] => false
  | c :: cs => c.isAlphanum && cs.all isIdChar

/-- **Accepts an identifier** that this system could have handed out. -/
def validateId (id : String) : Except Fault Unit :=
  if id.isEmpty then .error (.invalidFormat "Scope id must not be empty")
  else if maxIdLength < id.utf8ByteSize then
    .error (.invalidFormat "Scope id exceeds 128 characters")
  else if isIdText id.toList then .ok ()
  else .error (.invalidFormat ("Scope id contains invalid characters: " ++ id))

/-- Reads a scope from a level and an identifier; a fault of the level wins. -/
def parse (type id : String) : Except Fault Scope := do
  let type ← ScopeType.parse type
  validateId id
  return ⟨type, id⟩

def toJson (s : Scope) : Json :=
  .object [("scope_type", .text s.type.name), ("scope_id", .text s.id)]

end Scope

end TenantGuard
