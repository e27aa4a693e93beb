import TenantGuard.Assignment
import TenantGuard.Entity
import TenantGuard.Role

/-!
# The contents of the store

A `State` holds the users, the three kinds of entities by identifier, the roles with their
permissions, and the assignments as a list of rows in the order of their creation.

* `Table` is a finite map: `find?_insert` and `find?_erase` say what each operation does to it;
* `State.parent?` is the scope tree: `some none` for an organization, `none` for what does not
  exist;
* `State.activeRows` are the assignments that count at an instant.
-/

namespace TenantGuard.Store

/-- **A finite map** from identifiers. -/
structure Table (α : Type) where
  rows : List (String × α) := []
  deriving Repr, Inhabited, DecidableEq

namespace Table

variable {α : Type}

def find? (t : Table α) (id : String) : Option α := t.rows.lookup id

def contains (t : Table α) (id : String) : Bool := (t.find? id).isSome

def erase (t : Table α) (id : String) : Table α := ⟨t.rows.filter fun r => r.1 != id⟩

/-- Sets the entry of an identifier. -/
def insert (t : Table α) (id : String) (a : α) : Table α := ⟨(t.erase id).rows ++ [(id, a)]⟩

def size (t : Table α) : Nat := t.rows.length

def values (t : Table α) : List α := t.rows.map (·.2)

theorem lookup_filter_ne (rows : List (String × α)) (id id' : String) :
    (rows.filter fun r => r.1 != id).lookup id' = if id' = id then none else rows.lookup id' := by
  induction rows with
  | nil => simp
  | cons r rows ih =>
    by_cases h : r.1 = id <;> by_cases h' : id' = r.1 <;> simp_all
    all_goals grind

@[simp] theorem find?_erase (t : Table α) (id id' : String) :
    (t.erase id).find? id' = if id' = id then none else t.find? id' :=
  lookup_filter_ne t.rows id id'

@[simp] theorem find?_insert (t : Table α) (id id' : String) (a : α) :
    (t.insert id a).find? id' = if id' = id then some a else t.find? id' := by
  simp only [insert, find?, List.lookup_append]
  rw [erase, lookup_filter_ne]
  by_cases h : id' = id
  · simp [h]
  · have hb : (id' == id) = false := beq_false_of_ne h
    simp [h, hb, List.lookup_cons]

end Table

/-- **The contents of the store.** -/
structure State where
  users : Table User := {}
  organizations : Table Organization := {}
  projects : Table Project := {}
  resources : Table Resource := {}
  roles : Table Role := {}
  rolePermissions : Table (List Permission) := {}
  assignments : List Assignment := []
  deriving Inhabited, DecidableEq

namespace State

/-- A store with the built-in roles and nothing else. -/
def seeded : State :=
  { roles := ⟨PredefinedRole.all.map fun r => (r.id, r.toRole)⟩
    rolePermissions := ⟨PredefinedRole.all.map fun r => (r.id, r.permissions)⟩ }

/-- The role of a name, whatever the case of its letters. -/
def roleNamed? (s : State) (name : String) : Option Role :=
  s.roles.values.find? (·.isNamed name)

def permissionsOf (s : State) (roleId : String) : List Permission :=
  (s.rolePermissions.find? roleId).getD []

def hasScope (s : State) (scope : Scope) : Bool :=
  match scope.type with
  | .organization => s.organizations.contains scope.id
  | .project => s.projects.contains scope.id
  | .resource => s.resources.contains scope.id

/-- **The scope tree**: the parent of a scope that exists, `some none` for an organization. -/
def parent? (s : State) (scope : Scope) : Option (Option Scope) :=
  match scope.type with
  | .organization => (s.organizations.find? scope.id).map fun _ => none
  | .project => (s.projects.find? scope.id).map fun p => some (.organization p.organizationId)
  | .resource => (s.resources.find? scope.id).map fun r => some (.project r.projectId)

/-- The assignments that count at an instant, in the order of their creation. -/
def activeRows (s : State) (now : Moment) : List Assignment :=
  s.assignments.filter (·.isActiveAt now)

theorem isSome_parent? (s : State) (scope : Scope) :
    (s.parent? scope).isSome = s.hasScope scope := by
  unfold parent? hasScope Table.contains
  cases scope.type <;> simp

end State

end TenantGuard.Store
