import TenantGuard.Execution
import TenantGuard.Text.Quoted

/-!
# The authorization engine

May a user do something to a scope?  The engine climbs from the scope to its organization and looks
at the user's active assignments on every level: a grant applies to everything below it and to
nothing beside or above.

* `Engine.effectiveScopes` is the chain from a scope to its organization;
* `Engine.check` decides, `Engine.list` collects every action, `Engine.enforce` turns a negative
  decision into a denial and `Engine.filterPermitted` keeps the permitted scopes;
* a scope that does not exist is a fault for `check` and a denial for `enforce`.
-/

namespace TenantGuard

namespace Engine

/-! ## The chain of scopes -/

def typeText : Option ScopeType → String
  | none => "None"
  | some t => "Some(" ++ t.label ++ ")"

def scopeText : Option Scope → String
  | none => "None"
  | some s =>
    "Some(ScopeRef \x7b scope_type: " ++ s.type.label ++ ", scope_id: " ++ Text.Quoted.quote s.id ++
      " \x7d)"

/-- A parent where none belongs, none where one belongs, or one of the wrong level. -/
def inconsistentTree (node : Scope) (parent : Option Scope) : Fault :=
  .internalError ("Inconsistent scope tree at " ++ node.text ++ ": expected parent type " ++
    typeText node.type.parent ++ ", got " ++ scopeText parent)

/-- **The chain from a scope to its organization**, the scope first. -/
def effectiveScopes (s : Scope) : Inquiry (List Scope) := do
  let parent ← Inquiry.parent s
  match parent, _h : s.type.parent with
  | none, none => return [s]
  | some p, some t =>
    if _hp : p.type = t then
      return s :: (← effectiveScopes p)
    else throw (inconsistentTree s (some p))
  | parent, _ => throw (inconsistentTree s parent)
termination_by s.type.depth
decreasing_by
  have := ScopeType.depth_parent _h
  rw [_hp]
  omega

/-! ## Decisions -/

/-- A level and a role that allow something. -/
structure Grant where
  level : Scope
  roleId : String
  deriving DecidableEq, Repr

/-- The first assignment in a list whose role allows an action. -/
def firstGranting (a : Action) (level : Scope) : List Assignment → Inquiry (Option Grant)
  | [] => return none
  | row :: rows => do
    let permissions ← Inquiry.permissions row.roleId
    if permissions.any (·.grants a) then return some ⟨level, row.roleId⟩
    firstGranting a level rows

/-- The first level of a chain, the nearest first, on which an assignment allows an action. -/
def firstGrant (user : String) (a : Action) : List Scope → Inquiry (Option Grant)
  | [] => return none
  | level :: levels => do
    let rows ← Inquiry.grantsFor user level
    match ← firstGranting a level rows with
    | some g => return some g
    | none => firstGrant user a levels

/-- The nearest grant that allows a user something. -/
def findGrant (user : String) (a : Action) (s : Scope) : Inquiry (Option Grant) := do
  firstGrant user a (← effectiveScopes s)

def verdict : Except Fault (Option Grant) → Telemetry.Verdict
  | .ok (some _) => .allow
  | .ok none => .deny
  | .error e => if e.isNotFound then .notFound else .error

/-- **May the user do this?**  A scope that does not exist is a fault. -/
def check (user : String) (a : Action) (s : Scope) : Inquiry Bool := do
  let found ← Procedure.attempt (findGrant user a s)
  Procedure.note (.decided a s.type (verdict found))
  match found with
  | .ok g => return g.isSome
  | .error e => throw e

/-- The actions that a list of permissions allows. -/
def allowedBy (permissions : List Permission) : List Action :=
  Action.all.filter fun a => permissions.any (·.grants a)

/-- Adds the actions of the roles of assignments to those already found. -/
def collectRows (found : List Action) : List Assignment → Inquiry (List Action)
  | [] => return found
  | row :: rows => do
    let permissions ← Inquiry.permissions row.roleId
    collectRows (found ++ allowedBy permissions) rows

/-- Whether every action has been found. -/
def isComplete (found : List Action) : Bool := Action.all.all found.contains

/-- Collects actions level by level, until all are found. -/
def collectLevels (user : String) (found : List Action) : List Scope → Inquiry (List Action)
  | [] => return found
  | level :: levels => do
    let rows ← Inquiry.grantsFor user level
    let found ← collectRows found rows
    if isComplete found then return found
    collectLevels user found levels

/-- **Every action a user may do**, in the order of `Action.all`. -/
def list (user : String) (s : Scope) : Inquiry (List Action) := do
  let chain ← effectiveScopes s
  let found ← collectLevels user [] chain
  return Action.all.filter found.contains

/-- The denial of a user who lacks a permission. -/
def lacks (user : String) (a : Action) (s : Scope) : Fault :=
  .forbidden ("user " ++ user ++ " lacks " ++ a.name ++ " on " ++ s.text)

/-- The denial at a scope that does not exist. -/
def unknownScope (s : Scope) : Fault := .forbidden ("scope " ++ s.text ++ " does not exist")

/-- **Allows or denies.**  A scope that does not exist is denied like one without a grant. -/
def enforce (user : String) (a : Action) (s : Scope) : Inquiry Unit := do
  match ← Procedure.attempt (check user a s) with
  | .ok true => return ()
  | .ok false => throw (lacks user a s)
  | .error e => throw (if e.isNotFound then unknownScope s else e)

/-- **The scopes on which the user may do this**, in order; those that do not exist are dropped. -/
def filterPermitted (user : String) (a : Action) : List Scope → Inquiry (List Scope)
  | [] => return []
  | s :: scopes => do
    let keep ← do
      match ← Procedure.attempt (check user a s) with
      | .ok allowed => pure allowed
      | .error e => if e.isNotFound then pure false else throw e
    let rest ← filterPermitted user a scopes
    return if keep then s :: rest else rest

end Engine

end TenantGuard
