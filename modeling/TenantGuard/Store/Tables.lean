import TenantGuard.Store.Query

/-!
# Stores given by tables

A store can be given by tables of parents, roles and assignments instead of entities.  Such a store
need not hold a tree: parents may be missing, of the wrong level or cyclic.
-/

namespace TenantGuard.Store

/-- **A store given by tables.**  Of two entries for one key the later one counts. -/
structure Tables where
  parents : List (Scope × Option Scope) := []
  roles : List (String × List Permission) := []
  assignments : List Assignment := []
  deriving Inhabited

namespace Tables

/-- The entry of a key. -/
def last? {α β : Type} [BEq α] (table : List (α × β)) (key : α) : Option β :=
  table.reverse.lookup key

/-- **The answer from the tables.**  A scope without an entry does not exist; the permissions of a
role without an entry cannot be had. -/
def answer (t : Tables) (now : Moment) : (q : Query) → Except Fault q.Answer
  | .parent scope =>
    match last? t.parents scope with
    | some p => .ok p
    | none => .error (.notFound scope.type.name scope.id)
  | .roleNamed _ => .ok none
  | .permissions roleId =>
    match last? t.roles roleId with
    | some ps => .ok ps
    | none => .error (.storeUnavailable ("no role " ++ roleId))
  | .grantsOf u => .ok (t.assignments.filter fun a => a.userId == u && a.isActiveAt now)
  | .grantsAt scope => .ok (t.assignments.filter fun a => a.scope == scope && a.isActiveAt now)
  | .grantsFor u scope =>
    .ok (t.assignments.filter fun a => a.userId == u && a.scope == scope && a.isActiveAt now)
  | .userKnown u => .ok (t.assignments.any (·.userId == u))

end Tables

end TenantGuard.Store
