import TenantGuard.Store.Query
import TenantGuard.Store.Operation
import TenantGuard.Context

/-!
# The store

A store has committed contents, a lock that at most one transaction holds, points that can be made
to fail and a delay.  A transaction works on a copy of the contents that replaces them when it
commits; nobody reads or begins while it is open.

* `begin?`, `perform`, `commit` and `rollback` are the steps of a transaction, `read` and `seed`
  those of everybody else;
* `queryWork`, `beginWork`, `operationWork` and `commitWork` say how long a step takes: a step waits
  for the delay first, then looks at the fail points, then waits for the lock.
-/

namespace TenantGuard

open Store (State Query Operation FailPoint)

/-- **A store.** -/
structure Store where
  committed : State
  /-- The copy that the open transaction works on; while there is one, the store is locked. -/
  working : Option State := none
  failing : List FailPoint := []
  /-- The delay of every step, in milliseconds. -/
  latency : Nat := 0
  deriving Inhabited

namespace Store

/-- A store with the built-in roles and nothing else. -/
def fresh : Store := { committed := .seeded }

def isLocked (s : Store) : Bool := s.working.isSome

/-- Passes unless the fail point is armed. -/
def guardPoint (s : Store) (p : FailPoint) : Except Fault Unit :=
  if s.failing.contains p then .error p.fault else .ok ()

/-- Passes unless the fail point, if there is one, is armed. -/
def guardPoint? (s : Store) (p : Option FailPoint) : Except Fault Unit :=
  p.elim (.ok ()) s.guardPoint

/-! ## Steps -/

/-- Opens a transaction, unless one is open. -/
def begin? (s : Store) : Option Store :=
  if s.isLocked then none else some { s with working := some s.committed }

/-- One operation of the open transaction, and the copy after it. -/
def applied (s : Store) (now : Moment) (op : Operation) : Except Fault (op.Answer × State) := do
  s.guardPoint? op.failPoint?
  op.apply now (s.working.getD s.committed)

/-- **Performs an operation** of the open transaction; one that fails leaves the copy as it was. -/
def perform (s : Store) (now : Moment) (op : Operation) : Except Fault op.Answer × Store :=
  match s.applied now op with
  | .ok (a, w) => (.ok a, { s with working := some w })
  | .error e => (.error e, s)

/-- Gives up the open transaction. -/
def rollback (s : Store) : Store := { s with working := none }

/-- **Commits the open transaction.**  Whether or not that works, the store is free again. -/
def commit (s : Store) : Except Fault Unit × Store :=
  match s.guardPoint .commit with
  | .ok () => (.ok (), { s with committed := s.working.getD s.committed, working := none })
  | .error e => (.error e, s.rollback)

/-- Answers a question from the committed contents. -/
def read (s : Store) (now : Moment) (q : Query) : Except Fault q.Answer := do
  s.guardPoint .reads
  s.committed.answer now q

/-- Adds a row without any check. -/
def seed (s : Store) (a : Assignment) : Store :=
  { s with committed := { s.committed with assignments := s.committed.assignments ++ [a] } }

/-- Every row of a user, expired ones included. -/
def rowsOf (s : Store) (userId : String) : List Assignment :=
  s.committed.assignments.filter (·.userId == userId)

/-! ## How long steps take -/

/-- Work that waits for the lock behind the delay. -/
def behindLock {α : Type} (s : Store) (result : Except Fault α) : Work α :=
  ⟨if s.isLocked then none else some s.latency, result⟩

def queryWork (s : Store) (now : Moment) (q : Query) : Work q.Answer :=
  match s.guardPoint .reads with
  | .error e => ⟨some s.latency, .error e⟩
  | .ok () => s.behindLock (s.read now q)

def beginWork (s : Store) : Work Unit := s.behindLock (.ok ())

def operationWork (s : Store) (now : Moment) (op : Operation) : Work (op.Answer × State) :=
  ⟨some s.latency, s.applied now op⟩

def commitWork (s : Store) : Work Unit := ⟨some s.latency, s.guardPoint .commit⟩

end Store

end TenantGuard
