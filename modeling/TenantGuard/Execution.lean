import TenantGuard.Store
import TenantGuard.Plan

/-!
# Executions

Plans are run against a store step by step.  A pace decides how each step ends, so that a step can
fail, time out or be cancelled.

* `Store.transactAt` runs a plan as one transaction: its changes are committed together, and without
  a commit nothing of them stays;
* an `Execution` is a store and a clock, and its pace is that of an operation's limits:
  `Execution.consult` runs a plan that only reads, `Execution.transact` one that changes the store.
-/

namespace TenantGuard

open Store (State Query Operation)

/-- A plan that reads the store and may fail. -/
abbrev Inquiry (α : Type) := Procedure Query Query.Answer α

/-- The body of a transaction. -/
abbrev Change (α : Type) := Procedure Operation Operation.Answer α

namespace Inquiry

/-! ## Questions -/

def parent (s : Scope) : Inquiry (Option Scope) := Procedure.ask (Query.parent s)

def permissions (roleId : String) : Inquiry (List Permission) :=
  Procedure.ask (Query.permissions roleId)

def grantsOf (user : String) : Inquiry (List Assignment) := Procedure.ask (Query.grantsOf user)

def grantsAt (s : Scope) : Inquiry (List Assignment) := Procedure.ask (Query.grantsAt s)

def grantsFor (user : String) (s : Scope) : Inquiry (List Assignment) :=
  Procedure.ask (Query.grantsFor user s)

end Inquiry

namespace Change

/-! ## Operations -/

def roleNamed (name : String) : Change (Option Role) := Procedure.ask (Operation.roleNamed name)

def findUser (id : String) : Change (Option User) := Procedure.ask (Operation.findUser id)

def insertUser (u : User) : Change Bool := Procedure.ask (Operation.insertUser u)

def deleteUser (id : String) : Change Bool := Procedure.ask (Operation.deleteUser id)

def insertOrganization (o : Organization) : Change Unit :=
  Procedure.ask (Operation.insertOrganization o)

def insertProject (p : Project) : Change Unit := Procedure.ask (Operation.insertProject p)

def insertResource (r : Resource) : Change Unit := Procedure.ask (Operation.insertResource r)

def scopeExists (s : Scope) : Change Bool := Procedure.ask (Operation.scopeExists s)

def insertAssignment (a : Assignment) : Change Store.GrantOutcome :=
  Procedure.ask (Operation.insertAssignment a)

def deleteAssignment (key : GrantKey) : Change Bool :=
  Procedure.ask (Operation.deleteAssignment key)

def reassignUser (source target : String) : Change Nat :=
  Procedure.ask (Operation.reassignUser source target)

end Change

/-! ## Steps at a pace -/

namespace Store

variable {τ : Type}

/-- Puts one question to a store. -/
def askAt (pace : Pace τ) (now : Moment) (q : Query) (x : Store × τ) :
    Except Fault q.Answer × Store × τ :=
  let (r, t) := pace.outcome q.label x.2 (x.1.queryWork now q)
  (r, x.1, t)

/-- Performs one operation of the open transaction. -/
def performAt (pace : Pace τ) (now : Moment) (op : Operation) (x : Store × τ) :
    Except Fault op.Answer × Store × τ :=
  match pace.outcome op.label x.2 (x.1.operationWork now op) with
  | (.ok (a, w), t) => (.ok a, { x.1 with working := some w }, t)
  | (.error e, t) => (.error e, x.1, t)

/-- Commits the open transaction, or gives it up. -/
def commitAt (pace : Pace τ) (x : Store × τ) : Except Fault Unit × Store × τ :=
  match pace.outcome "commit" x.2 x.1.commitWork with
  | (.ok (), t) => (.ok (), x.1.commit.2, t)
  | (.error e, t) => (.error e, x.1.rollback, t)

/-- **Runs a plan as one transaction.**  A transaction that fails at any step is given up. -/
def transactAt {α : Type} (pace : Pace τ) (now : Moment) (body : Change α) (x : Store × τ) :
    Except Fault α × Store × τ :=
  match pace.outcome "begin" x.2 x.1.beginWork with
  | (.error e, t) => (.error e, x.1, t)
  | (.ok (), t) =>
    match body.run.run (performAt pace now) ({ x.1 with working := some x.1.committed }, t) with
    | (.error e, _, x) => (.error e, x.1.rollback, x.2)
    | (.ok a, _, x) =>
      match commitAt pace x with
      | (.ok (), x) => (.ok a, x)
      | (.error e, x) => (.error e, x)

/-- Runs a transaction that was accepted, or hands on why it was not. -/
def transactIfValidAt {α : Type} (pace : Pace τ) (now : Moment) (body : Except Fault (Change α))
    (x : Store × τ) : Except Fault α × Store × τ :=
  match body with
  | .error e => (.error e, x)
  | .ok body => transactAt pace now body x

end Store

/-- **A store and a clock.** -/
structure Execution where
  store : Store
  clock : Instant := 0
  deriving Inhabited

namespace Execution

/-- Puts one question to the store. -/
def ask (l : Limits) (now : Moment) : Plan.Oracle Query Query.Answer Execution := fun q x =>
  let (r, store, clock) := Store.askAt l.pace now q (x.store, x.clock)
  (r, ⟨store, clock⟩)

/-- **Runs a plan that only reads.** -/
def consult {α : Type} (l : Limits) (now : Moment) (plan : Plan Query Query.Answer α)
    (x : Execution) : α × List Telemetry.Event × Execution :=
  plan.run (ask l now) x

/-- **Runs a plan as one transaction.** -/
def transact {α : Type} (l : Limits) (now : Moment) (body : Change α) (x : Execution) :
    Except Fault α × Execution :=
  let (r, store, clock) := Store.transactAt l.pace now body (x.store, x.clock)
  (r, ⟨store, clock⟩)

/-- Runs a transaction that was accepted, or hands on why it was not. -/
def transactIfValid {α : Type} (l : Limits) (now : Moment) (body : Except Fault (Change α))
    (x : Execution) : Except Fault α × Execution :=
  let (r, store, clock) := Store.transactIfValidAt l.pace now body (x.store, x.clock)
  (r, ⟨store, clock⟩)

end Execution

end TenantGuard
