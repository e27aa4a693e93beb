import TenantGuard.Telemetry

/-!
# Plans

A plan is a computation that asks questions one at a time and goes on with each answer, or with the
fault that came in its place.  It says what is asked and what is made of the answers, and leaves
open who answers, how long that takes and what changes in between.

* `Plan.run` lets an oracle with a state answer;
* `Procedure.ask`, `Procedure.note` and the monad build plans; in a `Procedure` an unanswered
  question ends the computation unless it is caught by `Procedure.attempt`.
-/

namespace TenantGuard

/-- **A computation that asks questions** of type `Q`, the answer to `q` being of type `A q`, and
notes events on its way. -/
inductive Plan (Q : Type) (A : Q → Type) (α : Type) where
  | done (a : α)
  | noting (e : Telemetry.Event) (next : Plan Q A α)
  | asking (q : Q) (next : Except Fault (A q) → Plan Q A α)

namespace Plan

/-- **Who answers the questions of a plan**, keeping a state from one to the next. -/
abbrev Oracle (Q : Type) (A : Q → Type) (σ : Type) := (q : Q) → σ → Except Fault (A q) × σ

variable {Q : Type} {A : Q → Type} {α β σ : Type}

/-- Goes on with another plan. -/
def bind : Plan Q A α → (α → Plan Q A β) → Plan Q A β
  | done a, f => f a
  | noting e next, f => noting e (next.bind f)
  | asking q next, f => asking q fun r => (next r).bind f

instance : Monad (Plan Q A) where
  pure := done
  bind := bind

theorem bind_assoc {γ : Type} (p : Plan Q A α) (f : α → Plan Q A β) (g : β → Plan Q A γ) :
    (p.bind f).bind g = p.bind fun a => (f a).bind g := by
  induction p with
  | done a => rfl
  | noting e next ih => simp [bind, ih]
  | asking q next ih => simp [bind, ih]

/-- **Runs a plan** against an oracle with a state; the events come out in order. -/
def run (answer : Oracle Q A σ) : Plan Q A α → σ → α × List Telemetry.Event × σ
  | done a, s => (a, [], s)
  | noting e next, s =>
    let (a, es, s) := next.run answer s
    (a, e :: es, s)
  | asking q next, s =>
    let (r, s) := answer q s
    (next r).run answer s

/-- The result of a plan against answers that never change. -/
def eval (answer : (q : Q) → Except Fault (A q)) (p : Plan Q A α) : α :=
  (p.run (fun q (_ : Unit) => (answer q, ())) ()).1

@[simp] theorem eval_done (answer : (q : Q) → Except Fault (A q)) (a : α) :
    (done a : Plan Q A α).eval answer = a := rfl

@[simp] theorem eval_noting (answer : (q : Q) → Except Fault (A q)) (e : Telemetry.Event)
    (next : Plan Q A α) : (noting e next).eval answer = next.eval answer := rfl

@[simp] theorem eval_asking (answer : (q : Q) → Except Fault (A q)) (q : Q)
    (next : Except Fault (A q) → Plan Q A α) :
    (asking q next).eval answer = (next (answer q)).eval answer := rfl

theorem eval_bind (answer : (q : Q) → Except Fault (A q)) (p : Plan Q A α)
    (f : α → Plan Q A β) : (p.bind f).eval answer = (f (p.eval answer)).eval answer := by
  induction p with
  | done a => rfl
  | noting e next ih => simpa [bind] using ih
  | asking q next ih => simpa [bind] using ih (answer q)

end Plan

/-- **A plan that may fail.** -/
abbrev Procedure (Q : Type) (A : Q → Type) (α : Type) := ExceptT Fault (Plan Q A) α

namespace Procedure

variable {Q : Type} {A : Q → Type} {α : Type}

/-- Asks a question; a fault in place of the answer ends the procedure. -/
def ask (q : Q) : Procedure Q A (A q) := ExceptT.mk (Plan.asking q Plan.done)

/-- Notes an event. -/
def note (e : Telemetry.Event) : Procedure Q A Unit :=
  ExceptT.mk (Plan.noting e (Plan.done (.ok ())))

/-- Runs a procedure and hands on how it ended. -/
def attempt (t : Procedure Q A α) : Procedure Q A (Except Fault α) :=
  ExceptT.mk (Plan.bind (ExceptT.run t) fun r => Plan.done (.ok r))

end Procedure

end TenantGuard
