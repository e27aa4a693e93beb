import TenantGuard.Fault

/-!
# Operation contexts

An operation runs under a context: a deadline and a cancellation token.  A context derived from
another one is cancelled with it and never has a later deadline.

Time is counted in milliseconds of a clock that only moves while everything waits.  `Limits.ending`
says how one guarded step ends: it is cancelled, it times out, or its work finishes.

* under a cancelled context no step does any work;
* otherwise work that is ready at once finishes, and of work, deadline and cancellation the earliest
  decides: at one instant work comes before the deadline and the deadline before the cancellation,
  which takes effect only while a step waits.

A `Pace` is whatever decides how the steps of an operation end; `Limits.pace` is that of a deadline
and a cancellation to come.
-/

namespace TenantGuard

/-- A reading of the clock, in milliseconds. -/
abbrev Instant := Nat

/-- **An operation's context.**  The lineage holds the context's own cancellation token and those it
was derived from, the nearest first. -/
structure Context where
  lineage : List Nat
  deadline : Option Instant
  deriving DecidableEq, Repr, Inhabited

namespace Context

/-- No deadline and a token of its own. -/
def root (token : Nat) : Context := ⟨[token], none⟩

/-- Brings the deadline forward; a later one changes nothing. -/
def deadlineAt (c : Context) (t : Instant) : Context :=
  { c with deadline := some (c.deadline.elim t (min · t)) }

/-- A deadline some time from now. -/
def withTimeout (token now timeout : Nat) : Context := (root token).deadlineAt (now + timeout)

/-- **A derived context**, with a token of its own below the parent's. -/
def child (c : Context) (token now : Nat) (timeout : Option Nat) : Context :=
  let derived : Context := ⟨token :: c.lineage, c.deadline⟩
  match timeout with
  | none => derived
  | some d => derived.deadlineAt (now + d)

/-- Whether a context is cancelled, given the tokens that were cancelled. -/
def isCancelled (c : Context) (cancelled : List Nat) : Bool := c.lineage.any cancelled.contains

/-- The instant at which a context is cancelled, given when each token is. -/
def cancelledAt (c : Context) (schedule : List (Nat × Instant)) : Option Instant :=
  ((schedule.filter fun p => c.lineage.contains p.1).map (·.2)).min?

end Context

/-- **The limits of a run of steps**: a deadline, the instant of a cancellation to come, and whether
the context is cancelled already. -/
structure Limits where
  deadline : Option Instant := none
  cancelAt : Option Instant := none
  cancelled : Bool := false
  deriving DecidableEq, Repr, Inhabited

/-- **Work of one step**: how long it takes, and what comes of it.  `none`: it never ends. -/
structure Work (α : Type) where
  duration : Option Nat
  result : Except Fault α

/-- How a step ends. -/
inductive Ending where
  | finished
  | timedOut
  | cancelled
  deriving DecidableEq, Repr, Inhabited

/-- Whether an event at `a` comes before one at `b`; what never comes is last. -/
def Instant.before (a b : Option Instant) : Bool :=
  match a, b with
  | some a, some b => a < b
  | some _, none => true
  | none, _ => false

namespace Limits

/-- The limits of a run that starts at `now`.  A cancellation that is due by then has happened. -/
def startingAt (now : Instant) (deadline cancelAt : Option Instant) : Limits :=
  ⟨deadline, cancelAt, cancelAt.any (· ≤ now)⟩

/-- **How a step ends that starts at `start`**, and when.  A step that nothing would ever end is
given up at once. -/
def ending (l : Limits) (start : Instant) (duration : Option Nat) : Ending × Instant :=
  let done := duration.map (start + ·)
  let deadline := l.deadline.map (max start)
  if l.cancelled then (.cancelled, start)
  else if duration = some 0 then (.finished, start)
  else if Instant.before l.cancelAt done && Instant.before l.cancelAt deadline then
    (.cancelled, l.cancelAt.getD start)
  else if duration.isSome && !Instant.before deadline done then (.finished, done.getD start)
  else (.timedOut, deadline.getD start)

/-- What a step hands on, given how it ends. -/
def result {α : Type} (operation : String) (work : Work α) : Ending → Except Fault α
  | .finished => work.result
  | .timedOut => .error (.timeout operation)
  | .cancelled => .error (.cancelled operation)

/-- **The endings of steps that follow each other.**  A step that was cancelled leaves the context
cancelled. -/
def endings (l : Limits) : Instant → List (Option Nat) → List (Ending × Instant)
  | _, [] => []
  | start, d :: ds =>
    let (e, t) := l.ending start d
    (e, t) :: endings { l with cancelled := decide (e = Ending.cancelled) } t ds

end Limits

/-! ## Paces -/

/-- **Who decides how steps end**, keeping a state from one to the next.  Work that never ends is
never finished. -/
structure Pace (τ : Type) where
  ending : τ → Option Nat → Ending × τ
  endless : ∀ t, (ending t none).1 ≠ .finished

/-- The outcome of a step, and the state in which the next one starts. -/
def Pace.outcome {τ α : Type} (pace : Pace τ) (operation : String) (t : τ) (work : Work α) :
    Except Fault α × τ :=
  let (e, t) := pace.ending t work.duration
  (Limits.result operation work e, t)

namespace Limits

theorem ending_none_ne_finished (l : Limits) (start : Instant) :
    (l.ending start none).1 ≠ .finished := by
  unfold ending
  dsimp only
  split
  · simp
  split
  · simp_all
  split
  · simp
  split
  · simp_all
  · simp

/-- **The pace of a deadline and a cancellation to come.** -/
def pace (l : Limits) : Pace Instant := ⟨l.ending, l.ending_none_ne_finished⟩

end Limits

end TenantGuard
