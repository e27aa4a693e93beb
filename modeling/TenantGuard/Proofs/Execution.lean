import TenantGuard.Execution
import TenantGuard.Proofs.Plan

/-!
# What steps at a pace do

A step that finishes does its work, and any other step does nothing.

* `Pace.outcome_eq_ok`: a result is the result of the work;
* `Store.performAt_cases` and `Store.commitAt_cases`: one operation, and the end of a transaction;
* `Execution.consult_eq_eval`: an undisturbed plan that reads comes to what it makes of the
  committed contents, and so does one that ends with the first fault, if it comes to a result
  (`Execution.eval_of_consult`).
-/

namespace TenantGuard

open Store (Query Operation FailPoint)

namespace Pace

variable {τ α : Type} (pace : Pace τ) {operation : String} {t : τ} {work : Work α}

theorem outcome_of_finished (h : (pace.ending t work.duration).1 = .finished) :
    (pace.outcome operation t work).1 = work.result := by
  simp only [outcome, h, Limits.result]

/-- **What a step hands on is the result of its work**, which was not one that never ends. -/
theorem outcome_eq_ok {a : α} (h : (pace.outcome operation t work).1 = .ok a) :
    work.result = .ok a ∧ work.duration ≠ none := by
  simp only [outcome] at h
  cases he : (pace.ending t work.duration).1 with
  | timedOut => simp [he, Limits.result] at h
  | cancelled => simp [he, Limits.result] at h
  | finished =>
    simp only [he, Limits.result] at h
    refine ⟨h, fun hd => ?_⟩
    rw [hd] at he
    exact pace.endless t he

end Pace

namespace Store

variable {τ : Type} {pace : Pace τ} {now : Moment} {x : Store × τ}

theorem guardPoint_of_not_mem {s : Store} {p : FailPoint} (h : p ∉ s.failing) :
    s.guardPoint p = .ok () := by
  simp [guardPoint, h]

/-- **An operation of the open transaction is applied to its copy**, where its point is
not armed. -/
theorem applied_of_open {s : Store} {w : State} {op : Operation} (hopen : s.working = some w)
    (hpoint : ∀ p, op.failPoint? = some p → p ∉ s.failing) :
    s.applied now op = op.apply now w := by
  have hguard : s.guardPoint? op.failPoint? = .ok () := by
    cases hp : op.failPoint? with
    | none => rfl
    | some p => exact guardPoint_of_not_mem (hpoint p hp)
  rw [applied, hguard, hopen]
  rfl

/-! ## Questions -/

/-- A question that finishes is answered from the committed contents. -/
theorem askAt_of_finished {q : Query} (hreads : .reads ∉ x.1.failing)
    (h : (pace.ending x.2 (x.1.queryWork now q).duration).1 = .finished) :
    (askAt pace now q x).1 = x.1.committed.answer now q := by
  have hresult : (x.1.queryWork now q).result = x.1.committed.answer now q := by
    unfold queryWork read
    rw [guardPoint_of_not_mem hreads]
    rfl
  exact (pace.outcome_of_finished h).trans hresult

/-- A question that was answered was answered from the committed contents. -/
theorem askAt_eq_ok {q : Query} {b : q.Answer} (h : (askAt pace now q x).1 = .ok b) :
    x.1.committed.answer now q = .ok b := by
  have hresult := (pace.outcome_eq_ok h).1
  unfold queryWork at hresult
  split at hresult
  · cases hresult
  next hguard =>
    rw [behindLock, read, hguard] at hresult
    exact hresult

/-! ## Transactions -/

/-- A transaction begins when no other is open. -/
theorem isLocked_of_begin {s : Store} {operation : String} {t t' : τ}
    (h : pace.outcome operation t s.beginWork = (.ok (), t')) : s.isLocked = false := by
  have hok : (pace.outcome operation t s.beginWork).1 = .ok () := by rw [h]
  obtain ⟨-, hd⟩ := pace.outcome_eq_ok hok
  simp only [beginWork, behindLock] at hd
  cases hlock : s.isLocked with
  | false => rfl
  | true => simp [hlock] at hd

/-- **An operation** alters the copy of the open transaction, or nothing. -/
theorem performAt_cases (pace : Pace τ) (now : Moment) (x : Store × τ) (op : Operation) :
    (∃ a w, x.1.applied now op = .ok (a, w) ∧ (performAt pace now op x).1 = .ok a ∧
      (performAt pace now op x).2.1 = { x.1 with working := some w }) ∨
    ∃ e, (performAt pace now op x).1 = .error e ∧ (performAt pace now op x).2.1 = x.1 := by
  unfold performAt
  rcases hout : pace.outcome op.label x.2 (x.1.operationWork now op) with ⟨_ | ⟨a, w⟩, t⟩
  · exact .inr ⟨_, rfl, rfl⟩
  · have hok : (pace.outcome op.label x.2 (x.1.operationWork now op)).1 = .ok (a, w) := by
      rw [hout]
    exact .inl ⟨a, w, (pace.outcome_eq_ok hok).1, rfl, rfl⟩

/-- An operation that finishes is a step of the store. -/
theorem performAt_of_finished (op : Operation)
    (h : (pace.ending x.2 (x.1.operationWork now op).duration).1 = .finished) :
    (performAt pace now op x).1 = (x.1.perform now op).1 ∧
      (performAt pace now op x).2.1 = (x.1.perform now op).2 := by
  have hout : (pace.outcome op.label x.2 (x.1.operationWork now op)).1 = x.1.applied now op :=
    pace.outcome_of_finished h
  unfold performAt perform
  rcases hr : pace.outcome op.label x.2 (x.1.operationWork now op) with ⟨e | ⟨a, w⟩, t⟩
  · rw [hr] at hout
    rw [← hout]
    exact ⟨rfl, rfl⟩
  · rw [hr] at hout
    rw [← hout]
    exact ⟨rfl, rfl⟩

/-- **A commit** puts the copy in the place of the contents, or gives it up. -/
theorem commitAt_cases (pace : Pace τ) (x : Store × τ) :
    ((commitAt pace x).1 = .ok () ∧ x.1.guardPoint .commit = .ok () ∧
      (commitAt pace x).2.1 = x.1.commit.2) ∨
    ∃ e, (commitAt pace x).1 = .error e ∧ (commitAt pace x).2.1 = x.1.rollback := by
  unfold commitAt
  rcases hout : pace.outcome "commit" x.2 x.1.commitWork with ⟨_ | ⟨⟩, t⟩
  · exact .inr ⟨_, rfl, rfl⟩
  · have hok : (pace.outcome "commit" x.2 x.1.commitWork).1 = .ok () := by
      rw [hout]
    exact .inl ⟨rfl, (pace.outcome_eq_ok hok).1, rfl⟩

/-- A commit that finishes is that of the store. -/
theorem commitAt_of_finished (h : (pace.ending x.2 x.1.commitWork.duration).1 = .finished) :
    (commitAt pace x).1 = x.1.commit.1 ∧ (commitAt pace x).2.1 = x.1.commit.2 := by
  have hout : (pace.outcome "commit" x.2 x.1.commitWork).1 = x.1.guardPoint .commit :=
    pace.outcome_of_finished h
  unfold commitAt commit
  rcases hr : pace.outcome "commit" x.2 x.1.commitWork with ⟨e | ⟨⟩, t⟩
  · rw [hr] at hout
    rw [← hout]
    exact ⟨rfl, rfl⟩
  · rw [hr] at hout
    rw [← hout]
    exact ⟨rfl, rfl⟩

end Store

namespace Limits

/-- Without a deadline or a cancellation, work that ends finishes. -/
theorem ending_unlimited (start : Instant) (duration : Nat) :
    (({} : Limits).ending start (some duration)).1 = .finished := by
  by_cases h : duration = 0 <;> simp [ending, Instant.before, h]

end Limits

namespace Execution

variable {α : Type} {l : Limits} {now : Moment} {p : Plan Query Query.Answer α} {x : Execution}

/-- **A run without failure, timeout or cancellation**: the store can be read, and every question
finishes. -/
structure Undisturbed (l : Limits) (now : Moment) (p : Plan Query Query.Answer α)
    (x : Execution) : Prop where
  reads : .reads ∉ x.store.failing
  finishes : p.Throughout (ask l now)
    (fun q y => (l.ending y.clock (y.store.queryWork now q).duration).1 = .finished) x

/-- Without limits, a free store that can be read disturbs nothing. -/
theorem undisturbed_unlimited (hreads : .reads ∉ x.store.failing)
    (hfree : x.store.isLocked = false) : Undisturbed {} now p x := by
  refine ⟨hreads, Plan.throughout_of_invariant (I := fun y => y.store = x.store) ?_ p rfl⟩
  rintro q y hy
  refine ⟨?_, hy⟩
  have hwork : (y.store.queryWork now q).duration = some x.store.latency := by
    simp [hy, Store.queryWork, Store.guardPoint_of_not_mem hreads, Store.behindLock, hfree]
  rw [hwork]
  exact Limits.ending_unlimited _ _

/-- **A plan that reads leaves the store as it is.** -/
theorem consult_store (l : Limits) (now : Moment) (p : Plan Query Query.Answer α)
    (x : Execution) : (x.consult l now p).2.2.store = x.store :=
  Plan.run_invariant (I := fun y : Execution => y.store = x.store) (fun _ _ h => h) p rfl

/-- **An undisturbed plan is answered from the committed contents.** -/
theorem consult_eq_eval (h : Undisturbed l now p x) :
    (x.consult l now p).1 = p.eval (x.store.committed.answer now) := by
  refine (Plan.run_simulates (R := fun y _ => y.store = x.store) ?_ p h.finishes rfl).1
  rintro q y ⟨⟩ hfin hy
  have hreads : .reads ∉ y.store.failing := hy ▸ h.reads
  refine ⟨?_, hy⟩
  rw [← hy]
  have hanswer : (Store.askAt l.pace now q (y.store, y.clock)).1 = y.store.committed.answer now q :=
    Store.askAt_of_finished hreads hfin
  exact hanswer

/-- **A plan that ends with the first fault** and comes to a result comes to what it makes of the
committed contents, whatever limits it. -/
theorem eval_of_consult {t : Inquiry α} (ht : t.FailsFast) {r : α}
    (h : (x.consult l now t.run).1 = .ok r) :
    Procedure.eval (x.store.committed.answer now) t = .ok r := by
  have hstep : ∀ (q : Query) (y : Execution) (u : Unit), (∃ b, (ask l now q y).1 = .ok b) →
      y.store = x.store →
      (ask l now q y).1 = x.store.committed.answer now q ∧ (ask l now q y).2.store = x.store := by
    rintro q y - ⟨b, hb⟩ hy
    have hb' : (Store.askAt l.pace now q (y.store, y.clock)).1 = .ok b := hb
    refine ⟨?_, hy⟩
    rw [hb, ← hy]
    exact (Store.askAt_eq_ok hb').symm
  have hsame : (x.consult l now t.run).1 = Procedure.eval (x.store.committed.answer now) t :=
    (Plan.run_simulates (R := fun y (_ : Unit) => y.store = x.store) hstep t.run
      (Plan.answered_of_failsFast ht h) rfl).1
  exact hsame.symm.trans h

end Execution

end TenantGuard
