import TenantGuard.Proofs.Execution

/-!
# Plans whose questions may fail

Any question of a plan can fail on its way to whoever knows the answer.  A plan that hands failures
on comes to what it makes of the undisturbed answers, or to the first failure that it met.

* a `Disturbance` decides for each question whether it fails, and `Plan.disturbed` is what a plan
  then hears;
* `Plan.HandsOn` plans end with a failure as soon as they hear of one; unlike those that end with
  the first fault they may catch it, note it and go on from a fault that says "not found";
* `Plan.run_disturbed`: such a plan comes to its undisturbed result or to the first failure;
* `Execution.consult_disturbed`: limits, the delay and the fail points of a store disturb, and do
  nothing else.
-/

namespace TenantGuard

open Store (Query FailPoint)

/-- **A failure**: a fault that says nothing about what exists. -/
structure Failure where
  fault : Fault
  notAnswer : fault.isNotFound = false

/-- A result behind a possible failure is a result without one. -/
theorem Failure.elim_eq_ok_iff {α : Type} {o : Option Failure} {r : Except Fault α} {a : α} :
    (o.elim r fun f => .error f.fault) = .ok a ↔ o = none ∧ r = .ok a := by
  cases o <;> simp

/-- **What disturbs a plan**: whether a question fails, in dependence on a state. -/
abbrev Disturbance (Q σ : Type) := Q → σ → Option Failure × σ

namespace Plan

variable {Q : Type} {A : Q → Type} {α β σ : Type}

/-! ## Disturbed runs -/

/-- What a disturbed plan hears. -/
def disturbed (truth : (q : Q) → Except Fault (A q)) (d : Disturbance Q σ) : Oracle Q A σ :=
  fun q x => ((d q x).1.elim (truth q) fun f => .error f.fault, (d q x).2)

/-- **The first failure** that a disturbed plan meets. -/
def firstFailure (truth : (q : Q) → Except Fault (A q)) (d : Disturbance Q σ) :
    Plan Q A α → σ → Option Failure
  | done _, _ => none
  | noting _ next, x => next.firstFailure truth d x
  | asking q next, x =>
    match d q x with
    | (some f, _) => some f
    | (none, x) => (next (truth q)).firstFailure truth d x

/-- A plan that asks nothing more and ends with a given result. -/
def Settled (a : α) : Plan Q A α → Prop
  | done b => b = a
  | noting _ next => next.Settled a
  | asking _ _ => False

/-- **A plan that hands failures on.** -/
def HandsOn : Plan Q A (Except Fault α) → Prop
  | done _ => True
  | noting _ next => next.HandsOn
  | asking _ next =>
    (∀ f : Failure, (next (.error f.fault)).Settled (.error f.fault)) ∧ ∀ r, (next r).HandsOn

theorem fst_run_of_settled {answer : Oracle Q A σ} {a : α} {p : Plan Q A α} (h : p.Settled a)
    (x : σ) : (p.run answer x).1 = a := by
  induction p with
  | done b => exact h
  | noting e next ih => exact ih h
  | asking q next ih => exact h.elim

theorem Settled.bind {a : α} {b : β} {p : Plan Q A α} {k : α → Plan Q A β} (h : p.Settled a)
    (hk : (k a).Settled b) : (p.bind k).Settled b := by
  induction p with
  | done a' =>
    cases h
    exact hk
  | noting e next ih => exact ih h
  | asking q next ih => exact h.elim

/-- **A disturbed plan** that hands failures on comes to its undisturbed result, unless it meets a
failure, and then to the first one. -/
theorem run_disturbed (truth : (q : Q) → Except Fault (A q)) (d : Disturbance Q σ)
    {p : Plan Q A (Except Fault α)} (hp : p.HandsOn) (x : σ) :
    (p.run (disturbed truth d) x).1 =
      (p.firstFailure truth d x).elim (p.eval truth) fun f => .error f.fault := by
  induction p generalizing x with
  | done r => rfl
  | noting e next ih => exact ih hp x
  | asking q next ih =>
    rw [run_asking, firstFailure, disturbed]
    rcases hd : d q x with ⟨_ | f, y⟩
    · exact ih (truth q) (hp.2 _) y
    · exact fst_run_of_settled (hp.1 f) y

/-- The first failure is that of a question in a state that the disturbance led to. -/
theorem exists_of_firstFailure {truth : (q : Q) → Except Fault (A q)} {d : Disturbance Q σ}
    {I : σ → Prop} (hstep : ∀ q x, I x → I (d q x).2) {p : Plan Q A α} {x : σ} (hx : I x)
    {f : Failure} (h : p.firstFailure truth d x = some f) : ∃ q y, I y ∧ (d q y).1 = some f := by
  induction p generalizing x with
  | done a => cases h
  | noting e next ih => exact ih hx h
  | asking q next ih =>
    rw [firstFailure] at h
    have hnext := hstep q x hx
    rcases hd : d q x with ⟨_ | g, y⟩
    · rw [hd] at h hnext
      exact ih _ hnext h
    · rw [hd] at h
      cases h
      exact ⟨q, x, hx, by rw [hd]⟩

/-! ## Plans that hand failures on -/

theorem HandsOn.bind {p : Plan Q A (Except Fault α)}
    {k : Except Fault α → Plan Q A (Except Fault β)} (hp : p.HandsOn)
    (hfail : ∀ f : Failure, (k (.error f.fault)).Settled (.error f.fault))
    (hk : ∀ r, (k r).HandsOn) : (p.bind k).HandsOn := by
  induction p with
  | done r => exact hk r
  | noting e next ih => exact ih hp
  | asking q next ih => exact ⟨fun f => (hp.1 f).bind (hfail f), fun r => ih r (hp.2 r)⟩

theorem FailsFast.handsOn {p : Plan Q A (Except Fault α)} (hp : p.FailsFast) : p.HandsOn := by
  induction p with
  | done r => exact trivial
  | noting e next ih => exact ih hp
  | asking q next ih =>
    refine ⟨fun f => ?_, fun r => ?_⟩
    · rw [hp.1 f.fault]
      rfl
    · cases r with
      | error e =>
        rw [hp.1 e]
        exact trivial
      | ok a => exact ih _ (hp.2 a)

end Plan

namespace Procedure

variable {Q : Type} {A : Q → Type} {α β σ : Type}

/-- **A procedure that hands failures on.** -/
def HandsOn (t : Procedure Q A α) : Prop := Plan.HandsOn (ExceptT.run t)

theorem handsOn_pure (a : α) : HandsOn (pure a : Procedure Q A α) := trivial

theorem handsOn_throw (e : Fault) : HandsOn (throw e : Procedure Q A α) := trivial

theorem handsOn_note (e : Telemetry.Event) : HandsOn (note e : Procedure Q A Unit) := trivial

theorem FailsFast.handsOn {t : Procedure Q A α} (ht : FailsFast t) : HandsOn t :=
  Plan.FailsFast.handsOn ht

theorem HandsOn.bind {t : Procedure Q A α} {f : α → Procedure Q A β} (ht : HandsOn t)
    (hf : ∀ a, HandsOn (f a)) : HandsOn (t >>= f) := by
  refine Plan.HandsOn.bind (k := ExceptT.bindCont f) ht (fun _ => rfl) fun r => ?_
  cases r with
  | error e => exact trivial
  | ok a => exact hf a

/-- What is made of an attempt hands failures on if it fails with those of the attempt. -/
theorem HandsOn.attempt_bind {t : Procedure Q A α} {k : Except Fault α → Procedure Q A β}
    (ht : HandsOn t)
    (hfail : ∀ f : Failure, (ExceptT.run (k (.error f.fault))).Settled (.error f.fault))
    (hk : ∀ r, HandsOn (k r)) : HandsOn (attempt t >>= k) := by
  have hrun : (attempt t >>= k).run = t.run.bind fun r => (k r).run :=
    Plan.bind_assoc t.run (fun r => .done (.ok r : Except Fault _)) (ExceptT.bindCont k)
  change Plan.HandsOn (attempt t >>= k).run
  rw [hrun]
  exact Plan.HandsOn.bind ht hfail hk

/-- The result of a disturbed procedure. -/
theorem fst_run_disturbed (truth : (q : Q) → Except Fault (A q)) (d : Disturbance Q σ)
    {t : Procedure Q A α} (ht : HandsOn t) (x : σ) :
    (t.run.run (Plan.disturbed truth d) x).1 =
      (t.run.firstFailure truth d x).elim (t.eval truth) fun f => .error f.fault :=
  Plan.run_disturbed truth d ht x

end Procedure

/-! ## What disturbs the questions to a store -/

namespace Failure

/-- The step that puts a question ran past its deadline. -/
def timeout (operation : String) : Failure := ⟨.timeout operation, rfl⟩

def cancelled (operation : String) : Failure := ⟨.cancelled operation, rfl⟩

/-- The reads of the store fail. -/
def reads : Failure := ⟨FailPoint.reads.fault, rfl⟩

/-- The failure of a step that does not finish. -/
def ofEnding (operation : String) : Ending → Option Failure
  | .finished => none
  | .timedOut => some (timeout operation)
  | .cancelled => some (cancelled operation)

end Failure

theorem Limits.result_eq {α : Type} (operation : String) (work : Work α) (e : Ending) :
    Limits.result operation work e =
      (Failure.ofEnding operation e).elim work.result fun f => .error f.fault := by
  cases e <;> rfl

namespace Store

variable {τ : Type}

/-- A question whose step does not finish. -/
def interruption (pace : Pace τ) (now : Moment) : Disturbance Query (Store × τ) := fun q x =>
  (Failure.ofEnding q.label (pace.ending x.2 (x.1.queryWork now q).duration).1,
    x.1, (pace.ending x.2 (x.1.queryWork now q).duration).2)

/-- **What disturbs a question to a store**: its step does not finish, or the store cannot be
read. -/
def disturbance (pace : Pace τ) (now : Moment) : Disturbance Query (Store × τ) := fun q x =>
  ((interruption pace now q x).1.or (if .reads ∈ x.1.failing then some .reads else none),
    (interruption pace now q x).2)

theorem queryWork_result (s : Store) (now : Moment) (q : Query) :
    (s.queryWork now q).result = s.read now q := by
  unfold queryWork read
  cases s.guardPoint .reads <;> rfl

theorem read_eq (s : Store) (now : Moment) (q : Query) :
    s.read now q =
      if .reads ∈ s.failing then .error FailPoint.reads.fault else s.committed.answer now q := by
  unfold read guardPoint
  by_cases h : FailPoint.reads ∈ s.failing
  · simp [h, bind, Except.bind]
  · simp [h, bind, Except.bind]

/-- A question that is not interrupted is answered by reading. -/
theorem askAt_eq_interrupted (pace : Pace τ) (now : Moment) (q : Query) (x : Store × τ) :
    askAt pace now q x = Plan.disturbed (x.1.read now) (interruption pace now) q x := by
  refine Prod.ext ?_ rfl
  change Limits.result _ _ _ = _
  rw [Limits.result_eq, queryWork_result]
  rfl

/-- A question that is not disturbed is answered from the committed contents. -/
theorem askAt_eq_disturbed (pace : Pace τ) (now : Moment) (q : Query) (x : Store × τ) :
    askAt pace now q x =
      Plan.disturbed (x.1.committed.answer now) (disturbance pace now) q x := by
  rw [askAt_eq_interrupted]
  refine Prod.ext ?_ rfl
  simp only [Plan.disturbed, disturbance, read_eq]
  cases (interruption pace now q x).1 with
  | some f => rfl
  | none => by_cases h : FailPoint.reads ∈ x.1.failing <;> simp [h, Failure.reads]

/-- A store that answers at once. -/
structure Prompt (s : Store) : Prop where
  latency : s.latency = 0
  free : s.isLocked = false

theorem duration_of_prompt {s : Store} (h : s.Prompt) (now : Moment) (q : Query) :
    (s.queryWork now q).duration = some 0 := by
  unfold queryWork behindLock
  cases s.guardPoint .reads with
  | error e => simp [h.latency]
  | ok u => simp [h.latency, h.free]

end Store

namespace Limits

variable {l : Limits}

/-- Without a cancellation, a step finishes or times out. -/
theorem ending_ne_cancelled (hnow : l.cancelled = false) (hlater : l.cancelAt = none)
    (t : Instant) (duration : Option Nat) : (l.ending t duration).1 ≠ .cancelled := by
  have hbefore : ∀ d, Instant.before none d = false := fun _ => rfl
  simp only [ending, hnow, hlater, hbefore, Bool.false_and, Bool.false_eq_true, if_false]
  split
  · simp
  split
  · simp
  · simp

/-- Work that is ready at once finishes. -/
theorem ending_at_once (hnow : l.cancelled = false) (t : Instant) :
    (l.ending t (some 0)).1 = .finished := by
  simp [ending, hnow]

end Limits

namespace Execution

/-- What interrupts a question in an execution. -/
def interruption (l : Limits) (now : Moment) : Disturbance Query Execution := fun q x =>
  let (f, store, clock) := Store.interruption l.pace now q (x.store, x.clock)
  (f, ⟨store, clock⟩)

/-- What disturbs a question in an execution. -/
def disturbance (l : Limits) (now : Moment) : Disturbance Query Execution := fun q x =>
  let (f, store, clock) := Store.disturbance l.pace now q (x.store, x.clock)
  (f, ⟨store, clock⟩)

theorem ask_eq_interrupted (l : Limits) (now : Moment) (q : Query) (x : Execution) :
    ask l now q x = Plan.disturbed (x.store.read now) (interruption l now) q x := by
  have h := Store.askAt_eq_interrupted l.pace now q (x.store, x.clock)
  simp only [ask, h]
  rfl

theorem ask_eq_disturbed (l : Limits) (now : Moment) (q : Query) (x : Execution) :
    ask l now q x = Plan.disturbed (x.store.committed.answer now) (disturbance l now) q x := by
  have h := Store.askAt_eq_disturbed l.pace now q (x.store, x.clock)
  simp only [ask, h]
  rfl

variable {α : Type} {l : Limits} {now : Moment} {t : Inquiry α} {x : Execution}

/-- A plan that reads leaves the store alone, so that it hears the same truth throughout. -/
theorem consult_eq_disturbed (truth : Store → (q : Query) → Except Fault q.Answer)
    (d : Disturbance Query Execution)
    (hask : ∀ q y, ask l now q y = Plan.disturbed (truth y.store) d q y) (ht : t.HandsOn) :
    (x.consult l now t.run).1 = (t.run.firstFailure (truth x.store) d x).elim
      (t.eval (truth x.store)) fun f => .error f.fault := by
  rw [← Procedure.fst_run_disturbed _ _ ht]
  refine (Plan.run_simulates_of_forall
    (R := fun y z : Execution => y = z ∧ y.store = x.store) ?_ t.run ⟨rfl, rfl⟩).1
  rintro q y _ ⟨rfl, hy⟩
  have hstore : (ask l now q y).2.store = x.store := hy
  rw [hask, hy] at hstore ⊢
  exact ⟨rfl, rfl, hstore⟩

/-- **What limits a plan disturbs it**, and changes no answer. -/
theorem consult_disturbed (l : Limits) (now : Moment) (ht : t.HandsOn) (x : Execution) :
    (x.consult l now t.run).1 =
      (t.run.firstFailure (x.store.committed.answer now) (disturbance l now) x).elim
        (t.eval (x.store.committed.answer now)) fun f => .error f.fault :=
  consult_eq_disturbed (fun s => s.committed.answer now) _ (ask_eq_disturbed l now) ht

/-- Without a cancellation, a question is interrupted by time alone. -/
theorem timeout_of_interruption (hnow : l.cancelled = false) (hlater : l.cancelAt = none)
    {q : Query} {y : Execution} {f : Failure} (h : (interruption l now q y).1 = some f) :
    ¬ y.store.Prompt ∧ ∃ operation, f.fault = .timeout operation := by
  have hending : Failure.ofEnding q.label
      (l.ending y.clock (y.store.queryWork now q).duration).1 = some f := h
  cases he : (l.ending y.clock (y.store.queryWork now q).duration).1 with
  | finished =>
    rw [he] at hending
    cases hending
  | cancelled => exact absurd he (Limits.ending_ne_cancelled hnow hlater _ _)
  | timedOut =>
    refine ⟨fun hprompt => ?_, q.label, ?_⟩
    · rw [Store.duration_of_prompt hprompt, Limits.ending_at_once hnow] at he
      cases he
    · rw [he] at hending
      cases hending
      rfl

/-- **A plan that is not cancelled** comes to what it makes of reading the store, or runs out of
time; a store that answers at once leaves it all the time. -/
theorem consult_cases (hnow : l.cancelled = false) (hlater : l.cancelAt = none) (ht : t.HandsOn)
    (x : Execution) : (x.consult l now t.run).1 = t.eval (x.store.read now) ∨
      ¬ x.store.Prompt ∧ ∃ operation, (x.consult l now t.run).1 = .error (.timeout operation) := by
  have hconsult := consult_eq_disturbed (x := x) (fun s => s.read now) _
    (ask_eq_interrupted l now) ht
  cases hfirst : t.run.firstFailure (x.store.read now) (interruption l now) x with
  | none =>
    rw [hfirst] at hconsult
    exact .inl hconsult
  | some f =>
    rw [hfirst] at hconsult
    obtain ⟨q, y, hy, hf⟩ := Plan.exists_of_firstFailure (I := fun y => y.store = x.store)
      (fun _ _ hy => hy) rfl hfirst
    obtain ⟨hprompt, operation, hfault⟩ := timeout_of_interruption hnow hlater hf
    rw [hy] at hprompt
    exact .inr ⟨hprompt, operation, hconsult.trans (by rw [← hfault]; rfl)⟩

end Execution

end TenantGuard
