import TenantGuard.Plan

/-!
# Runs of plans

A plan can be run against many oracles.  Here is what two of them have in common, and what the
result of a run says about the run.

* `Plan.Throughout` says something of every question of a run, in the state in which it is asked;
* `Plan.run_simulates`: two oracles that answer alike throughout a run bring about the same result;
* `Plan.FailsFast` plans end with the first fault, so when one comes to a result every question was
  answered (`Plan.answered_of_failsFast`);
* `Procedure.eval` is the result against answers that never change, with one law for each way to
  build a procedure;
* `Procedure.Yields` takes a run that comes to a result apart in the same way, step by step.
-/

namespace TenantGuard

/-- A computation came to a result when each of its parts did. -/
theorem bind_eq_ok {ε α β : Type} {x : Except ε α} {f : α → Except ε β} {b : β} :
    x >>= f = .ok b ↔ ∃ a, x = .ok a ∧ f a = .ok b := by
  cases x with
  | error e => simp [bind, Except.bind]
  | ok a => simp [bind, Except.bind]

theorem toOption_eq_some_iff {ε α : Type} {x : Except ε α} {a : α} :
    x.toOption = some a ↔ x = .ok a := by
  cases x with
  | error e => simp [Except.toOption]
  | ok b => simp [Except.toOption]

namespace Plan

variable {Q : Type} {A : Q → Type} {α β σ τ : Type}

theorem run_asking (answer : Oracle Q A σ) (q : Q) (next : Except Fault (A q) → Plan Q A α)
    (s : σ) : (asking q next).run answer s = (next (answer q s).1).run answer (answer q s).2 := rfl

/-! ## What holds throughout a run -/

/-- **A property of every question of a run**, and of the state in which it is asked. -/
def Throughout (answer : Oracle Q A σ) (P : Q → σ → Prop) : Plan Q A α → σ → Prop
  | done _, _ => True
  | noting _ next, s => next.Throughout answer P s
  | asking q next, s =>
    P q s ∧ (next (answer q s).1).Throughout answer P (answer q s).2

/-- What an invariant implies holds throughout. -/
theorem throughout_of_invariant {answer : Oracle Q A σ} {P : Q → σ → Prop} {I : σ → Prop}
    (hstep : ∀ q s, I s → P q s ∧ I (answer q s).2) (p : Plan Q A α) {s : σ} (h : I s) :
    p.Throughout answer P s := by
  induction p generalizing s with
  | done a => exact trivial
  | noting e next ih => exact ih h
  | asking q next ih =>
    obtain ⟨hP, hI⟩ := hstep q s h
    exact ⟨hP, ih _ hI⟩

/-- An invariant that every answer keeps holds behind a run. -/
theorem run_invariant {answer : Oracle Q A σ} {I : σ → Prop}
    (hstep : ∀ q s, I s → I (answer q s).2) (p : Plan Q A α) {s : σ} (h : I s) :
    I (p.run answer s).2.2 := by
  induction p generalizing s with
  | done a => exact h
  | noting e next ih => exact ih h
  | asking q next ih => exact ih _ (hstep q s h)

/-- **Oracles that answer alike** throughout a run bring about the same result. -/
theorem run_simulates {answer : Oracle Q A σ} {answer' : Oracle Q A τ} {P : Q → σ → Prop}
    {R : σ → τ → Prop}
    (hstep : ∀ q s t, P q s → R s t →
      (answer q s).1 = (answer' q t).1 ∧ R (answer q s).2 (answer' q t).2)
    (p : Plan Q A α) {s : σ} {t : τ} (hP : p.Throughout answer P s) (h : R s t) :
    (p.run answer s).1 = (p.run answer' t).1 ∧
      R (p.run answer s).2.2 (p.run answer' t).2.2 := by
  induction p generalizing s t with
  | done a => exact ⟨rfl, h⟩
  | noting e next ih => exact ih hP h
  | asking q next ih =>
    obtain ⟨ha, hR⟩ := hstep q s t hP.1 h
    have hnext := ih (answer q s).1 hP.2 hR
    rw [run_asking, run_asking, ← ha]
    exact hnext

/-- Oracles that always answer alike bring about the same result. -/
theorem run_simulates_of_forall {answer : Oracle Q A σ} {answer' : Oracle Q A τ}
    {R : σ → τ → Prop}
    (hstep : ∀ q s t, R s t →
      (answer q s).1 = (answer' q t).1 ∧ R (answer q s).2 (answer' q t).2)
    (p : Plan Q A α) {s : σ} {t : τ} (h : R s t) :
    (p.run answer s).1 = (p.run answer' t).1 ∧
      R (p.run answer s).2.2 (p.run answer' t).2.2 :=
  run_simulates (P := fun _ _ => True) (fun q s t _ hR => hstep q s t hR) p
    (throughout_of_invariant (I := fun _ => True) (fun _ _ _ => ⟨trivial, trivial⟩) p trivial) h

/-- A run of one plan and then another. -/
theorem run_bind (answer : Oracle Q A σ) (p : Plan Q A α) (f : α → Plan Q A β) (s : σ) :
    (p.bind f).run answer s =
      let (a, es, s) := p.run answer s
      let (b, es', s) := (f a).run answer s
      (b, es ++ es', s) := by
  induction p generalizing s with
  | done a => rfl
  | noting e next ih =>
    rw [bind, run, ih]
    rfl
  | asking q next ih =>
    rw [bind, run_asking, run_asking, ih]

/-! ## Plans that end with the first fault -/

/-- **A plan that ends with the first fault.** -/
def FailsFast : Plan Q A (Except Fault α) → Prop
  | done _ => True
  | noting _ next => next.FailsFast
  | asking _ next => (∀ e, next (.error e) = done (.error e)) ∧ ∀ a, (next (.ok a)).FailsFast

/-- Where such a plan comes to a result, every question was answered. -/
theorem answered_of_failsFast {answer : Oracle Q A σ} {p : Plan Q A (Except Fault α)}
    (hp : p.FailsFast) {s : σ} {a : α} (h : (p.run answer s).1 = .ok a) :
    p.Throughout answer (fun q s => ∃ b, (answer q s).1 = .ok b) s := by
  induction p generalizing s with
  | done r => exact trivial
  | noting e next ih => exact ih hp h
  | asking q next ih =>
    rw [run_asking] at h
    cases hq : (answer q s).1 with
    | error e =>
      simp only [hq, hp.1 e] at h
      cases h
    | ok b =>
      refine ⟨⟨b, hq⟩, ?_⟩
      simp only [hq] at h ⊢
      exact ih _ (hp.2 b) h

end Plan

namespace Procedure

variable {Q : Type} {A : Q → Type} {α β : Type}

/-- **The result of a procedure** against answers that never change. -/
def eval (answer : (q : Q) → Except Fault (A q)) (t : Procedure Q A α) : Except Fault α :=
  (ExceptT.run t).eval answer

variable (answer : (q : Q) → Except Fault (A q))

@[simp] theorem eval_pure (a : α) : eval answer (pure a : Procedure Q A α) = .ok a := rfl

@[simp] theorem eval_throw (e : Fault) : eval answer (throw e : Procedure Q A α) = .error e := rfl

@[simp] theorem eval_ask (q : Q) : eval answer (ask q) = answer q := rfl

@[simp] theorem eval_note (e : Telemetry.Event) :
    eval answer (note e : Procedure Q A Unit) = .ok () := rfl

@[simp] theorem eval_attempt (t : Procedure Q A α) : eval answer (attempt t) = .ok (eval answer t) :=
  Plan.eval_bind answer _ _

@[simp] theorem eval_bind (t : Procedure Q A α) (f : α → Procedure Q A β) :
    eval answer (t >>= f) = (eval answer t).bind fun a => eval answer (f a) := by
  refine (Plan.eval_bind answer (ExceptT.run t) (ExceptT.bindCont f)).trans ?_
  change _ = (Plan.eval answer (ExceptT.run t)).bind _
  cases Plan.eval answer (ExceptT.run t) with
  | error e => rfl
  | ok a => rfl

end Procedure

namespace Procedure

variable {Q : Type} {A : Q → Type} {α β σ : Type}

/-! ## Results of runs -/

/-- **The result of a run** of one procedure and then another: that of the first one if it fails,
and else that of the second one in the state behind the first. -/
theorem fst_run_bind (answer : Plan.Oracle Q A σ) (t : Procedure Q A α)
    (f : α → Procedure Q A β) (s : σ) :
    ((t >>= f).run.run answer s).1 =
      (t.run.run answer s).1.bind fun a => ((f a).run.run answer (t.run.run answer s).2.2).1 := by
  have hrun : (t >>= f).run.run answer s =
      (t.run.bind (ExceptT.bindCont f)).run answer s := rfl
  rw [hrun, Plan.run_bind]
  rcases t.run.run answer s with ⟨e | a, es, s'⟩
  · rfl
  · rfl

/-- An attempt always comes to a result. -/
theorem fst_run_attempt (answer : Plan.Oracle Q A σ) (t : Procedure Q A α) (s : σ) :
    ((attempt t).run.run answer s).1 = .ok (t.run.run answer s).1 := by
  have hrun : (attempt t).run.run answer s =
      (t.run.bind fun r => .done (.ok r)).run answer s := rfl
  rw [hrun, Plan.run_bind]
  rfl

/-! ## Runs that come to a result -/

/-- **A run that comes to a result**, and the state behind it. -/
def Yields (answer : Plan.Oracle Q A σ) (t : Procedure Q A α) (s : σ) (a : α) (s' : σ) : Prop :=
  (t.run.run answer s).1 = .ok a ∧ (t.run.run answer s).2.2 = s'

section Yields

variable {answer : Plan.Oracle Q A σ} {s s' : σ}

theorem yields_pure {a b : α} :
    Yields answer (pure a : Procedure Q A α) s b s' ↔ a = b ∧ s = s' := by
  change Except.ok a = Except.ok b ∧ s = s' ↔ _
  rw [Except.ok.injEq]

theorem not_yields_throw {e : Fault} {a : α} :
    ¬ Yields answer (throw e : Procedure Q A α) s a s' := fun h => by cases h.1

theorem yields_ask {q : Q} {a : A q} :
    Yields answer (ask q) s a s' ↔ answer q s = (.ok a, s') := by
  rw [Prod.ext_iff]
  rfl

theorem yields_bind {t : Procedure Q A α} {f : α → Procedure Q A β} {b : β} :
    Yields answer (t >>= f) s b s' ↔
      ∃ a mid, Yields answer t s a mid ∧ Yields answer (f a) mid b s' := by
  have hrun : (t >>= f).run.run answer s =
      (t.run.bind (ExceptT.bindCont f)).run answer s := rfl
  unfold Yields
  rw [hrun, Plan.run_bind]
  rcases t.run.run answer s with ⟨e | a, es, mid⟩
  · constructor
    · intro h
      cases h.1
    · rintro ⟨_, _, ⟨⟨⟩, -⟩, -⟩
  · constructor
    · intro h
      exact ⟨a, mid, ⟨rfl, rfl⟩, h⟩
    · rintro ⟨_, _, ⟨⟨⟩, rfl⟩, h⟩
      exact h

/-- An attempt yields what became of it. -/
theorem yields_attempt {t : Procedure Q A α} {r : Except Fault α} :
    Yields answer (attempt t) s r s' ↔
      (t.run.run answer s).1 = r ∧ (t.run.run answer s).2.2 = s' := by
  have hrun : (attempt t).run.run answer s =
      (t.run.bind fun r => .done (.ok r)).run answer s := rfl
  unfold Yields
  rw [hrun, Plan.run_bind]
  simp [Plan.run]

theorem yields_note {e : Telemetry.Event} :
    Yields answer (note e : Procedure Q A Unit) s () s' ↔ s = s' :=
  and_iff_right rfl

end Yields
/-! ## Procedures that end with the first fault -/

/-- **A procedure that catches no fault.** -/
def FailsFast (t : Procedure Q A α) : Prop := Plan.FailsFast (ExceptT.run t)

theorem failsFast_pure (a : α) : FailsFast (pure a : Procedure Q A α) := trivial

theorem failsFast_throw (e : Fault) : FailsFast (throw e : Procedure Q A α) := trivial

/-- What would come after a fault does not matter. -/
theorem failsFast_throw_bind (e : Fault) (f : α → Procedure Q A β) :
    FailsFast ((throw e : Procedure Q A α) >>= f) := trivial

theorem failsFast_ask (q : Q) : FailsFast (ask q : Procedure Q A (A q)) :=
  ⟨fun _ => rfl, fun _ => trivial⟩

theorem FailsFast.bind {t : Procedure Q A α} {f : α → Procedure Q A β} (ht : FailsFast t)
    (hf : ∀ a, FailsFast (f a)) : FailsFast (t >>= f) := by
  change Plan.FailsFast (Plan.bind (ExceptT.run t) (ExceptT.bindCont f))
  unfold FailsFast at ht
  generalize ExceptT.run t = p at ht ⊢
  induction p with
  | done r =>
    cases r with
    | error e => exact trivial
    | ok a => exact hf a
  | noting e next ih => exact ih ht
  | asking q next ih =>
    refine ⟨fun e => ?_, fun a => ih _ (ht.2 a)⟩
    change Plan.bind (next (.error e)) _ = _
    rw [ht.1 e]
    rfl

end Procedure

end TenantGuard
