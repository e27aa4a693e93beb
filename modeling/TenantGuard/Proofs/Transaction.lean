import TenantGuard.Proofs.Execution

/-!
# All of a transaction or nothing of it

The body of a transaction has an effect on the contents of the store, which it would have if nothing
ever disturbed it.  A transaction has that effect, or none.

* `Change.effect` is the effect of a body, with one law for each way to build a body;
* `Store.run_hidden`: while a body runs, its effect is on the copy alone;
* `Store.transactAt_cases`: a transaction whose body catches no fault comes to a result together
  with the whole effect, or fails and leaves the store as it was;
* `Store.transactAt_eq_effect`: if nothing disturbs it, it comes to what its effect says.
-/

namespace TenantGuard

open Store (State Operation)

namespace Change

variable {α β : Type}

/-! ## The effect of a body -/

/-- Applies operations to the contents themselves. -/
def direct (now : Moment) : Plan.Oracle Operation Operation.Answer State := fun op s =>
  match op.apply now s with
  | .ok (a, s') => (.ok a, s')
  | .error e => (.error e, s)

/-- **The effect of a body**: its result and what becomes of the contents. -/
def effect (now : Moment) (body : Change α) (s : State) : Except Fault (α × State) :=
  match body.run.run (direct now) s with
  | (.ok a, _, s') => .ok (a, s')
  | (.error e, _, _) => .error e

variable {now : Moment} {s : State}

@[simp] theorem effect_pure (a : α) : effect now (pure a) s = .ok (a, s) := rfl

@[simp] theorem effect_throw (e : Fault) : effect now (throw e : Change α) s = .error e := rfl

@[simp] theorem effect_ask (op : Operation) :
    effect now (Procedure.ask op) s = op.apply now s := by
  have hrun : (Procedure.ask op : Change op.Answer).run.run (direct now) s =
      ((direct now op s).1, [], (direct now op s).2) := rfl
  rw [effect, hrun]
  unfold direct
  rcases op.apply now s with e | ⟨a, s'⟩ <;> rfl

/-- An operation of a body is applied to the contents. -/
theorem apply_of_effect {op : Operation} {a : op.Answer} {s' : State}
    (h : effect now (Procedure.ask op) s = .ok (a, s')) : op.apply now s = .ok (a, s') := by
  rw [← effect_ask]
  exact h

@[simp] theorem effect_bind (t : Change α) (f : α → Change β) :
    effect now (t >>= f) s = (effect now t s).bind fun r => effect now (f r.1) r.2 := by
  have hrun : (t >>= f).run.run (direct now) s =
      ((t.run.bind (ExceptT.bindCont f)).run (direct now) s) := rfl
  rw [effect, hrun, Plan.run_bind, effect]
  rcases t.run.run (direct now) s with ⟨e | a, es, s'⟩
  · rfl
  · change _ = effect now (f a) s'
    have hf : (f a).run.run (direct now) s' = Plan.run (direct now) (f a) s' := rfl
    simp only [effect, ExceptT.bindCont, hf]
    rcases Plan.run (direct now) (f a) s' with ⟨e | b, es', s''⟩ <;> rfl

/-- A body goes on from where its first part came to. -/
theorem effect_bind_of_ok {t : Change α} {f : α → Change β} {a : α} {mid : State}
    (h : effect now t s = .ok (a, mid)) : effect now (t >>= f) s = effect now (f a) mid := by
  rw [effect_bind, h]
  rfl

/-- A body ends with its first part when that fails. -/
theorem effect_bind_of_error {t : Change α} {f : α → Change β} {e : Fault}
    (h : effect now t s = .error e) : effect now (t >>= f) s = .error e := by
  rw [effect_bind, h]
  rfl

/-- A body came to a result when each of its parts did. -/
theorem effect_bind_eq_ok {t : Change α} {f : α → Change β} {b : β} {s' : State}
    (h : effect now (t >>= f) s = .ok (b, s')) :
    ∃ a mid, effect now t s = .ok (a, mid) ∧ effect now (f a) mid = .ok (b, s') := by
  rw [effect_bind] at h
  obtain ⟨⟨a, mid⟩, ht, hf⟩ := bind_eq_ok.1 h
  exact ⟨a, mid, ht, hf⟩

end Change

namespace Store

variable {α τ : Type}

/-! ## All or nothing -/

/-- An operation that is answered alters the copy as it would alter the contents. -/
theorem performAt_direct {pace : Pace τ} {now : Moment} {op : Operation} {y : Store × τ}
    {a : op.Answer} (hok : (performAt pace now op y).1 = .ok a) {s : Store} {w : State}
    (hy : y.1 = { s with working := some w }) :
    (performAt pace now op y).1 = (Change.direct now op w).1 ∧
      (performAt pace now op y).2.1 = { s with working := some (Change.direct now op w).2 } := by
  rcases performAt_cases pace now y op with ⟨b, w', hop, hb, hs⟩ | ⟨e, he, -⟩
  · have happly : op.apply now w = .ok (b, w') := by
      rw [applied, hy] at hop
      cases hg : Store.guardPoint? { s with working := some w } op.failPoint? with
      | error e => simp [hg, bind, Except.bind] at hop
      | ok u => simpa [hg, bind, Except.bind] using hop
    have hdirect : Change.direct now op w = (.ok b, w') := by
      rw [Change.direct, happly]
    rw [hdirect, hb, hs, hy]
    exact ⟨rfl, rfl⟩
  · rw [he] at hok
    cases hok

/-- A body that came to a result has had its whole effect on the copy. -/
theorem run_of_ok {pace : Pace τ} {now : Moment} {body : Change α} (hbody : body.FailsFast)
    {x : Store × τ} {s : Store} {w : State} (hx : x.1 = { s with working := some w }) {a : α}
    (h : (body.run.run (performAt pace now) x).1 = .ok a) :
    ∃ w', Change.effect now body w = .ok (a, w') ∧
      (body.run.run (performAt pace now) x).2.2.1 = { s with working := some w' } := by
  obtain ⟨hresult, hcopy⟩ :=
    Plan.run_simulates (R := fun y w => y.1 = { s with working := some w })
      (fun op y w ⟨_, hok⟩ hy => performAt_direct hok hy) body.run
      (Plan.answered_of_failsFast hbody h) hx
  refine ⟨_, ?_, hcopy⟩
  unfold Change.effect
  rw [h] at hresult
  rcases hrun : body.run.run (Change.direct now) w with ⟨r, es, w'⟩
  rw [hrun] at hresult
  cases hresult
  rfl

/-- A body leaves everything but the copy alone. -/
theorem run_frame (pace : Pace τ) (now : Moment) (body : Change α) (x : Store × τ) :
    (body.run.run (performAt pace now) x).2.2.1.rollback = x.1.rollback := by
  refine Plan.run_invariant (I := fun y : Store × τ => y.1.rollback = x.1.rollback) ?_ body.run rfl
  intro op y hy
  rcases performAt_cases pace now y op with ⟨a, w, -, -, hs⟩ | ⟨e, -, hs⟩
  · rw [hs]
    exact hy
  · rw [hs]
    exact hy

/-- **Nobody sees a part of a transaction**: while its body runs, the store is locked and its
contents are those it began with. -/
theorem run_hidden (pace : Pace τ) (now : Moment) (body : Change α) {x : Store × τ}
    (hlock : x.1.isLocked = true) :
    body.run.Throughout (performAt pace now)
      (fun _ y => y.1.isLocked = true ∧ y.1.committed = x.1.committed) x := by
  refine Plan.throughout_of_invariant
    (I := fun y : Store × τ => y.1.isLocked = true ∧ y.1.committed = x.1.committed)
    (fun op y hy => ⟨hy, ?_⟩) body.run ⟨hlock, rfl⟩
  rcases performAt_cases pace now y op with ⟨a, w, -, -, hs⟩ | ⟨e, -, hs⟩
  · rw [hs]
    exact ⟨rfl, hy.2⟩
  · rw [hs]
    exact hy

/-- **All or nothing.**  A transaction comes to a result together with its whole effect, or fails
and leaves the store as it was. -/
theorem transactAt_cases (pace : Pace τ) (now : Moment) {body : Change α}
    (hbody : body.FailsFast) (x : Store × τ) :
    (∃ a s, (transactAt pace now body x).1 = .ok a ∧ x.1.working = none ∧
      Change.effect now body x.1.committed = .ok (a, s) ∧
      (transactAt pace now body x).2.1 = { x.1 with committed := s }) ∨
    ∃ e, (transactAt pace now body x).1 = .error e ∧ (transactAt pace now body x).2.1 = x.1 := by
  unfold transactAt
  split
  next e t _ => exact .inr ⟨e, rfl, rfl⟩
  next t hbegin =>
  have hfree : x.1.working = none := by
    simpa [isLocked] using isLocked_of_begin hbegin
  have hback : x.1.rollback = x.1 := by rw [rollback, ← hfree]
  have hframe := run_frame pace now body ({ x.1 with working := some x.1.committed }, t)
  split
  next e es y hrun =>
    rw [hrun] at hframe
    exact .inr ⟨e, rfl, hframe.trans hback⟩
  next a es y hrun =>
    have hresult : (body.run.run (performAt pace now)
        ({ x.1 with working := some x.1.committed }, t)).1 = .ok a := by rw [hrun]
    obtain ⟨s, heffect, hcopy⟩ := run_of_ok hbody rfl hresult
    rw [hrun] at hcopy hframe
    rcases commitAt_cases pace y with ⟨hc, hguard, hs⟩ | ⟨e, hc, hs⟩
    · have hcommit : y.1.commit.2 = { x.1 with committed := s } := by
        rw [Store.commit, hguard, hcopy, ← hfree]
        rfl
      split
      next y' hy =>
        rw [hy] at hs
        exact .inl ⟨a, s, rfl, hfree, heffect, hs.trans hcommit⟩
      next e y' hy => simp [hy] at hc
    · split
      next y' hy => simp [hy] at hc
      next e' y' hy =>
        rw [hy] at hs
        exact .inr ⟨e', rfl, hs.trans (hframe.trans hback)⟩

/-! ## Nothing disturbs -/

/-- Where no point is armed, an operation alters the copy as it would alter the contents. -/
theorem perform_direct {s : Store} (hcalm : s.failing = []) (now : Moment) (op : Operation)
    (w : State) :
    (({ s with working := some w } : Store).perform now op).1 = (Change.direct now op w).1 ∧
      (({ s with working := some w } : Store).perform now op).2 =
        { s with working := some (Change.direct now op w).2 } := by
  have happlied : ({ s with working := some w } : Store).applied now op = op.apply now w :=
    applied_of_open rfl (by simp [hcalm])
  unfold perform Change.direct
  rw [happlied]
  rcases op.apply now w with e | ⟨a, w'⟩
  · exact ⟨rfl, rfl⟩
  · exact ⟨rfl, rfl⟩

/-- **An undisturbed transaction** comes to what the effect of its body says. -/
theorem transactAt_eq_effect {pace : Pace τ} (now : Moment) (body : Change α) {x : Store × τ}
    (hfin : ∀ t d, (pace.ending t (some d)).1 = .finished) (hfree : x.1.working = none)
    (hcalm : x.1.failing = []) :
    (transactAt pace now body x).1 = (Change.effect now body x.1.committed).map Prod.fst := by
  have hbegin : (pace.outcome "begin" x.2 x.1.beginWork).1 = .ok () := by
    have hwork : x.1.beginWork = ⟨some x.1.latency, .ok ()⟩ := by
      simp [beginWork, behindLock, isLocked, hfree]
    rw [hwork]
    exact pace.outcome_of_finished (hfin _ _)
  unfold transactAt
  split
  next e t hout => simp [hout] at hbegin
  next t hout =>
  obtain ⟨hresult, hcopy⟩ := Plan.run_simulates_of_forall
    (R := fun (y : Store × τ) w => y.1 = { x.1 with working := some w })
    (fun op y w hy => by
      obtain ⟨ha, hs⟩ := performAt_of_finished (x := y) op (hfin _ _)
      rw [ha, hs, hy]
      exact perform_direct hcalm now op w)
    body.run (s := ({ x.1 with working := some x.1.committed }, t)) rfl
  unfold Change.effect
  rcases hrun : body.run.run (Change.direct now) x.1.committed with ⟨e | a, es, s⟩
  · split
    next e' es' y hbody =>
      rw [hbody, hrun] at hresult
      cases hresult
      rfl
    next a es' y hbody =>
      rw [hbody, hrun] at hresult
      cases hresult
  · split
    next e es' y hbody =>
      rw [hbody, hrun] at hresult
      cases hresult
    next b es' y hbody =>
      rw [hbody, hrun] at hresult hcopy
      cases hresult
      have hcommit : (commitAt pace y).1 = .ok () := by
        rw [(commitAt_of_finished (hfin _ _)).1, hcopy, commit]
        rw [guardPoint_of_not_mem (by simp [hcalm])]
      split
      next y' hy => rfl
      next e y' hy => simp [hy] at hcommit

end Store

end TenantGuard
