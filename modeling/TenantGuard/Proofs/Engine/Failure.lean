import TenantGuard.Proofs.Disturbance
import TenantGuard.Proofs.Engine.Enforcement
import TenantGuard.Proofs.Proxy.Confinement

/-!
# Failures never flip a decision

Whatever is asked of the engine, a question to the store that fails, times out or is cancelled makes
the engine fail in the same way, or is not reached at all.

* a `Judgement` is something that is asked of the engine;
* `Judgement.handsOn`: the engine catches faults only to note them and to tell unknown scopes from
  failures;
* `failures_never_flip`: it comes to its undisturbed result or to the first failure, and a request
  goes through the proxy only with an undisturbed yes.
-/

namespace TenantGuard

open Procedure (FailsFast failsFast_pure failsFast_ask HandsOn handsOn_pure handsOn_throw
  handsOn_note eval)
open Store (State Query)
open Plan (disturbed firstFailure)
open Http (Request Transport)

namespace Engine

/-! ## What is asked of the engine -/

/-- **What can be asked of the engine.** -/
inductive Judgement where
  | check (user : String) (a : Action) (scope : Scope)
  | list (user : String) (scope : Scope)
  | enforce (user : String) (a : Action) (scope : Scope)
  | filterPermitted (user : String) (a : Action) (scopes : List Scope)

namespace Judgement

/-- What the engine answers. -/
def Answer : Judgement → Type
  | check _ _ _ => Bool
  | list _ _ => List Action
  | enforce _ _ _ => Unit
  | filterPermitted _ _ _ => List Scope

/-- How the engine comes to its answer. -/
def procedure : (j : Judgement) → Inquiry j.Answer
  | check user a scope => Engine.check user a scope
  | list user scope => Engine.list user scope
  | enforce user a scope => Engine.enforce user a scope
  | filterPermitted user a scopes => Engine.filterPermitted user a scopes

end Judgement

/-! ## Collecting ends with the first fault -/

theorem failsFast_collectRows : ∀ (rows : List Assignment) (found : List Action),
    FailsFast (collectRows found rows)
  | [], _ => failsFast_pure _
  | _ :: rows, _ => (failsFast_ask _).bind fun _ => failsFast_collectRows rows _

theorem failsFast_collectLevels (user : String) : ∀ (levels : List Scope) (found : List Action),
    FailsFast (collectLevels user found levels)
  | [], _ => failsFast_pure _
  | level :: levels, found => by
    refine (failsFast_ask _).bind fun rows => ?_
    refine (failsFast_collectRows rows found).bind fun found => ?_
    split
    · exact failsFast_pure _
    · exact failsFast_collectLevels user levels found

theorem failsFast_list (user : String) (scope : Scope) : FailsFast (list user scope) :=
  (failsFast_effectiveScopes scope).bind fun levels =>
    (failsFast_collectLevels user levels []).bind fun _ => failsFast_pure _

/-! ## What is caught is handed on -/

theorem handsOn_check (user : String) (a : Action) (scope : Scope) :
    HandsOn (check user a scope) := by
  refine (failsFast_findGrant user a scope).handsOn.attempt_bind (fun f => rfl) fun found =>
    (handsOn_note _).bind fun _ => ?_
  cases found with
  | ok g => exact handsOn_pure _
  | error e => exact handsOn_throw e

theorem handsOn_enforce (user : String) (a : Action) (scope : Scope) :
    HandsOn (enforce user a scope) := by
  refine (handsOn_check user a scope).attempt_bind (fun f => ?_) fun r => ?_
  · simp only [f.notAnswer]
    rfl
  · split
    · exact handsOn_pure _
    · exact handsOn_throw _
    · exact handsOn_throw _

theorem handsOn_filterPermitted (user : String) (a : Action) :
    ∀ scopes : List Scope, HandsOn (filterPermitted user a scopes)
  | [] => handsOn_pure _
  | s :: scopes => by
    have hrest (keep : Bool) : HandsOn (do
        let rest ← filterPermitted user a scopes
        return if keep then s :: rest else rest) :=
      (handsOn_filterPermitted user a scopes).bind fun _ => handsOn_pure _
    refine (handsOn_check user a s).attempt_bind (fun f => ?_) fun r => ?_
    · simp only [f.notAnswer]
      rfl
    · split
      next allowed => exact (handsOn_pure allowed).bind hrest
      next e =>
        split
        · exact (handsOn_pure false).bind hrest
        · exact (handsOn_throw e).bind hrest

/-- **The engine hands failures on.** -/
theorem Judgement.handsOn : (j : Judgement) → HandsOn j.procedure
  | check user a scope => handsOn_check user a scope
  | list user scope => (failsFast_list user scope).handsOn
  | enforce user a scope => handsOn_enforce user a scope
  | filterPermitted user a scopes => handsOn_filterPermitted user a scopes

/-! ## What a disturbed engine comes to -/

variable {σ : Type}

/-- **A disturbed engine** comes to its undisturbed result or to the first failure that it met. -/
theorem Judgement.run_disturbed (truth : (q : Query) → Except Fault q.Answer)
    (d : Disturbance Query σ) (j : Judgement) (x : σ) :
    (j.procedure.run.run (disturbed truth d) x).1 =
      (firstFailure truth d j.procedure.run x).elim (eval truth j.procedure)
        fun f => .error f.fault :=
  Procedure.fst_run_disturbed truth d j.handsOn x

/-- So does the engine under limits, whatever the store's delay, lock and fail points. -/
theorem Judgement.consult_disturbed (l : Limits) (now : Moment) (j : Judgement) (x : Execution) :
    (x.consult l now j.procedure.run).1 =
      (firstFailure (x.store.committed.answer now) (Execution.disturbance l now)
        j.procedure.run x).elim (eval (x.store.committed.answer now) j.procedure)
        fun f => .error f.fault :=
  Execution.consult_disturbed l now j.handsOn x

end Engine

namespace Proxy

open Engine (check handsOn_check)

variable {σ : Type}

/-- Whatever a proxy sends was checked. -/
theorem check_of_sent {p : Proxy} {store : Plan.Oracle Query Query.Answer σ}
    {transport : Transport} {now : Moment} {caller : Option Identity} {r : Request} {x : σ}
    {out : Http.Outbound} (h : (p.handleWith store transport now caller r x).sent = some out) :
    ∃ c t, caller = some c ∧ TenantPath.parse (p.belowMount r.path) = .ok t ∧
      ((check c.userId .read t.scope).run.run store x).1 = .ok true := by
  rw [handleWith_sent, toOption_eq_some_iff] at h
  obtain ⟨c, t, hc, ht, hcheck, -⟩ := prepareWith_ok_iff.1 h
  exact ⟨c, t, hc, ht, hcheck⟩

/-- **What a disturbed proxy sends** is allowed, and was decided without any failure. -/
theorem allowed_of_sent_disturbed {truth : (q : Query) → Except Fault q.Answer}
    {d : Disturbance Query σ} {p : Proxy} {transport : Transport} {now : Moment}
    {caller : Option Identity} {r : Request} {x : σ} {out : Http.Outbound}
    (h : (p.handleWith (disturbed truth d) transport now caller r x).sent = some out) :
    ∃ c t, caller = some c ∧ TenantPath.parse (p.belowMount r.path) = .ok t ∧
      firstFailure truth d (check c.userId .read t.scope).run x = none ∧
      eval truth (check c.userId .read t.scope) = .ok true := by
  obtain ⟨c, t, hc, ht, hcheck⟩ := check_of_sent h
  rw [Procedure.fst_run_disturbed truth d (handsOn_check c.userId .read t.scope)] at hcheck
  exact ⟨c, t, hc, ht, Failure.elim_eq_ok_iff.1 hcheck⟩

/-- So is what a proxy sends within the limits of its check. -/
theorem allowed_of_sent {p : Proxy} {transport : Transport} {now : Moment}
    {caller : Option Identity} {r : Request} {x : Execution} {out : Http.Outbound}
    (h : (p.handle transport now caller r x).sent = some out) :
    ∃ c t, caller = some c ∧ TenantPath.parse (p.belowMount r.path) = .ok t ∧
      firstFailure (x.store.committed.answer now) (Execution.disturbance (p.limitsFrom x.clock) now)
        (check c.userId .read t.scope).run x = none ∧
      eval (x.store.committed.answer now) (check c.userId .read t.scope) = .ok true := by
  obtain ⟨c, t, hc, ht, hcheck⟩ := check_of_sent h
  have hconsult := Execution.consult_disturbed (p.limitsFrom x.clock) now
    (handsOn_check c.userId .read t.scope) x
  rw [Execution.consult, hcheck] at hconsult
  exact ⟨c, t, hc, ht, Failure.elim_eq_ok_iff.1 hconsult.symm⟩

end Proxy

namespace Engine

/-- **Failures never flip a decision.**  Whichever questions fail, time out or are cancelled, the
engine comes to its undisturbed result or to the first failure that it met; limits, delays and fail
points do nothing else.  A proxy sends nothing that was not allowed without any failure. -/
theorem failures_never_flip :
    (∀ (σ : Type) (truth : (q : Query) → Except Fault q.Answer) (d : Disturbance Query σ)
      (j : Judgement) (x : σ),
      (j.procedure.run.run (disturbed truth d) x).1 =
        (firstFailure truth d j.procedure.run x).elim (eval truth j.procedure)
          fun f => .error f.fault) ∧
    (∀ (l : Limits) (now : Moment) (j : Judgement) (x : Execution),
      (x.consult l now j.procedure.run).1 =
        (firstFailure (x.store.committed.answer now) (Execution.disturbance l now)
          j.procedure.run x).elim (eval (x.store.committed.answer now) j.procedure)
          fun f => .error f.fault) ∧
    (∀ (σ : Type) (truth : (q : Query) → Except Fault q.Answer) (d : Disturbance Query σ)
      (p : Proxy) (transport : Transport) (now : Moment) (caller : Option Identity) (r : Request)
      (x : σ), ∀ out ∈ (p.handleWith (disturbed truth d) transport now caller r x).sent,
      ∃ c t, caller = some c ∧ TenantPath.parse (p.belowMount r.path) = .ok t ∧
        firstFailure truth d (check c.userId .read t.scope).run x = none ∧
        eval truth (check c.userId .read t.scope) = .ok true) ∧
    ∀ (p : Proxy) (transport : Transport) (now : Moment) (caller : Option Identity) (r : Request)
      (x : Execution), ∀ out ∈ (p.handle transport now caller r x).sent,
      ∃ c t, caller = some c ∧ TenantPath.parse (p.belowMount r.path) = .ok t ∧
        firstFailure (x.store.committed.answer now)
          (Execution.disturbance (p.limitsFrom x.clock) now)
          (check c.userId .read t.scope).run x = none ∧
        eval (x.store.committed.answer now) (check c.userId .read t.scope) = .ok true :=
  ⟨fun _ truth d j x => j.run_disturbed truth d x, fun l now j x => j.consult_disturbed l now x,
    fun _ _ _ _ _ _ _ _ _ _ h => Proxy.allowed_of_sent_disturbed h,
    fun _ _ _ _ _ _ _ h => Proxy.allowed_of_sent h⟩

end Engine

end TenantGuard
