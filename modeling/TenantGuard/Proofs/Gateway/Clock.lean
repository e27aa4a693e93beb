import TenantGuard.Proofs.Gateway

/-!
# The clock of a server

Time goes on while a request is handled, and never back.

* `Limits.le_ending`: no step ends before it starts, unless a cancellation is to come;
* `Pace.Forward` paces hand that on to questions, transactions and tasks;
* `le_clock_serve` and `logins_serve`: what a target does to the clock, and that it leaves the
  remembered logins alone.
-/

namespace TenantGuard

open Store (Query Operation)

/-! ## Steps -/

/-- **No step ends before it starts**, where no cancellation is to come. -/
theorem Limits.le_ending {l : Limits} (hl : l.cancelAt = none) (start : Instant)
    (duration : Option Nat) : start ≤ (l.ending start duration).2 := by
  unfold Limits.ending
  simp only [hl]
  split
  · exact Nat.le_refl start
  split
  · exact Nat.le_refl start
  split
  next hbefore => simp [Instant.before] at hbefore
  split
  · cases duration with
    | none => exact Nat.le_refl start
    | some n => exact Nat.le_add_right start n
  · cases l.deadline with
    | none => exact Nat.le_refl start
    | some d => exact Nat.le_max_left start d

/-- **A pace that never goes back in time.** -/
def Pace.Forward (pace : Pace Instant) : Prop := ∀ t d, t ≤ (pace.ending t d).2

theorem Limits.forward_pace {l : Limits} (hl : l.cancelAt = none) : l.pace.Forward :=
  Limits.le_ending hl

namespace Store

variable {α : Type} {pace : Pace Instant} {now : Moment}

theorem le_performAt (hpace : pace.Forward) (op : Operation) (x : Store × Instant) :
    x.2 ≤ (performAt pace now op x).2.2 := by
  have hle : x.2 ≤ (pace.outcome op.label x.2 (x.1.operationWork now op)).2 := hpace _ _
  unfold performAt
  split
  next heq =>
    rw [heq] at hle
    exact hle
  next heq =>
    rw [heq] at hle
    exact hle

theorem le_commitAt (hpace : pace.Forward) (x : Store × Instant) :
    x.2 ≤ (commitAt pace x).2.2 := by
  have hle : x.2 ≤ (pace.outcome "commit" x.2 x.1.commitWork).2 := hpace _ _
  unfold commitAt
  split
  next heq =>
    rw [heq] at hle
    exact hle
  next heq =>
    rw [heq] at hle
    exact hle

/-- **A transaction takes its time**, whether it is committed or given up. -/
theorem le_transactAt (hpace : pace.Forward) (body : Change α) (x : Store × Instant) :
    x.2 ≤ (transactAt pace now body x).2.2 := by
  have hbegin : x.2 ≤ (pace.outcome "begin" x.2 x.1.beginWork).2 := hpace _ _
  unfold transactAt
  split
  next heq =>
    rw [heq] at hbegin
    exact hbegin
  next t heq =>
    rw [heq] at hbegin
    have hstep : ∀ op (y : Store × Instant), x.2 ≤ y.2 → x.2 ≤ (performAt pace now op y).2.2 :=
      fun op y hy => Nat.le_trans hy (le_performAt hpace op y)
    have hbody := Plan.run_invariant hstep body.run
      (s := ({ x.1 with working := some x.1.committed }, t)) hbegin
    split
    next hrun =>
      rw [hrun] at hbody
      exact hbody
    next y hrun =>
      rw [hrun] at hbody
      have hcommit := Nat.le_trans hbody (le_commitAt hpace y)
      split
      next hcommitted =>
        rw [hcommitted] at hcommit
        exact hcommit
      next hcommitted =>
        rw [hcommitted] at hcommit
        exact hcommit

end Store

namespace Execution

variable {α : Type} {l : Limits} {now : Moment}

theorem le_clock_ask (hl : l.cancelAt = none) (q : Query) (x : Execution) :
    x.clock ≤ (ask l now q x).2.clock :=
  Limits.le_ending hl _ _

theorem le_clock_consult (hl : l.cancelAt = none) (plan : Plan Query Query.Answer α)
    (x : Execution) : x.clock ≤ (x.consult l now plan).2.2.clock :=
  Plan.run_invariant (I := fun y : Execution => x.clock ≤ y.clock)
    (fun q y hy => Nat.le_trans hy (le_clock_ask hl q y)) plan (Nat.le_refl _)

theorem le_clock_transact (hl : l.cancelAt = none) (body : Change α) (x : Execution) :
    x.clock ≤ (x.transact l now body).2.clock :=
  Store.le_transactAt (Limits.forward_pace hl) body (x.store, x.clock)

theorem le_clock_transactIfValid (hl : l.cancelAt = none) (body : Except Fault (Change α))
    (x : Execution) : x.clock ≤ (x.transactIfValid l now body).2.clock := by
  cases body with
  | error e => exact Nat.le_refl _
  | ok body => exact le_clock_transact hl body x

end Execution

/-! ## Tasks -/

namespace Api.Task

variable {α β : Type} {l : Limits} {now : Moment}

/-- **A task that takes its time.** -/
def Forward (t : Task α) : Prop :=
  ∀ s, s.execution.clock ≤ (t.run s).2.execution.clock

theorem forward_pure (a : α) : Forward (pure a : Task α) := fun _ => Nat.le_refl _

theorem forward_ofExcept (r : Except Fault α) : Forward (ofExcept r) := fun _ => Nat.le_refl _

theorem forward_inquire (hl : l.cancelAt = none) (plan : Inquiry α) :
    Forward (inquire l now plan) := fun s => Execution.le_clock_consult hl plan.run s.execution

theorem forward_change (hl : l.cancelAt = none) (body : Except Fault (Change α)) :
    Forward (change l now body) := fun s => Execution.le_clock_transactIfValid hl body s.execution

theorem Forward.bind {t : Task α} {f : α → Task β} (ht : t.Forward) (hf : ∀ a, (f a).Forward) :
    (t >>= f).Forward := by
  intro s
  have hs := ht s
  rw [run_bind]
  generalize t.run s = out at hs
  rcases out with ⟨e | a, s'⟩
  · exact hs
  · exact Nat.le_trans hs (hf a s')

end Api.Task

namespace Api

open Administration (Stamp)

variable {l : Limits}

theorem forward_requireScope (hl : l.cancelAt = none) (now : Moment) (caller : Identity)
    (a : Action) (n : ScopeName) : (requireScope l now caller a n).Forward :=
  (Task.forward_ofExcept _).bind fun _ => (Task.forward_inquire hl _).bind fun _ =>
    Task.forward_pure _

theorem forward_performWithin (hl : l.cancelAt = none) (stamp : Stamp) (caller : Identity)
    (call : Call) : (performWithin l stamp caller call).Forward := by
  have hreply : ∀ {α : Type} (t : Task α) (reply : α → Reply), t.Forward →
      (t >>= fun a => pure (reply a)).Forward :=
    fun t reply ht => ht.bind fun a => Task.forward_pure (reply a)
  cases call with
  | whoami => exact hreply _ _ (Task.forward_inquire hl _)
  | authorize a names =>
    exact (Task.forward_ofExcept _).bind fun _ => hreply _ _ (Task.forward_inquire hl _)
  | createOrganization name => exact hreply _ _ (Task.forward_change hl _)
  | createProject organizationId name description =>
    exact (forward_requireScope hl _ _ _ _).bind fun _ => hreply _ _ (Task.forward_change hl _)
  | createResource projectId name kind =>
    exact (forward_requireScope hl _ _ _ _).bind fun _ => hreply _ _ (Task.forward_change hl _)
  | listPermissions n =>
    exact (Task.forward_ofExcept _).bind fun scope =>
      hreply _ (Reply.permissions scope) (Task.forward_inquire hl _)
  | listAssignments n =>
    exact (forward_requireScope hl _ _ _ _).bind fun _ => hreply _ _ (Task.forward_inquire hl _)
  | assignRole n userId roleName expiresAt =>
    exact (forward_requireScope hl _ _ _ _).bind fun _ => hreply _ _ (Task.forward_change hl _)
  | revokeRole n userId roleName =>
    exact (forward_requireScope hl _ _ _ _).bind fun _ => hreply _ _ (Task.forward_change hl _)

end Api

/-! ## Requests -/

namespace Gateway

open Administration (Stamp)
open Http (Request Transport)

/-- The reading of the server's clock. -/
def State.clock (s : Gateway.State) : Instant := s.ledger.execution.clock

theorem le_clock_serveApi (stamp : Stamp) (caller : Option Identity) (place : Api.Place)
    (r : Request) (l : Api.Ledger) :
    l.execution.clock ≤ (serveApi stamp caller place r l).2.execution.clock := by
  unfold serveApi
  split
  · exact Nat.le_refl _
  next caller =>
  split
  · exact Nat.le_refl _
  next call _ =>
  have hcall := Api.forward_performWithin (l := Api.limitsFrom l.execution.clock) rfl stamp caller
    call l
  rw [← Api.run_perform] at hcall
  split
  next heq =>
    rw [heq] at hcall
    exact hcall
  next heq =>
    rw [heq] at hcall
    exact hcall

theorem le_clock_proxy (p : Proxy) (transport : Transport) (now : Moment)
    (caller : Option Identity) (r : Request) (x : Execution) :
    x.clock ≤ (p.handle transport now caller r x).state.clock := by
  have hprepare : x.clock ≤
      (p.prepareWith (Execution.ask (p.limitsFrom x.clock) now) caller r x).2.2.clock :=
    Proxy.prepareWith_invariant (I := fun y : Execution => x.clock ≤ y.clock)
      (fun q y hy => Nat.le_trans hy (Execution.le_clock_ask rfl q y)) p caller r (Nat.le_refl _)
  unfold Proxy.handle Proxy.handleWith
  split
  next heq =>
    rw [heq] at hprepare
    exact hprepare
  next heq =>
    rw [heq] at hprepare
    split
    · exact hprepare
    · exact hprepare

theorem le_clock_serve (g : Gateway) (transport : Transport) (stamp : Stamp) (target : Target)
    (caller : Option Identity) (r : Request) (s : Gateway.State) :
    s.clock ≤ (g.serve transport stamp target caller r s).2.clock := by
  cases target with
  | api place => exact le_clock_serveApi stamp caller place r s.ledger
  | proxy p => exact le_clock_proxy p transport stamp.now caller r s.ledger.execution
  | health => exact Nat.le_refl _
  | readiness => exact Nat.le_refl _
  | metrics => exact Nat.le_refl _
  | nowhere => exact Nat.le_refl _

/-- What a target does leaves the remembered logins alone. -/
theorem logins_serve (g : Gateway) (transport : Transport) (stamp : Stamp) (target : Target)
    (caller : Option Identity) (r : Request) (s : Gateway.State) :
    (g.serve transport stamp target caller r s).2.logins = s.logins := by
  cases target <;> rfl

end Gateway

end TenantGuard
