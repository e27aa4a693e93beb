import TenantGuard.Api.Perform
import TenantGuard.Proofs.Administration.Authority

/-!
# What a call does to the store

A call reads, or it asks for a permission and then runs one operation.

* `Task.Quiet` tasks leave the store as it is; all tasks that only read are quiet;
* `requireScope_cases`: who passes a requirement is allowed to by the contents of the store;
* `Outcome`: the store is as it was, or one operation succeeded that its caller may order;
* `orderly_perform`: every call comes to that.
-/

namespace TenantGuard.Api

open Store (State)
open Engine (decision)
open Administration (Command Stamp Authorized)

variable {α β : Type} {l : Limits} {now : Moment}

/-! ## Tasks -/

namespace Task

theorem run_bind (t : Task α) (f : α → Task β) (s : Ledger) : (t >>= f).run s =
    match t.run s with
    | (.ok a, s') => (f a).run s'
    | (.error e, s') => (.error e, s') := by
  change (ExceptT.bind t f).run s = _
  simp only [ExceptT.bind, ExceptT.mk, ExceptT.run, bind, StateT.bind]
  rcases t s with ⟨e | a, s'⟩
  · rfl
  · rfl

/-- **A task that leaves the store as it is.** -/
def Quiet (t : Task α) : Prop := ∀ s, (t.run s).2.execution.store = s.execution.store

theorem quiet_pure (a : α) : Quiet (pure a : Task α) := fun _ => rfl

theorem quiet_ofExcept (r : Except Fault α) : Quiet (ofExcept r) := fun _ => rfl

theorem quiet_inquire (l : Limits) (now : Moment) (plan : Inquiry α) :
    Quiet (inquire l now plan) := fun s => Execution.consult_store l now plan.run s.execution

theorem Quiet.bind {t : Task α} {f : α → Task β} (ht : t.Quiet) (hf : ∀ a, (f a).Quiet) :
    (t >>= f).Quiet := by
  intro s
  have hs := ht s
  rw [run_bind]
  generalize t.run s = out at hs
  rcases out with ⟨e | a, s'⟩
  · exact hs
  · exact (hf a s').trans hs

end Task

/-! ## Requirements -/

/-- A scope that is named by its level is at that level. -/
theorem resolve_eq_ok {t : ScopeType} {id : String} {scope : Scope}
    (h : (ScopeName.mk t.name id).resolve = .ok scope) : scope = ⟨t, id⟩ := by
  have ht : ScopeType.parse t.name = .ok t := by cases t <;> rfl
  obtain ⟨t', ht', h⟩ := bind_eq_ok.1 h
  cases ht.symm.trans ht'
  obtain ⟨_, -, h⟩ := bind_eq_ok.1 h
  cases h
  rfl

/-- **Who passes a requirement** is allowed to by the contents of the store. -/
theorem requireScope_cases (l : Limits) (now : Moment) (caller : Identity) (a : Action)
    (n : ScopeName) (s : Ledger) :
    ∃ r s', (requireScope l now caller a n).run s = (r, s') ∧
      s'.execution.store = s.execution.store ∧
      ∀ scope, r = .ok scope → n.resolve = .ok scope ∧
        decision s.execution.store.committed now caller.userId a scope = .ok true := by
  unfold requireScope
  rw [Task.run_bind]
  cases hn : n.resolve with
  | error e => exact ⟨.error e, s, rfl, rfl, nofun⟩
  | ok scope =>
    -- asking changes nothing, so the contents that the answer is about are still there afterwards
    change ∃ r s', (Task.inquire l now (Engine.enforce caller.userId a scope) >>= fun _ =>
      pure scope).run s = (r, s') ∧ _
    have hstore := Task.quiet_inquire l now (Engine.enforce caller.userId a scope) s
    have henforce : ∀ u, ((Task.inquire l now (Engine.enforce caller.userId a scope)).run s).1 =
        .ok u → decision s.execution.store.committed now caller.userId a scope = .ok true :=
      fun _ h => Engine.decision_of_enforce h
    rw [Task.run_bind]
    generalize (Task.inquire l now (Engine.enforce caller.userId a scope)).run s = out
      at hstore henforce
    rcases out with ⟨e | u, s'⟩
    · exact ⟨.error e, s', rfl, hstore, nofun⟩
    · refine ⟨.ok scope, s', rfl, hstore, fun scope' h => ?_⟩
      cases h
      exact ⟨rfl, henforce u rfl⟩

/-! ## Calls -/

/-- **What somebody's call may come to**: the store is as it was, or the call did not fail and one
operation succeeded that its caller may order. -/
inductive Outcome (stamp : Stamp) (user : String) (before : Store) (failed : Prop) :
    Store → Prop where
  | unchanged : Outcome stamp user before failed before
  | ordered {c : Command} {body : Change c.Answer} {a : c.Answer} {after : State}
    (hpermitted : c.PermittedTo before.committed stamp.now user)
    (hbody : c.body stamp = .ok body)
    (heffect : Change.effect stamp.now body before.committed = .ok (a, after))
    (hok : ¬failed) : Outcome stamp user before failed { before with committed := after }

namespace Outcome

variable {stamp : Stamp} {user : String} {before after : Store} {failed : Prop}

theorem imp {failed' : Prop} (h : Outcome stamp user before failed after)
    (himp : failed' → failed) : Outcome stamp user before failed' after := by
  cases h with
  | unchanged => exact .unchanged
  | ordered hpermitted hbody heffect hok =>
    exact .ordered hpermitted hbody heffect fun h => hok (himp h)

theorem eq_of_failed (h : Outcome stamp user before failed after) (hfailed : failed) :
    after = before := by
  cases h with
  | unchanged => rfl
  | ordered _ _ _ hok => exact absurd hfailed hok

theorem isLocked (h : Outcome stamp user before failed after) :
    after.isLocked = before.isLocked := by
  cases h with
  | unchanged => rfl
  | ordered _ _ _ _ => rfl

theorem authorized (h : Outcome stamp user before failed after) (hs : before.committed.Intact) :
    Authorized stamp user before.committed after.committed := by
  cases h with
  | unchanged => exact .refl _
  | ordered hpermitted hbody heffect _ =>
    exact Command.authorized_effect hs hpermitted hbody heffect

theorem committed_intact (h : Outcome stamp user before failed after)
    (hs : before.committed.Intact) : after.committed.Intact := by
  cases h with
  | unchanged => exact hs
  | ordered _ hbody heffect _ => exact Command.intact_effect hbody heffect hs

end Outcome

/-- **A task comes to such an outcome** when it starts from a ledger. -/
def Orderly (stamp : Stamp) (user : String) (t : Task Reply) (s : Ledger) : Prop :=
  Outcome stamp user s.execution.store (∃ e, (t.run s).1 = .error e) (t.run s).2.execution.store

variable {stamp : Stamp} {user : String}

theorem orderly_of_quiet {t : Task Reply} (ht : t.Quiet) (s : Ledger) :
    Orderly stamp user t s := by
  unfold Orderly
  rw [ht s]
  exact .unchanged

/-- **An operation that the caller may order** is ordered, or it fails and changes nothing. -/
theorem orderly_change (l : Limits) (c : Command) (reply : c.Answer → Reply) {s : Ledger}
    (h : c.PermittedTo s.execution.store.committed stamp.now user) :
    Orderly stamp user (Task.change l stamp.now (c.body stamp) >>= fun a => pure (reply a)) s := by
  have hcases := Command.transact_cases c stamp stamp.now l.pace
    (s.execution.store, s.execution.clock)
  have hrun : (Task.change l stamp.now (c.body stamp)).run s =
      ((s.execution.transactIfValid l stamp.now (c.body stamp)).1,
        { s with execution := (s.execution.transactIfValid l stamp.now (c.body stamp)).2 }) := rfl
  unfold Orderly
  rw [Task.run_bind, hrun]
  unfold Execution.transactIfValid
  rcases hcases with ⟨body, a, after, hbody, -, hok, heffect, hstore⟩ | ⟨e, herror, hstore⟩
  · simp only [hok, hstore]
    exact .ordered h hbody heffect nofun
  · simp only [herror, hstore]
    exact .unchanged

/-- What follows a requirement may rely on it. -/
theorem orderly_requireScope {caller : Identity} {a : Action} {n : ScopeName}
    {f : Scope → Task Reply}
    (hf : ∀ scope s', n.resolve = .ok scope →
      decision s'.execution.store.committed now caller.userId a scope = .ok true →
      Orderly stamp user (f scope) s') (s : Ledger) :
    Orderly stamp user (requireScope l now caller a n >>= f) s := by
  obtain ⟨r, s', hrun, hstore, hr⟩ := requireScope_cases l now caller a n s
  unfold Orderly
  rw [Task.run_bind, hrun, ← hstore]
  cases r with
  | error e => exact .unchanged
  | ok scope =>
    obtain ⟨hn, hdecision⟩ := hr scope rfl
    exact hf scope s' hn (hstore ▸ hdecision)

/-- **No call does more than one operation that its caller may order.** -/
theorem orderly_performWithin (l : Limits) (stamp : Stamp) (caller : Identity) (call : Call)
    (s : Ledger) : Orderly stamp caller.userId (performWithin l stamp caller call) s := by
  cases call with
  | whoami =>
    exact orderly_of_quiet ((Task.quiet_inquire _ _ _).bind fun _ => Task.quiet_pure _) s
  | authorize a names =>
    exact orderly_of_quiet ((Task.quiet_ofExcept _).bind fun _ =>
      (Task.quiet_inquire _ _ _).bind fun _ => Task.quiet_pure _) s
  | createOrganization name =>
    exact orderly_change l (.createOrganization name caller.userId) .organization
      (.createOrganization name)
  | createProject organizationId name description =>
    refine orderly_requireScope (fun scope s' hn h => ?_) s
    cases resolve_eq_ok hn
    exact orderly_change l (.createProject organizationId name description caller.userId) .project
      (.createProject name description h)
  | createResource projectId name kind =>
    refine orderly_requireScope (fun scope s' hn h => ?_) s
    cases resolve_eq_ok hn
    exact orderly_change l (.createResource projectId name kind) .resource
      (.createResource name kind h)
  | listPermissions n =>
    exact orderly_of_quiet ((Task.quiet_ofExcept _).bind fun _ =>
      (Task.quiet_inquire _ _ _).bind fun _ => Task.quiet_pure _) s
  | listAssignments n =>
    exact orderly_requireScope (fun scope s' _ _ =>
      orderly_of_quiet ((Task.quiet_inquire _ _ _).bind fun _ => Task.quiet_pure _) s') s
  | assignRole n userId roleName expiresAt =>
    exact orderly_requireScope (fun scope s' _ h =>
      orderly_change l (.assignRole _) .granted (.assignRole h)) s
  | revokeRole n userId roleName =>
    exact orderly_requireScope (fun scope s' _ h =>
      orderly_change l (.revokeRole userId roleName scope) .revoked
        (.revokeRole userId roleName h)) s

theorem run_perform (stamp : Stamp) (caller : Identity) (call : Call) (s : Ledger) :
    (perform stamp caller call).run s =
      (performWithin (limitsFrom s.execution.clock) stamp caller call).run s :=
  Task.run_bind _ _ s

theorem orderly_perform (stamp : Stamp) (caller : Identity) (call : Call) (s : Ledger) :
    Orderly stamp caller.userId (perform stamp caller call) s := by
  unfold Orderly
  rw [run_perform]
  exact orderly_performWithin _ stamp caller call s

end TenantGuard.Api
