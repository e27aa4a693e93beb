import TenantGuard.Proofs.Engine.Decision
import TenantGuard.Proofs.Store.Rows

/-!
# What is enforced is what was decided

A denial is never turned into a permission on the way: whoever passes the engine under any limits
and failures is allowed to by the contents of the store.

* `decision` is what the engine says about contents when nothing disturbs it, and `decision_eq` says
  it by the relation `State.Allows`;
* `enforce_eq_ok_iff` and `check_eq_ok_iff`: enforcing succeeds when the check says yes, and the
  check says yes when a grant is found, whatever answers the questions;
* `decision_of_enforce`: then the contents say yes, too;
* `allows_iff_holdsActive`: what is allowed depends on the roles that are held, and on the tree.
-/

namespace TenantGuard

open Procedure (FailsFast failsFast_pure failsFast_throw failsFast_ask eval)
open Store (State Query)
open Plan (Oracle)

/-! ## What decisions depend on -/

namespace Store.State

variable {s s' : State} {user : String} {a : Action} {scope : Scope} {now : Moment}

theorem below_congr (hp : s'.projects = s.projects) (hr : s'.resources = s.resources) :
    s'.Below = s.Below := by
  have hparent : s'.HasParent = s.HasParent := by
    funext scope parent
    refine propext ⟨?_, ?_⟩
    · rintro (h | h)
      · exact .project (hp ▸ h)
      · exact .resource (hr ▸ h)
    · rintro (h | h)
      · exact .project (hp ▸ h)
      · exact .resource (hr ▸ h)
  unfold Below
  rw [hparent]

theorem roleAllows_congr (h : s'.rolePermissions = s.rolePermissions) (a : Action)
    (roleId : String) : s'.roleAllows a roleId = s.roleAllows a roleId := by
  unfold roleAllows permissionsOf
  rw [h]

/-- **A user is allowed what a role allows that they hold** at the scope or above it. -/
theorem allows_iff_holdsActive : s.Allows user a scope now ↔
    ∃ roleId level, HoldsActive s.assignments user now roleId level ∧
      s.Below scope level ∧ s.roleAllows a roleId = true := by
  constructor
  · rintro ⟨row, h⟩
    exact ⟨row.roleId, row.scope,
      ⟨row, h.mem, h.user, rfl, rfl, (isActiveAt_iff row now).2 h.active⟩, h.anchored,
      roleAllows_iff.2 h.allows⟩
  · rintro ⟨_, _, ⟨row, hrow, huser, rfl, rfl, hactive⟩, hbelow, hallows⟩
    exact ⟨row, hrow, huser, (isActiveAt_iff row now).1 hactive, hbelow,
      roleAllows_iff.1 hallows⟩

end Store.State

namespace Engine

variable {s s' : State} {user : String} {a : Action} {scope : Scope} {now : Moment}

/-! ## Decisions about contents -/

/-- **What the engine says about contents** at an instant, when nothing disturbs it. -/
def decision (s : State) (now : Moment) (user : String) (a : Action) (scope : Scope) :
    Except Fault Bool :=
  eval (s.answer now) (check user a scope)

/-- Every undisturbed check comes to that. -/
theorem consult_check {l : Limits} {x : Execution}
    (h : Execution.Undisturbed l now (check user a scope).run x) :
    (x.consult l now (check user a scope).run).1 =
      decision x.store.committed now user a scope := Execution.consult_eq_eval h

open Classical in
/-- **The decision** is that of the relation where the scope exists, and else a fault. -/
theorem decision_eq (hs : s.Rooted) (now : Moment) (user : String) (a : Action) (scope : Scope) :
    decision s now user a scope =
      if s.hasScope scope = true then .ok (decide (s.Allows user a scope now))
      else .error (.notFound scope.type.name scope.id) := by
  unfold decision
  split
  next h =>
    obtain ⟨b, hb, hiff⟩ := eval_check_known hs now user a h
    rw [hb, Bool.eq_iff_iff.2 (hiff.trans (decide_eq_true_iff).symm)]
  next h => exact eval_check_unknown (by simpa using h)

/-- **A yes** means that the scope exists and the relation holds. -/
theorem decision_eq_yes_iff (hs : s.Rooted) : decision s now user a scope = .ok true ↔
    s.hasScope scope = true ∧ s.Allows user a scope now := by
  rw [decision_eq hs]
  split
  next h => simp [h]
  next h => simp [h]

/-- Decisions are the same where the scope exists in both and the relation is the same. -/
theorem decision_congr {other : String} (hs : s.Rooted) (hs' : s'.Rooted)
    (hscope : s'.hasScope scope = s.hasScope scope)
    (hiff : s'.Allows other a scope now ↔ s.Allows user a scope now) :
    decision s' now other a scope = decision s now user a scope := by
  rw [decision_eq hs, decision_eq hs', hscope, propext hiff]

open Classical in
/-- A decision is made from another one where the relation is. -/
theorem decision_map {f : Bool → Bool} (hs : s.Rooted) (hs' : s'.Rooted)
    (hscope : s'.hasScope scope = s.hasScope scope)
    (hf : s'.Allows user a scope now ↔ f (decide (s.Allows user a scope now)) = true) :
    decision s' now user a scope = (decision s now user a scope).map f := by
  have hdecide : decide (s'.Allows user a scope now) = f (decide (s.Allows user a scope now)) :=
    Bool.eq_iff_iff.2 (decide_eq_true_iff.trans hf)
  rw [decision_eq hs', decision_eq hs, hscope, hdecide]
  split
  · rfl
  · rfl

/-- A decision is the disjunction of two others where the relation is. -/
theorem decision_or {first second : String} (hs : s.Rooted) (hs' : s'.Rooted)
    (hscope : s'.hasScope scope = s.hasScope scope)
    (hiff : s'.Allows user a scope now ↔ s.Allows first a scope now ∨ s.Allows second a scope now) :
    decision s' now user a scope =
      (do return (← decision s now first a scope) || (← decision s now second a scope)) := by
  rw [decision_eq hs', decision_eq hs, decision_eq hs, hscope, propext hiff]
  cases s.hasScope scope with
  | false => rfl
  | true =>
    refine congrArg Except.ok (Bool.eq_iff_iff.2 ?_)
    simp

/-! ## Results under any circumstances -/

variable {σ : Type} {answer : Oracle Query Query.Answer σ} {x : σ}

/-- **A check says yes when a grant is found**, whatever answers its questions. -/
theorem check_eq_ok_iff {b : Bool} : ((check user a scope).run.run answer x).1 = .ok b ↔
    ∃ g, ((findGrant user a scope).run.run answer x).1 = .ok g ∧ g.isSome = b := by
  rw [check, Procedure.fst_run_bind, Procedure.fst_run_attempt]
  cases ((findGrant user a scope).run.run answer x).1 with
  | error e =>
    simp only [Except.bind, reduceCtorEq, false_and, exists_false, iff_false]
    rw [Procedure.fst_run_bind]
    exact fun h => by cases h
  | ok g =>
    simp only [Except.bind]
    rw [Procedure.fst_run_bind]
    constructor
    · intro h
      exact ⟨g, rfl, Except.ok.inj h⟩
    · rintro ⟨g, ⟨⟩, rfl⟩
      rfl

/-- **Enforcing succeeds when the check says yes**, whatever answers its questions. -/
theorem enforce_eq_ok_iff : ((enforce user a scope).run.run answer x).1 = .ok () ↔
    ((check user a scope).run.run answer x).1 = .ok true := by
  rw [enforce, Procedure.fst_run_bind, Procedure.fst_run_attempt]
  cases ((check user a scope).run.run answer x).1 with
  | error e =>
    constructor
    · intro h
      cases h
    · intro h
      cases h
  | ok b =>
    cases b with
    | false =>
      constructor
      · intro h
        cases h
      · intro h
        cases h
    | true => exact ⟨fun _ => rfl, fun _ => rfl⟩

/-! ## The search ends with the first fault -/

theorem failsFast_effectiveScopes (scope : Scope) : FailsFast (effectiveScopes scope) := by
  rw [effectiveScopes]
  refine (failsFast_ask _).bind fun parent => ?_
  split
  · exact failsFast_pure _
  next p t _ =>
    split
    · exact (failsFast_effectiveScopes p).bind fun _ => failsFast_pure _
    · exact failsFast_throw _
  · exact failsFast_throw _
termination_by scope.type.depth
decreasing_by
  rename_i hlevel _ _ _ _ htype
  have := ScopeType.depth_parent hlevel
  rw [htype]
  omega

theorem failsFast_firstGranting (a : Action) (level : Scope) :
    ∀ rows : List Assignment, FailsFast (firstGranting a level rows)
  | [] => failsFast_pure _
  | row :: rows => by
    refine (failsFast_ask _).bind fun permissions => ?_
    split
    · exact failsFast_pure _
    · exact failsFast_firstGranting a level rows

theorem failsFast_firstGrant (user : String) (a : Action) :
    ∀ levels : List Scope, FailsFast (firstGrant user a levels)
  | [] => failsFast_pure _
  | level :: levels => by
    refine (failsFast_ask _).bind fun rows => (failsFast_firstGranting a level rows).bind fun g => ?_
    cases g with
    | some g => exact failsFast_pure _
    | none => exact failsFast_firstGrant user a levels

theorem failsFast_findGrant (user : String) (a : Action) (scope : Scope) :
    FailsFast (findGrant user a scope) :=
  (failsFast_effectiveScopes scope).bind fun levels => failsFast_firstGrant user a levels

/-! ## What was enforced was decided -/

/-- **What was enforced was decided**: whoever passes is allowed to by the contents. -/
theorem decision_of_enforce {l : Limits} {x : Execution}
    (h : (x.consult l now (enforce user a scope).run).1 = .ok ()) :
    decision x.store.committed now user a scope = .ok true := by
  obtain ⟨g, hg, hsome⟩ := check_eq_ok_iff.1 (enforce_eq_ok_iff.1 h)
  have hfound := Execution.eval_of_consult (failsFast_findGrant user a scope) hg
  rw [decision, eval_check, hfound]
  exact congrArg Except.ok hsome

end Engine

end TenantGuard
