import TenantGuard.Proofs.Engine.Enforcement

/-!
# Four ways to ask for one decision

`check` decides; the other entry points of the engine come to what they make of such decisions.
The questions may be answered by anything, as long as an answer never changes.

* `eval_enforce` and `eval_filterPermitted_cons` say what is made of the result of a check;
* `eval_check_of_list`: the actions that are listed are those that a check allows;
* `exists_eval_list`: the actions at a scope that exists can be listed.
-/

namespace TenantGuard.Engine

open Procedure (eval)
open Store (State Query)

variable {answer : (q : Query) → Except Fault q.Answer} {user : String} {a : Action}
  {scope : Scope}

/-! ## What is made of a check -/

/-- **Enforcing** makes a denial of a negative decision, and of a scope that does not exist. -/
theorem eval_enforce : eval answer (enforce user a scope) =
    match eval answer (check user a scope) with
    | .ok true => .ok ()
    | .ok false => .error (lacks user a scope)
    | .error e => .error (if e.isNotFound then unknownScope scope else e) := by
  rw [enforce, Procedure.eval_bind, Procedure.eval_attempt]
  cases eval answer (check user a scope) with
  | error e => rfl
  | ok b => cases b <;> rfl

/-- **The decision of a check, as far as a list of scopes goes**: a scope that does not exist counts
as one without a grant. -/
def kept : Except Fault Bool → Except Fault Bool
  | .ok b => .ok b
  | .error e => if e.isNotFound then .ok false else .error e

theorem eval_filterPermitted_cons {scopes : List Scope} :
    eval answer (filterPermitted user a (scope :: scopes)) =
      (kept (eval answer (check user a scope))).bind fun keep =>
        (eval answer (filterPermitted user a scopes)).map fun rest =>
          if keep then scope :: rest else rest := by
  rw [filterPermitted, Procedure.eval_bind, Procedure.eval_attempt]
  cases eval answer (check user a scope) with
  | ok keep =>
    simp only [kept, Except.bind, Procedure.eval_bind, Procedure.eval_pure]
    cases eval answer (filterPermitted user a scopes) <;> rfl
  | error e =>
    simp only [kept, Except.bind]
    split
    · simp only [Procedure.eval_bind, Procedure.eval_pure, Except.bind]
      cases eval answer (filterPermitted user a scopes) <;> rfl
    · rfl

/-! ## What is listed -/

theorem mem_allowedBy {permissions : List Permission} :
    a ∈ allowedBy permissions ↔ permissions.any (·.grants a) = true := by
  simp [allowedBy, Action.mem_all]

/-- Collecting the actions of rows finds out whether one of them allows an action. -/
theorem eval_firstGranting_of_collectRows (level : Scope) : ∀ {rows : List Assignment}
    {found found' : List Action}, eval answer (collectRows found rows) = .ok found' →
    ∃ g, eval answer (firstGranting a level rows) = .ok g ∧
      (a ∈ found' ↔ a ∈ found ∨ g.isSome = true)
  | [], found, found', h => by
    cases h
    exact ⟨none, rfl, by simp⟩
  | row :: rows, found, found', h => by
    rw [collectRows, Procedure.eval_bind] at h
    obtain ⟨permissions, hask, h⟩ := bind_eq_ok.1 h
    obtain ⟨g, hg, hiff⟩ := eval_firstGranting_of_collectRows level h
    rw [firstGranting, Procedure.eval_bind, hask]
    simp only [Except.bind]
    split
    next hgrants =>
      refine ⟨some ⟨level, row.roleId⟩, rfl, ?_⟩
      simp [hiff, mem_allowedBy, hgrants]
    next hgrants =>
      refine ⟨g, hg, ?_⟩
      rw [hiff, List.mem_append, mem_allowedBy]
      simp [hgrants]

theorem mem_of_isComplete {found : List Action} (h : isComplete found = true) : a ∈ found := by
  have hall := List.all_eq_true.1 h a (Action.mem_all a)
  simpa using hall

/-- **Collecting the actions of levels** finds out whether an action is allowed on one of them, even
if it ends as soon as all are found. -/
theorem eval_firstGrant_of_collectLevels : ∀ {levels : List Scope} {found found' : List Action},
    eval answer (collectLevels user found levels) = .ok found' →
    (a ∈ found → a ∈ found') ∧
      (a ∉ found → ∃ g, eval answer (firstGrant user a levels) = .ok g ∧
        (a ∈ found' ↔ g.isSome = true))
  | [], found, found', h => by
    cases h
    exact ⟨id, fun hnot => ⟨none, rfl, by simp [hnot]⟩⟩
  | level :: levels, found, found', h => by
    rw [collectLevels, Procedure.eval_bind] at h
    obtain ⟨rows, hask, h⟩ := bind_eq_ok.1 h
    rw [Procedure.eval_bind] at h
    obtain ⟨here, hhere, h⟩ := bind_eq_ok.1 h
    obtain ⟨g, hg, hiff⟩ := eval_firstGranting_of_collectRows (a := a) level hhere
    have hrest : (a ∈ here → a ∈ found') ∧ (a ∉ here →
        ∃ g, eval answer (firstGrant user a levels) = .ok g ∧ (a ∈ found' ↔ g.isSome = true)) := by
      split at h
      next hcomplete =>
        cases h
        exact ⟨id, fun hnot => absurd (mem_of_isComplete hcomplete) hnot⟩
      · exact eval_firstGrant_of_collectLevels h
    refine ⟨fun hmem => hrest.1 (hiff.2 (.inl hmem)), fun hnot => ?_⟩
    rw [firstGrant, Procedure.eval_bind, hask]
    simp only [Except.bind, Procedure.eval_bind, hg]
    cases g with
    | some grant => exact ⟨some grant, rfl, by simp [hrest.1 (hiff.2 (.inr rfl))]⟩
    | none =>
      obtain ⟨g', hg', hiff'⟩ := hrest.2 (by simp [hiff, hnot])
      exact ⟨g', hg', hiff'⟩

/-- **What is listed is what a check allows.** -/
theorem eval_check_of_list {actions : List Action}
    (h : eval answer (list user scope) = .ok actions) (a : Action) :
    eval answer (check user a scope) = .ok (decide (a ∈ actions)) := by
  rw [list, Procedure.eval_bind] at h
  obtain ⟨chain, hchain, h⟩ := bind_eq_ok.1 h
  rw [Procedure.eval_bind] at h
  obtain ⟨found, hfound, h⟩ := bind_eq_ok.1 h
  cases h
  obtain ⟨g, hg, hiff⟩ := (eval_firstGrant_of_collectLevels (a := a) hfound).2 List.not_mem_nil
  rw [check, Procedure.eval_bind, Procedure.eval_attempt, findGrant, Procedure.eval_bind, hchain]
  have hresult : g.isSome = decide (a ∈ Action.all.filter found.contains) := by
    rw [Bool.eq_iff_iff, ← hiff]
    simp [Action.mem_all]
  simp [Except.bind, hg, hresult]

/-! ## Contents -/

variable {s : State} {now : Moment}

theorem exists_eval_collectRows (s : State) (now : Moment) : ∀ (rows : List Assignment)
    (found : List Action), ∃ found', eval (s.answer now) (collectRows found rows) = .ok found'
  | [], found => ⟨found, rfl⟩
  | row :: rows, found => by
    obtain ⟨found', hfound⟩ := exists_eval_collectRows s now rows
      (found ++ allowedBy (s.permissionsOf row.roleId))
    exact ⟨found', hfound⟩

theorem exists_eval_collectLevels (s : State) (now : Moment) (user : String) :
    ∀ (levels : List Scope) (found : List Action),
    ∃ found', eval (s.answer now) (collectLevels user found levels) = .ok found'
  | [], found => ⟨found, rfl⟩
  | level :: levels, found => by
    have hask : eval (s.answer now) (Inquiry.grantsFor user level) =
        .ok ((s.activeRows now).filter fun a => a.userId == user && a.scope == level) := rfl
    obtain ⟨here, hhere⟩ := exists_eval_collectRows s now
      ((s.activeRows now).filter fun a => a.userId == user && a.scope == level) found
    rw [collectLevels, Procedure.eval_bind, hask]
    simp only [Except.bind, Procedure.eval_bind, hhere]
    split
    · exact ⟨here, rfl⟩
    · exact exists_eval_collectLevels s now user levels here

/-- **The actions at a scope that exists can be listed.** -/
theorem exists_eval_list (hs : s.Rooted) (now : Moment) (user : String)
    (h : s.hasScope scope = true) :
    ∃ actions, eval (s.answer now) (list user scope) = .ok actions := by
  obtain ⟨chain, hchain, -⟩ := eval_effectiveScopes hs now scope h
  obtain ⟨found, hfound⟩ := exists_eval_collectLevels s now user chain []
  refine ⟨Action.all.filter found.contains, ?_⟩
  rw [list, Procedure.eval_bind, hchain]
  simp [Except.bind, hfound]

theorem eval_list_unknown (h : s.hasScope scope = false) :
    eval (s.answer now) (list user scope) = .error (.notFound scope.type.name scope.id) := by
  have hparent : s.parent? scope = none := by
    rw [← State.isSome_parent?] at h
    simpa using h
  rw [list, Procedure.eval_bind, eval_effectiveScopes_unknown hparent]
  rfl

end TenantGuard.Engine
