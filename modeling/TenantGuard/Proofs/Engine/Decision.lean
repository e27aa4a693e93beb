import Mathlib.Logic.Relation
import TenantGuard.Engine
import TenantGuard.Proofs.Store.Reachable

/-!
# What the engine decides

The engine climbs from a scope level by level and stops at the first role that allows the action.
What it comes to can be said without any climbing: there is an active row of the user, at the scope
or above it, whose role allows the action.

* `State.HasParent` is the tree as the rows give it, `State.Below` its reflexive and transitive
  closure and `State.Allows` the decision as a relation on the contents;
* `eval_effectiveScopes`: in a whole tree, the chain of a scope holds what the scope lies below;
* `eval_firstGrant`: the search finds a grant if there is one;
* `check_decides`: what the engine says about a reachable store.
-/

namespace TenantGuard

open Store (State)

/-! ## The decision as a relation -/

namespace Store.State

/-- **The parent of a scope**, by the row of the scope. -/
inductive HasParent (s : State) : Scope → Scope → Prop where
  | project {id : String} {p : Project} : s.projects.find? id = some p →
      HasParent s (.project id) (.organization p.organizationId)
  | resource {id : String} {r : Resource} : s.resources.find? id = some r →
      HasParent s (.resource id) (.project r.projectId)

/-- **A scope lies below itself and all its ancestors.** -/
def Below (s : State) : Scope → Scope → Prop := Relation.ReflTransGen s.HasParent

/-- **A row that allows a user to do something to a scope** at an instant. -/
structure Grants (s : State) (user : String) (a : Action) (scope : Scope) (now : Moment)
    (row : Assignment) : Prop where
  mem : row ∈ s.assignments
  user : row.userId = user
  active : ∀ e, row.expiresAt = some e → now < e
  anchored : s.Below scope row.scope
  allows : ∃ ps, s.rolePermissions.find? row.roleId = some ps ∧
    ∃ p ∈ ps, p.domain = "scope" ∧ p.action = a

/-- **Whether a user may do something to a scope** at an instant. -/
def Allows (s : State) (user : String) (a : Action) (scope : Scope) (now : Moment) : Prop :=
  ∃ row, s.Grants user a scope now row

variable {s : State} {user : String} {a : Action} {scope : Scope} {now : Moment}

/-- What is allowed later is allowed before. -/
theorem Allows.of_later {later : Moment} (h : s.Allows user a scope later) (hlt : now < later) :
    s.Allows user a scope now := by
  obtain ⟨row, h⟩ := h
  exact ⟨row, { h with active := fun e he => Moment.lt_trans hlt (h.active e he) }⟩

/-! ## What the answers of the store say -/

theorem isActiveAt_iff (row : Assignment) (now : Moment) :
    row.isActiveAt now = true ↔ ∀ e, row.expiresAt = some e → now < e := by
  unfold Assignment.isActiveAt
  cases row.expiresAt <;> simp

/-- Whether one of the permissions of a role allows an action. -/
def roleAllows (s : State) (a : Action) (roleId : String) : Bool :=
  (s.permissionsOf roleId).any (·.grants a)

theorem roleAllows_iff {roleId : String} : s.roleAllows a roleId = true ↔
    ∃ ps, s.rolePermissions.find? roleId = some ps ∧
      ∃ p ∈ ps, p.domain = "scope" ∧ p.action = a := by
  unfold roleAllows permissionsOf
  cases s.rolePermissions.find? roleId with
  | none => simp
  | some ps => simp [Permission.grants, permissionDomain]

/-- What is found in the tables is the parent of the tree. -/
theorem parent?_eq_none (h : s.parent? scope = none) : s.hasScope scope = false := by
  rw [← isSome_parent?, h]
  rfl

theorem parent?_eq_root (h : s.parent? scope = some none) :
    scope.type.parent = none ∧ ∀ p, ¬ s.HasParent scope p := by
  obtain ⟨type, id⟩ := scope
  cases type with
  | organization =>
    refine ⟨rfl, ?_⟩
    rintro p ⟨⟩
  | project => simp [parent?] at h
  | resource => simp [parent?] at h

theorem parent?_eq_parent {p : Scope} (h : s.parent? scope = some (some p)) :
    scope.type.parent = some p.type ∧ ∀ q, s.HasParent scope q ↔ q = p := by
  obtain ⟨type, id⟩ := scope
  cases type with
  | organization => simp [parent?] at h
  | project =>
    obtain ⟨row, hrow, hp⟩ := Option.map_eq_some_iff.1 h
    cases hp
    refine ⟨rfl, fun q => ⟨?_, ?_⟩⟩
    · intro hq
      cases hq with
      | project hq =>
        cases hrow.symm.trans hq
        rfl
    · rintro rfl
      exact .project hrow
  | resource =>
    obtain ⟨row, hrow, hp⟩ := Option.map_eq_some_iff.1 h
    cases hp
    refine ⟨rfl, fun q => ⟨?_, ?_⟩⟩
    · intro hq
      cases hq with
      | resource hq =>
        cases hrow.symm.trans hq
        rfl
    · rintro rfl
      exact .resource hrow

/-- In a whole tree, parents exist. -/
theorem Rooted.hasScope (h : s.Rooted) {p : Scope} (hp : s.HasParent scope p) :
    s.hasScope p = true := by
  cases hp with
  | project hrow => exact h.project hrow
  | resource hrow => exact h.resource hrow

end Store.State

namespace Engine

open Procedure (eval)

variable {s : State} {user : String} {a : Action} {scope : Scope} {now : Moment}

/-! ## The chain of scopes -/

theorem eval_parent (s : State) (now : Moment) (scope : Scope) :
    eval (s.answer now) (Inquiry.parent scope) =
      match s.parent? scope with
      | some p => .ok p
      | none => .error (.notFound scope.type.name scope.id) := rfl

theorem eval_effectiveScopes_unknown (h : s.parent? scope = none) :
    eval (s.answer now) (effectiveScopes scope) = .error (.notFound scope.type.name scope.id) := by
  rw [effectiveScopes, Procedure.eval_bind, eval_parent, h]
  rfl

theorem eval_effectiveScopes_root (h : s.parent? scope = some none)
    (hlevel : scope.type.parent = none) :
    eval (s.answer now) (effectiveScopes scope) = .ok [scope] := by
  rw [effectiveScopes, Procedure.eval_bind, eval_parent, h]
  simp only [Except.bind]
  split <;> simp_all

theorem eval_effectiveScopes_parent {p : Scope} (h : s.parent? scope = some (some p))
    (hlevel : scope.type.parent = some p.type) :
    eval (s.answer now) (effectiveScopes scope) =
      (eval (s.answer now) (effectiveScopes p)).bind fun chain => .ok (scope :: chain) := by
  rw [effectiveScopes, Procedure.eval_bind, eval_parent, h]
  simp only [Except.bind]
  split <;> simp_all [Except.bind]

/-- **The chain of a scope** holds the scope and its ancestors. -/
theorem eval_effectiveScopes (hs : s.Rooted) (now : Moment) (scope : Scope)
    (h : s.hasScope scope = true) :
    ∃ chain, eval (s.answer now) (effectiveScopes scope) = .ok chain ∧
      ∀ level, level ∈ chain ↔ s.Below scope level := by
  cases hparent : s.parent? scope with
  | none => simp [State.parent?_eq_none hparent] at h
  | some parent =>
    cases parent with
    | none =>
      obtain ⟨hlevel, hroot⟩ := State.parent?_eq_root hparent
      refine ⟨[scope], eval_effectiveScopes_root hparent hlevel, fun level => ?_⟩
      rw [State.Below, Relation.ReflTransGen.cases_head_iff]
      simp [hroot, eq_comm]
    | some p =>
      obtain ⟨hlevel, hp⟩ := State.parent?_eq_parent hparent
      obtain ⟨chain, hchain, hmem⟩ :=
        eval_effectiveScopes hs now p (hs.hasScope ((hp p).2 rfl))
      refine ⟨scope :: chain, ?_, fun level => ?_⟩
      · rw [eval_effectiveScopes_parent hparent hlevel, hchain]
        rfl
      · rw [State.Below, Relation.ReflTransGen.cases_head_iff]
        simp [hp, hmem, State.Below, eq_comm]
termination_by scope.type.depth
decreasing_by
  have := ScopeType.depth_parent hlevel
  omega

/-! ## The search for a grant -/

/-- The rows of a user at a level that allow an action. -/
def AllowsAt (s : State) (user : String) (a : Action) (now : Moment) (level : Scope)
    (row : Assignment) : Prop :=
  row ∈ s.assignments ∧ row.userId = user ∧ row.scope = level ∧ row.isActiveAt now = true ∧
    s.roleAllows a row.roleId = true

theorem eval_firstGranting (s : State) (now : Moment) (a : Action) (level : Scope)
    (rows : List Assignment) :
    ∃ g, eval (s.answer now) (firstGranting a level rows) = .ok g ∧
      (g.isSome = true ↔ ∃ row ∈ rows, s.roleAllows a row.roleId = true) := by
  induction rows with
  | nil => exact ⟨none, rfl, by simp⟩
  | cons row rows ih =>
    obtain ⟨g, hg, hiff⟩ := ih
    have hanswer : eval (s.answer now) (Inquiry.permissions row.roleId) =
        .ok (s.permissionsOf row.roleId) := rfl
    rw [firstGranting, Procedure.eval_bind, hanswer]
    simp only [Except.bind]
    change ∃ g, eval (s.answer now) (if s.roleAllows a row.roleId then _ else _) = .ok g ∧ _
    cases hrow : s.roleAllows a row.roleId with
    | true => exact ⟨some ⟨level, row.roleId⟩, rfl, by simp [hrow]⟩
    | false => exact ⟨g, hg, by simp [hiff, hrow]⟩

/-- **The search finds a grant if there is one** on some level of the chain. -/
theorem eval_firstGrant (s : State) (now : Moment) (user : String) (a : Action)
    (levels : List Scope) :
    ∃ g, eval (s.answer now) (firstGrant user a levels) = .ok g ∧
      (g.isSome = true ↔ ∃ level ∈ levels, ∃ row, AllowsAt s user a now level row) := by
  induction levels with
  | nil => exact ⟨none, rfl, by simp⟩
  | cons level levels ih =>
    obtain ⟨g, hg, hiff⟩ := ih
    have hanswer : eval (s.answer now) (Inquiry.grantsFor user level) =
        .ok ((s.activeRows now).filter fun a => a.userId == user && a.scope == level) := rfl
    obtain ⟨here, hhere, hfound⟩ := eval_firstGranting s now a level
      ((s.activeRows now).filter fun a => a.userId == user && a.scope == level)
    have hlevel : here.isSome = true ↔ ∃ row, AllowsAt s user a now level row := by
      rw [hfound]
      simp [AllowsAt, State.activeRows, and_assoc]
    rw [firstGrant, Procedure.eval_bind, hanswer]
    cases here with
    | some found =>
      refine ⟨some found, by simp [Except.bind, hhere], ?_⟩
      have := hlevel.1 rfl
      simp [this]
    | none =>
      refine ⟨g, by simpa [Except.bind, hhere] using hg, ?_⟩
      have hnone : ¬ ∃ row, AllowsAt s user a now level row := fun h => by
        simpa using hlevel.2 h
      rw [hiff]
      simp [hnone]

/-- What is found on the chain of a scope is what the relation says. -/
theorem allowsAt_iff {chain : List Scope} (hmem : ∀ level, level ∈ chain ↔ s.Below scope level) :
    (∃ level ∈ chain, ∃ row, AllowsAt s user a now level row) ↔ s.Allows user a scope now := by
  constructor
  · rintro ⟨level, hlevel, row, hrow, huser, rfl, hactive, hperm⟩
    exact ⟨row, hrow, huser, (State.isActiveAt_iff row now).1 hactive, (hmem _).1 hlevel,
      State.roleAllows_iff.1 hperm⟩
  · rintro ⟨row, h⟩
    exact ⟨row.scope, (hmem _).2 h.anchored, row, h.mem, h.user, rfl,
      (State.isActiveAt_iff row now).2 h.active, State.roleAllows_iff.2 h.allows⟩

/-! ## Decisions -/

theorem eval_check (s : State) (now : Moment) (user : String) (a : Action) (scope : Scope) :
    eval (s.answer now) (check user a scope) =
      (eval (s.answer now) (findGrant user a scope)).map Option.isSome := by
  rw [check, Procedure.eval_bind, Procedure.eval_attempt]
  cases hfound : eval (s.answer now) (findGrant user a scope) <;>
    simp [Except.bind, Except.map]

theorem eval_check_unknown (h : s.hasScope scope = false) :
    eval (s.answer now) (check user a scope) = .error (.notFound scope.type.name scope.id) := by
  have hparent : s.parent? scope = none := by
    rw [← State.isSome_parent?] at h
    simpa using h
  rw [eval_check, findGrant, Procedure.eval_bind, eval_effectiveScopes_unknown hparent]
  rfl

theorem eval_check_known (hs : s.Rooted) (now : Moment) (user : String) (a : Action)
    (h : s.hasScope scope = true) :
    ∃ b, eval (s.answer now) (check user a scope) = .ok b ∧
      (b = true ↔ s.Allows user a scope now) := by
  obtain ⟨chain, hchain, hmem⟩ := eval_effectiveScopes hs now scope h
  obtain ⟨g, hg, hiff⟩ := eval_firstGrant s now user a chain
  refine ⟨g.isSome, ?_, hiff.trans (allowsAt_iff hmem)⟩
  rw [eval_check, findGrant, Procedure.eval_bind, hchain]
  exact congrArg (Except.map Option.isSome) hg

/-- **What a result says about the contents** that it was drawn from. -/
structure Decides (s : State) (user : String) (a : Action) (scope : Scope) (now : Moment)
    (result : Except Fault Bool) : Prop where
  unknown : (∃ kind id, result = .error (.notFound kind id)) ↔ s.hasScope scope = false
  allows : s.hasScope scope = true → (result = .ok true ↔ s.Allows user a scope now)
  denies : s.hasScope scope = true → (result = .ok false ↔ ¬ s.Allows user a scope now)

theorem decides_eval_check (hs : s.Rooted) (user : String) (a : Action) (scope : Scope)
    (now : Moment) :
    Decides s user a scope now (eval (s.answer now) (check user a scope)) := by
  cases hscope : s.hasScope scope with
  | false =>
    rw [eval_check_unknown hscope]
    exact ⟨⟨fun _ => hscope, fun _ => ⟨_, _, rfl⟩⟩, by simp [hscope], by simp [hscope]⟩
  | true =>
    obtain ⟨b, hb, hiff⟩ := eval_check_known hs now user a hscope
    rw [hb]
    refine ⟨by simp [hscope], fun _ => ?_, fun _ => ?_⟩
    · simp [hiff]
    · simp [← hiff]

/-- **What the engine decides about a reachable store.**  An undisturbed check fails where the scope
does not exist, and else it allows what an active row at the scope or above it allows; what it
allows it has allowed at every earlier instant. -/
theorem check_decides {x : Execution} {l : Limits} (hreach : Store.Reachable x.store)
    (hrun : Execution.Undisturbed l now (check user a scope).run x) :
    Decides x.store.committed user a scope now (x.consult l now (check user a scope).run).1 ∧
      ∀ (y : Execution) (k : Limits) (later : Moment), y.store.committed = x.store.committed →
        now < later → Execution.Undisturbed k later (check user a scope).run y →
        (y.consult k later (check user a scope).run).1 = .ok true →
        (x.consult l now (check user a scope).run).1 = .ok true := by
  have hrooted := hreach.rooted.committed
  rw [Execution.consult_eq_eval hrun]
  refine ⟨decides_eval_check hrooted user a scope now, fun y k later hrows hlater hrun' hallowed => ?_⟩
  rw [Execution.consult_eq_eval hrun', hrows] at hallowed
  have hnow := decides_eval_check hrooted user a scope now
  have hthen := decides_eval_check hrooted user a scope later
  cases hscope : x.store.committed.hasScope scope with
  | false =>
    obtain ⟨kind, id, hfault⟩ := hthen.unknown.2 hscope
    cases hfault.symm.trans hallowed
  | true => exact (hnow.allows hscope).2 (((hthen.allows hscope).1 hallowed).of_later hlater)

/-! ## One store -/

/-- A role that is given at an organization until an instant. -/
def sampleRow : Assignment :=
  { id := "a1", userId := "ann", roleId := "viewer", scope := .organization "o1"
    assignedBy := none, createdAt := ⟨0, 0⟩, expiresAt := some ⟨10, 0⟩ }

/-- One organization with one project, and a viewer of the organization. -/
def sampleStore : Store :=
  let opened : Store := { Store.fresh with working := some .seeded }
  let s := (opened.perform ⟨0, 0⟩ (.insertOrganization ⟨"o1", "O", ⟨0, 0⟩, ⟨0, 0⟩⟩)).2
  let s := (s.perform ⟨0, 0⟩ (.insertProject ⟨"p1", "o1", "P", none, ⟨0, 0⟩, ⟨0, 0⟩⟩)).2
  s.commit.2.seed sampleRow

theorem reachable_sampleStore : Store.Reachable sampleStore :=
  .seeded _ (.committed (.performed _ _ (.performed _ _ (.begun .fresh rfl) rfl) rfl) rfl) rfl

/-- The viewer of the organization may read its project before the role expires. -/
theorem check_decides_sampleStore :
    Execution.Undisturbed {} ⟨9, 0⟩ (check "ann" .read (.project "p1")).run ⟨sampleStore, 0⟩ ∧
    (Execution.consult {} ⟨9, 0⟩ (check "ann" .read (.project "p1")).run ⟨sampleStore, 0⟩).1 =
      .ok true := by
  have hrun : Execution.Undisturbed {} ⟨9, 0⟩ (check "ann" .read (.project "p1")).run
      ⟨sampleStore, 0⟩ := Execution.undisturbed_unlimited (by decide) rfl
  refine ⟨hrun, ((check_decides reachable_sampleStore hrun).1.allows rfl).2 ⟨sampleRow, ?_⟩⟩
  have hproject : sampleStore.committed.HasParent (.project "p1") (.organization "o1") :=
    .project (p := ⟨"p1", "o1", "P", none, ⟨0, 0⟩, ⟨0, 0⟩⟩) rfl
  exact
    { mem := by decide
      user := rfl
      active := by
        intro e he
        cases he
        decide
      anchored := .single hproject
      allows := ⟨_, rfl, .forAction .read, by decide, rfl, rfl⟩ }

end Engine

end TenantGuard
