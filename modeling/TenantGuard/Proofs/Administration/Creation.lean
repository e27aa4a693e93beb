import TenantGuard.Proofs.Administration.Authority

/-!
# What a new scope changes

Who creates a scope changes what can be done to that scope, and to no other.

* `State.GrantsAt` says what the rows at one level of the tree allow, and `allows_iff_grantsAt` that
  a decision looks at the levels above a scope one by one;
* `State.Grows`: the tree has one scope more, which is a leaf.  `Grows.below_of_ne` and
  `Grows.below_new` give the levels above the old scopes and above the new one, and from these
  `Grows.allows_of_ne` and `Grows.allows_new` what is allowed;
* `State.grows_organization`, `grows_project` and `grows_resource`: each new entity is such a leaf;
* `created_scopes_decide`: in a store that operations lead to, a new organization is its owner's
  alone, a new project is its owner's and of those who have the organization, and a new resource is
  as its project.
-/

namespace TenantGuard

open Store (State)
open Engine (decision)

namespace Store

/-- A new entry stands beside the others. -/
theorem Table.find?_insert_eq_some_iff {α : Type} {t : Table α} {id id' : String} {a b : α}
    (hnew : t.contains id = false) :
    (t.insert id a).find? id' = some b ↔ id' = id ∧ b = a ∨ t.find? id' = some b := by
  have hnone : t.find? id = none := by simpa [contains] using hnew
  rw [find?_insert]
  by_cases hid : id' = id
  · simp [hid, hnone, eq_comm]
  · simp [hid]

/-! ## Level by level -/

namespace State

variable {s s' : State} {user : String} {a : Action} {scope level new : Scope}
  {above : Option Scope} {now : Moment}

/-- **What the rows at one level allow** a user, at an instant. -/
def GrantsAt (s : State) (user : String) (a : Action) (level : Scope) (now : Moment) : Prop :=
  ∃ row ∈ s.rowsAt level, row.userId = user ∧ row.isActiveAt now = true ∧
    s.roleAllows a row.roleId = true

/-- **A user is allowed what some level above allows.** -/
theorem allows_iff_grantsAt : s.Allows user a scope now ↔
    ∃ level, s.Below scope level ∧ s.GrantsAt user a level now := by
  constructor
  · rintro ⟨row, h⟩
    exact ⟨row.scope, h.anchored, row, by simp [rowsAt, h.mem], h.user,
      (isActiveAt_iff row now).2 h.active, roleAllows_iff.2 h.allows⟩
  · rintro ⟨level, hbelow, row, hrow, huser, hactive, hallows⟩
    obtain ⟨hmem, rfl⟩ : row ∈ s.assignments ∧ row.scope = level := by simpa [rowsAt] using hrow
    exact ⟨row, hmem, huser, (isActiveAt_iff row now).1 hactive, hbelow,
      roleAllows_iff.1 hallows⟩

theorem grantsAt_congr (hrows : s'.rowsAt level = s.rowsAt level)
    (hroles : s'.rolePermissions = s.rolePermissions) :
    s'.GrantsAt user a level now ↔ s.GrantsAt user a level now := by
  simp only [GrantsAt, hrows, roleAllows_congr hroles]

/-- **Every ancestor exists.** -/
theorem Rooted.hasScope_of_below (hs : s.Rooted) (h : s.Below scope level) (hne : level ≠ scope) :
    s.hasScope level = true := by
  rcases Relation.ReflTransGen.cases_tail h with heq | ⟨_, -, hparent⟩
  · exact absurd heq hne
  · exact hs.hasScope hparent

/-! ## One scope more -/

/-- **A tree with one scope more**, below another one or at the top. -/
structure Grows (s s' : State) (new : Scope) (above : Option Scope) : Prop where
  fresh : s.hasScope new = false
  exists_above : ∀ p, above = some p → s.hasScope p = true
  hasScope : ∀ scope, s'.hasScope scope = (decide (scope = new) || s.hasScope scope)
  hasParent : ∀ scope p, s'.HasParent scope p ↔ scope = new ∧ above = some p ∨ s.HasParent scope p

theorem HasParent.hasScope (h : s.HasParent scope level) : s.hasScope scope = true := by
  cases h with
  | project hrow => simp [State.hasScope, Scope.project, Table.contains, hrow]
  | resource hrow => simp [State.hasScope, Scope.resource, Table.contains, hrow]

theorem grows_organization {o : Organization} (hnew : s.hasScope o.scope = false)
    (ho : s'.organizations = s.organizations.insert o.id o) (hp : s'.projects = s.projects)
    (hr : s'.resources = s.resources) : Grows s s' o.scope none where
  fresh := hnew
  exists_above p h := by cases h
  hasScope scope := by
    obtain ⟨type, id⟩ := scope
    cases type <;> simp [State.hasScope, ho, hp, hr, Table.contains_insert, Organization.scope,
      Scope.organization]
  hasParent scope p := by
    constructor
    · rintro (h | h)
      · exact .inr (.project (hp ▸ h))
      · exact .inr (.resource (hr ▸ h))
    · rintro (⟨-, ⟨⟩⟩ | h | h)
      · exact .project (hp ▸ h)
      · exact .resource (hr ▸ h)

theorem grows_project {p : Project} (hnew : s.hasScope p.scope = false)
    (habove : s.organizations.contains p.organizationId = true)
    (ho : s'.organizations = s.organizations) (hp : s'.projects = s.projects.insert p.id p)
    (hr : s'.resources = s.resources) :
    Grows s s' p.scope (some (.organization p.organizationId)) where
  fresh := hnew
  exists_above q h := by
    cases h
    exact habove
  hasScope scope := by
    obtain ⟨type, id⟩ := scope
    cases type <;> simp [State.hasScope, ho, hp, hr, Table.contains_insert, Project.scope,
      Scope.project]
  hasParent scope q := by
    have hfind : ∀ id row, s'.projects.find? id = some row ↔
        id = p.id ∧ row = p ∨ s.projects.find? id = some row := fun id row => by
      rw [hp]
      exact Table.find?_insert_eq_some_iff hnew
    constructor
    · rintro (h | h)
      · rcases (hfind _ _).1 h with ⟨rfl, rfl⟩ | hold
        · exact .inl ⟨rfl, rfl⟩
        · exact .inr (.project hold)
      · exact .inr (.resource (hr ▸ h))
    · rintro (⟨rfl, ⟨⟩⟩ | h | h)
      · exact .project ((hfind _ _).2 (.inl ⟨rfl, rfl⟩))
      · exact .project ((hfind _ _).2 (.inr h))
      · exact .resource (hr ▸ h)

theorem grows_resource {r : Resource} (hnew : s.hasScope r.scope = false)
    (habove : s.projects.contains r.projectId = true)
    (ho : s'.organizations = s.organizations) (hp : s'.projects = s.projects)
    (hr : s'.resources = s.resources.insert r.id r) :
    Grows s s' r.scope (some (.project r.projectId)) where
  fresh := hnew
  exists_above q h := by
    cases h
    exact habove
  hasScope scope := by
    obtain ⟨type, id⟩ := scope
    cases type <;> simp [State.hasScope, ho, hp, hr, Table.contains_insert, Resource.scope,
      Scope.resource]
  hasParent scope q := by
    have hfind : ∀ id row, s'.resources.find? id = some row ↔
        id = r.id ∧ row = r ∨ s.resources.find? id = some row := fun id row => by
      rw [hr]
      exact Table.find?_insert_eq_some_iff hnew
    constructor
    · rintro (h | h)
      · exact .inr (.project (hp ▸ h))
      · rcases (hfind _ _).1 h with ⟨rfl, rfl⟩ | hold
        · exact .inl ⟨rfl, rfl⟩
        · exact .inr (.resource hold)
    · rintro (⟨rfl, ⟨⟩⟩ | h | h)
      · exact .resource ((hfind _ _).2 (.inl ⟨rfl, rfl⟩))
      · exact .project (hp ▸ h)
      · exact .resource ((hfind _ _).2 (.inr h))

/-! ### What lies above -/

section

variable (hs : s.Rooted) (h : Grows s s' new above)
include hs h

/-- **The old scopes lie below what they lay below.** -/
theorem Grows.below_of_ne (hne : scope ≠ new) : s'.Below scope level ↔ s.Below scope level := by
  constructor
  · intro hbelow
    induction hbelow using Relation.ReflTransGen.head_induction_on with
    | refl => exact .refl
    | @head scope p hparent _ ih =>
      have hold : s.HasParent scope p :=
        ((h.hasParent _ _).1 hparent).resolve_left fun heq => hne heq.1
      have hp : p ≠ new := by
        rintro rfl
        cases h.fresh.symm.trans (hs.hasScope hold)
      exact .head hold (ih hp)
  · have hkept : s.HasParent ≤ s'.HasParent := fun _ _ hold => (h.hasParent _ _).2 (.inr hold)
    exact Relation.ReflTransGen.mono hkept scope level

omit hs in
/-- **The new scope lies below what its parent lies below**, and below itself. -/
theorem Grows.below_new :
    s'.Below new level ↔ level = new ∨ ∃ p, above = some p ∧ s'.Below p level := by
  have hparent : ∀ p, s'.HasParent new p ↔ above = some p := fun p => by
    rw [h.hasParent]
    constructor
    · rintro (⟨-, hp⟩ | hold)
      · exact hp
      · cases h.fresh.symm.trans hold.hasScope
    · exact fun hp => .inl ⟨rfl, hp⟩
  rw [Below, Relation.ReflTransGen.cases_head_iff]
  simp only [hparent, eq_comm]

/-! ### What is allowed -/

variable (hrows : ∀ level, level ≠ new → s'.rowsAt level = s.rowsAt level)
  (hroles : s'.rolePermissions = s.rolePermissions)
include hrows hroles

/-- **At the old scopes the same is allowed**, if no row was added but at the new one. -/
theorem Grows.allows_of_ne (hne : scope ≠ new) :
    s'.Allows user a scope now ↔ s.Allows user a scope now := by
  rw [allows_iff_grantsAt, allows_iff_grantsAt]
  refine exists_congr fun level => ?_
  rw [h.below_of_ne hs hne]
  refine and_congr_right fun hbelow => grantsAt_congr (hrows level ?_) hroles
  rintro rfl
  cases h.fresh.symm.trans (hs.hasScope_of_below hbelow hne.symm)

/-- **At the new scope** what its own rows allow, and what is allowed at its parent. -/
theorem Grows.allows_new : s'.Allows user a new now ↔
    s'.GrantsAt user a new now ∨ ∃ p, above = some p ∧ s.Allows user a p now := by
  have hold : ∀ p, above = some p → (s'.Allows user a p now ↔ s.Allows user a p now) :=
    fun p hp => h.allows_of_ne hs hrows hroles fun heq => by
      subst heq
      cases h.fresh.symm.trans (h.exists_above _ hp)
  constructor
  · intro hallows
    obtain ⟨level, hbelow, hgrants⟩ := allows_iff_grantsAt.1 hallows
    rcases h.below_new.1 hbelow with rfl | ⟨p, hp, hbelow⟩
    · exact .inl hgrants
    · exact .inr ⟨p, hp, (hold p hp).1 (allows_iff_grantsAt.2 ⟨level, hbelow, hgrants⟩)⟩
  · rintro (hgrants | ⟨p, hp, hallows⟩)
    · exact allows_iff_grantsAt.2 ⟨new, .refl, hgrants⟩
    · obtain ⟨level, hbelow, hgrants⟩ := allows_iff_grantsAt.1 ((hold p hp).2 hallows)
      exact allows_iff_grantsAt.2 ⟨level, h.below_new.2 (.inr ⟨p, hp, hbelow⟩), hgrants⟩

end

end State

end Store

namespace Administration

open Store.State (Grows)

variable {s s' : State} {stamp : Stamp} {owner : String} {new : Scope} {above : Option Scope}

/-! ## Decisions -/

/-- **Nothing changes but at one scope**, at any instant. -/
def SameElsewhere (new : Scope) (before after : State) : Prop :=
  ∀ now user a scope, scope ≠ new →
    decision after now user a scope = decision before now user a scope

theorem sameElsewhere_of_grows (hs : s.Rooted) (hs' : s'.Rooted) (h : Grows s s' new above)
    (hrows : ∀ level, level ≠ new → s'.rowsAt level = s.rowsAt level)
    (hroles : s'.rolePermissions = s.rolePermissions) : SameElsewhere new s s' := by
  intro now user a scope hne
  refine Engine.decision_congr hs hs' ?_ (h.allows_of_ne hs hrows hroles hne)
  rw [h.hasScope]
  simp [hne]

/-- The built-in role of owners allows everything. -/
theorem roleAllows_owner (h : s.Intact) (a : Action) :
    s.roleAllows a PredefinedRole.owner.id = true := by
  have hseeded : ∀ a ∈ Action.all, State.seeded.roleAllows a PredefinedRole.owner.id = true := by
    decide
  rw [State.roleAllows_congr h.rolePermissions]
  exact hseeded a (Action.mem_all a)

/-- Where the only row is that of the owner, the owner may do everything and nobody else
anything. -/
theorem grantsAt_owner_iff (h : s.Intact)
    (hrows : s.rowsAt new = [ownerRow stamp owner PredefinedRole.owner.toRole new])
    (user : String) (a : Action) (now : Moment) : s.GrantsAt user a new now ↔ user = owner := by
  have hall : s.roleAllows a PredefinedRole.owner.toRole.id = true := roleAllows_owner h a
  rw [State.GrantsAt, hrows]
  simp only [List.mem_singleton, exists_eq_left]
  constructor
  · rintro ⟨huser, -⟩
    exact huser.symm
  · rintro rfl
    exact ⟨rfl, rfl, hall⟩

open Classical in
/-- **A new scope with an owner** is its owner's, and of those who have its parent. -/
theorem decision_owned (hs : s.Rooted) (hs' : s'.Intact) (h : Grows s s' new above)
    (hrows : ∀ level, level ≠ new → s'.rowsAt level = s.rowsAt level)
    (hroles : s'.rolePermissions = s.rolePermissions)
    (howner : s'.rowsAt new = [ownerRow stamp owner PredefinedRole.owner.toRole new])
    (now : Moment) (user : String) (a : Action) :
    decision s' now user a new = if user = owner then .ok true else
      match above with
      | none => .ok false
      | some p => decision s now user a p := by
  have hknown : s'.hasScope new = true := by simp [h.hasScope]
  have hallows : s'.Allows user a new now ↔
      user = owner ∨ ∃ p, above = some p ∧ s.Allows user a p now := by
    rw [h.allows_new hs hrows hroles, grantsAt_owner_iff hs' howner]
  rw [Engine.decision_eq hs'.tree, if_pos hknown]
  by_cases huser : user = owner
  · rw [if_pos huser, decide_eq_true (hallows.2 (.inl huser))]
  · rw [if_neg huser]
    cases above with
    | none =>
      have hnot : ¬ s'.Allows user a new now := fun h => by simpa [huser] using hallows.1 h
      rw [decide_eq_false hnot]
    | some p =>
      have hparent : s'.Allows user a new now ↔ s.Allows user a p now := by simp [hallows, huser]
      simp only [Engine.decision_eq hs, if_pos (h.exists_above p rfl), hparent]

/-- **A new scope without rows** is as its parent. -/
theorem decision_inherited {p : Scope} (hs : s.Rooted) (hs' : s'.Rooted)
    (h : Grows s s' new (some p))
    (hrows : ∀ level, level ≠ new → s'.rowsAt level = s.rowsAt level)
    (hroles : s'.rolePermissions = s.rolePermissions) (hnone : s'.rowsAt new = [])
    (now : Moment) (user : String) (a : Action) :
    decision s' now user a new = decision s now user a p := by
  have hknown : s'.hasScope new = true := by simp [h.hasScope]
  have hallows : s'.Allows user a new now ↔ s.Allows user a p now := by
    rw [h.allows_new hs hrows hroles]
    simp [State.GrantsAt, hnone]
  rw [Engine.decision_eq hs', Engine.decision_eq hs, if_pos hknown,
    if_pos (h.exists_above p rfl), propext hallows]

/-! ## The three operations -/

/-- Only the rows at the new scope change when it gets its owner. -/
theorem rowsAt_withOwner_of_ne {now : Moment} {role : Role} {level : Scope}
    (h : s'.assignments = s.assignments) (hne : level ≠ new) :
    (withOwner stamp now owner role new s').rowsAt level = s.rowsAt level :=
  (rowsAt_withOwner hne.symm).trans (State.rowsAt_congr h level)

/-- **A new organization** is its owner's alone. -/
theorem organization_decides {name : String} {body : Change Organization} {o : Organization}
    {now : Moment} (hs : s.Intact) (hs' : s'.Intact)
    (hbody : createOrganization stamp name owner = .ok body)
    (heffect : Change.effect now body s = .ok (o, s')) (hnew : s.hasScope o.scope = false) :
    SameElsewhere o.scope s s' ∧
      ∀ now user a, decision s' now user a o.scope = .ok (decide (user = owner)) := by
  obtain ⟨role, hrole, -, ho, hstate⟩ := createOrganization_eq_ok hbody heffect
  cases hs.ownerRole.symm.trans hrole
  have hgrows : State.Grows s s' o.scope none :=
    State.grows_organization hnew (by simp [hstate]) (by simp [hstate]) (by simp [hstate])
  have hfounded : Founded stamp owner s s' o.scope :=
    hstate ▸ founded_withOwner hs rfl (.inl ⟨o, by rw [ho], rfl, rfl⟩)
  have hrows : ∀ level, level ≠ o.scope → s'.rowsAt level = s.rowsAt level := fun level hne =>
    hstate ▸ rowsAt_withOwner_of_ne rfl hne
  have hroles : s'.rolePermissions = s.rolePermissions := by simp [hstate]
  refine ⟨sameElsewhere_of_grows hs.tree hs'.tree hgrows hrows hroles, fun now user a => ?_⟩
  rw [decision_owned hs.tree hs' hgrows hrows hroles (hfounded.rows hnew).2]
  by_cases huser : user = owner
  · simp [huser]
  · simp [huser]

/-- **A new project** is its owner's, and of those who have the organization. -/
theorem project_decides {organizationId name : String} {description : Option String}
    {body : Change Project} {p : Project} {now : Moment} (hs : s.Intact) (hs' : s'.Intact)
    (hbody : createProject stamp organizationId name description owner = .ok body)
    (heffect : Change.effect now body s = .ok (p, s')) (hnew : s.hasScope p.scope = false) :
    SameElsewhere p.scope s s' ∧ ∀ now user a, decision s' now user a p.scope =
      if user = owner then .ok true
      else decision s now user a (.organization organizationId) := by
  obtain ⟨role, hrole, -, horganization, hp, hstate⟩ := createProject_eq_ok hbody heffect
  cases hs.ownerRole.symm.trans hrole
  have habove : p.organizationId = organizationId := by rw [hp]
  subst habove
  have hgrows : State.Grows s s' p.scope (some (.organization p.organizationId)) :=
    State.grows_project hnew horganization (by simp [hstate]) (by simp [hstate])
      (by simp [hstate])
  have hfounded : Founded stamp owner s s' p.scope :=
    hstate ▸ founded_withOwner hs rfl (.inr ⟨p, by rw [hp], rfl, rfl⟩)
  have hrows : ∀ level, level ≠ p.scope → s'.rowsAt level = s.rowsAt level := fun level hne =>
    hstate ▸ rowsAt_withOwner_of_ne rfl hne
  have hroles : s'.rolePermissions = s.rolePermissions := by simp [hstate]
  exact ⟨sameElsewhere_of_grows hs.tree hs'.tree hgrows hrows hroles,
    decision_owned hs.tree hs' hgrows hrows hroles (hfounded.rows hnew).2⟩

/-- **A new resource** is as its project. -/
theorem resource_decides {projectId name kind : String} {body : Change Resource} {r : Resource}
    {now : Moment} (hs : s.Intact) (hs' : s'.Intact)
    (hbody : createResource stamp projectId name kind = .ok body)
    (heffect : Change.effect now body s = .ok (r, s')) (hnew : s.hasScope r.scope = false) :
    SameElsewhere r.scope s s' ∧ ∀ now user a,
      decision s' now user a r.scope = decision s now user a (.project projectId) := by
  obtain ⟨-, -, hproject, hr, hstate⟩ := createResource_eq_ok hbody heffect
  have habove : r.projectId = projectId := by rw [hr]
  subst habove
  have hgrows : State.Grows s s' r.scope (some (.project r.projectId)) :=
    State.grows_resource hnew hproject (by rw [hstate]) (by rw [hstate]) (by rw [hstate])
  have hrows : ∀ level, s'.rowsAt level = s.rowsAt level := State.rowsAt_congr (by rw [hstate])
  have hroles : s'.rolePermissions = s.rolePermissions := by rw [hstate]
  have hnone : s'.rowsAt r.scope = [] := (hrows _).trans (hs.rowsAt_eq_nil hnew)
  exact ⟨sameElsewhere_of_grows hs.tree hs'.tree hgrows (fun level _ => hrows level) hroles,
    decision_inherited hs.tree hs'.tree hgrows (fun level _ => hrows level) hroles hnone⟩

/-- **A new scope is decided by its owner and its parent, and nothing changes elsewhere.**  In a
store that operations lead to, a creation that succeeds leaves every decision about every other
scope as it was.  A new organization is its owner's alone; in a new project its owner may do
everything and everybody else what they may do in the organization; in a new resource everybody may
do what they may do in the project. -/
theorem created_scopes_decide {before : Store} (hs : Managed before) (stamp : Stamp) {τ : Type}
    (pace : Pace τ) (t t' : τ) (after : Store) :
    (∀ (name owner : String) (o : Organization),
      (Command.createOrganization name owner).run stamp pace (before, t) = (.ok o, after, t') →
      before.committed.hasScope o.scope = false →
      SameElsewhere o.scope before.committed after.committed ∧
        ∀ now user a, decision after.committed now user a o.scope = .ok (decide (user = owner))) ∧
    (∀ (organizationId name : String) (description : Option String) (owner : String) (p : Project),
      (Command.createProject organizationId name description owner).run stamp pace (before, t) =
        (.ok p, after, t') →
      before.committed.hasScope p.scope = false →
      SameElsewhere p.scope before.committed after.committed ∧
        ∀ now user a, decision after.committed now user a p.scope =
          if user = owner then .ok true
          else decision before.committed now user a (.organization organizationId)) ∧
    ∀ (projectId name kind : String) (r : Resource),
      (Command.createResource projectId name kind).run stamp pace (before, t) =
        (.ok r, after, t') →
      before.committed.hasScope r.scope = false →
      SameElsewhere r.scope before.committed after.committed ∧
        ∀ now user a, decision after.committed now user a r.scope =
          decision before.committed now user a (.project projectId) := by
  have hintact := hs.committed_intact
  refine ⟨?_, ?_, ?_⟩
  · intro name owner o hrun hnew
    obtain ⟨hafter, body, hbody, heffect⟩ := hs.effect_of_run hrun
    exact organization_decides hintact hafter hbody heffect hnew
  · intro organizationId name description owner p hrun hnew
    obtain ⟨hafter, body, hbody, heffect⟩ := hs.effect_of_run hrun
    exact project_decides hintact hafter hbody heffect hnew
  · intro projectId name kind r hrun hnew
    obtain ⟨hafter, body, hbody, heffect⟩ := hs.effect_of_run hrun
    exact resource_decides hintact hafter hbody heffect hnew

/-- A project of somebody else in an organization: its owner may do everything there, and who owns
the organization goes on to. -/
theorem created_scopes_decide_project :
    let stamp : Stamp := ⟨⟨5, 0⟩, "p1", "a3"⟩
    let run := (Command.createProject "o1" " Web " none "cem").run stamp ({} : Limits).pace
      (invitedStore, 0)
    let p : Project := ⟨"p1", "o1", "Web", none, ⟨5, 0⟩, ⟨5, 0⟩⟩
    run.1 = .ok p ∧ invitedStore.committed.hasScope p.scope = false ∧
      SameElsewhere p.scope invitedStore.committed run.2.1.committed ∧
      (∀ now a, decision run.2.1.committed now "cem" a p.scope = .ok true) ∧
      ∀ now a, decision run.2.1.committed now "ann" a p.scope =
        decision invitedStore.committed now "ann" a (.organization "o1") := by
  intro stamp run p
  have hok : run.1 = .ok p := (toOption_eq_some_iff (α := Project)).1 (by decide +kernel)
  have hnew : invitedStore.committed.hasScope p.scope = false := by decide +kernel
  obtain ⟨hsame, hdecides⟩ := (created_scopes_decide managed_invitedStore stamp
    ({} : Limits).pace 0 _ _).2.1 _ _ _ _ _ (Prod.ext hok rfl) hnew
  exact ⟨hok, hnew, hsame, fun now a => hdecides now "cem" a, fun now a => hdecides now "ann" a⟩

end Administration

end TenantGuard
