import TenantGuard.Proofs.Administration.Integrity
import TenantGuard.Proofs.Engine.Enforcement

/-!
# Operations that somebody may order

Grants are changed by who may manage access to their scope, and entities are added by who may write
to the scope above them.

* `Command.PermittedTo` says which operations a user may order;
* `State.rowsAt` are the rows at a scope, and `rowsAt_withGrant`, `rowsAt_withoutGrant` say that a
  grant leaves those at other scopes alone;
* `Founded`: who creates a scope becomes its owner, and nothing else is granted at it;
* `Command.authorized_effect`: what an operation of one's own changes is what one may change,
  `Authorized`;
* `loggedIn_of_effect`: a login hands the rows of an invitation over, `LoggedIn`.
-/

namespace TenantGuard

open Store (State)
open Engine (decision)

namespace Store

/-- An entry of a table is an old one or the one that was put in. -/
theorem Table.find?_insert_cases {α : Type} {t : Table α} {id id' : String} {a b : α}
    (h : (t.insert id a).find? id' = some b) : t.find? id' = some b ∨ b = a := by
  rw [find?_insert] at h
  split at h
  · exact .inr (Option.some.inj h).symm
  · exact .inl h

/-! ## Rows at a scope -/

namespace State

variable {s : State} {now : Moment} {scope : Scope}

/-- **The rows at a scope.** -/
def rowsAt (s : State) (scope : Scope) : List Assignment := s.assignments.filter (·.scope == scope)

theorem rowsAt_congr {s' : State} (h : s'.assignments = s.assignments) (scope : Scope) :
    s'.rowsAt scope = s.rowsAt scope := by
  rw [rowsAt, rowsAt, h]

theorem rowsAt_withGrant {a : Assignment} (h : a.scope ≠ scope) :
    (s.withGrant now a).rowsAt scope = s.rowsAt scope :=
  filter_grant (p := fun k => k.scope == scope) (beq_false_of_ne h) s.assignments

theorem rowsAt_withoutGrant {key : GrantKey} (h : key.scope ≠ scope) :
    (s.withoutGrant key).rowsAt scope = s.rowsAt scope :=
  filter_revoke (p := fun k => k.scope == scope) (beq_false_of_ne h) s.assignments

/-- At a scope that does not exist there are no rows. -/
theorem Intact.rowsAt_eq_nil (h : s.Intact) (hscope : s.hasScope scope = false) :
    s.rowsAt scope = [] := by
  refine List.filter_eq_nil_iff.2 fun row hrow heq => ?_
  have hknown : s.hasScope row.scope = true := (h.knows row hrow).scope
  rw [eq_of_beq heq, hscope] at hknown
  cases hknown

end State

end Store

namespace Administration

variable {stamp : Stamp} {user : String} {s s' : State} {scope : Scope}

/-! ## What may be ordered -/

/-- **An operation that a user may order**, given the contents at an instant. -/
inductive Command.PermittedTo (s : State) (now : Moment) (user : String) : Command → Prop where
  | createOrganization (name : String) : PermittedTo s now user (.createOrganization name user)
  | createProject {organizationId : String} (name : String) (description : Option String)
    (h : decision s now user .write (.organization organizationId) = .ok true) :
    PermittedTo s now user (.createProject organizationId name description user)
  | createResource {projectId : String} (name kind : String)
    (h : decision s now user .write (.project projectId) = .ok true) :
    PermittedTo s now user (.createResource projectId name kind)
  | assignRole {request : GrantRequest}
    (h : decision s now user .manageAccess request.scope = .ok true) :
    PermittedTo s now user (.assignRole request)
  | revokeRole {scope : Scope} (userId roleName : String)
    (h : decision s now user .manageAccess scope = .ok true) :
    PermittedTo s now user (.revokeRole userId roleName scope)

/-! ## What may be changed -/

/-- **A scope that was created for a user**, who became its owner. -/
structure Founded (stamp : Stamp) (user : String) (before after : State) (scope : Scope) :
    Prop where
  /-- It is the scope of the organization or the project that was added. -/
  created :
    (∃ o : Organization, o.id = stamp.entityId ∧ scope = o.scope ∧
      after.organizations = before.organizations.insert o.id o) ∨
    ∃ p : Project, p.id = stamp.entityId ∧ scope = p.scope ∧
      after.projects = before.projects.insert p.id p
  /-- Only the user's own grant of ownership is touched. -/
  others : (after.rowsAt scope).filter (·.key != ⟨user, PredefinedRole.owner.id, scope⟩) =
    (before.rowsAt scope).filter (·.key != ⟨user, PredefinedRole.owner.id, scope⟩)
  /-- At a scope that is new, it is the only one. -/
  rows : before.hasScope scope = false → before.rowsAt scope = [] ∧
    after.rowsAt scope = [ownerRow stamp user PredefinedRole.owner.toRole scope]

/-- **What a user changed** is what the user may change. -/
structure Authorized (stamp : Stamp) (user : String) (before after : State) : Prop where
  grants : ∀ scope, after.rowsAt scope ≠ before.rowsAt scope →
    decision before stamp.now user .manageAccess scope = .ok true ∨
      Founded stamp user before after scope
  project : ∀ id p, after.projects.find? id = some p → before.projects.find? id = some p ∨
    decision before stamp.now user .write (.organization p.organizationId) = .ok true
  resource : ∀ id r, after.resources.find? id = some r → before.resources.find? id = some r ∨
    decision before stamp.now user .write (.project r.projectId) = .ok true

/-! ## Founding -/

theorem rowsAt_withOwner {now : Moment} {role : Role} {place : Scope} (h : place ≠ scope) :
    (withOwner stamp now user role place s).rowsAt scope = s.rowsAt scope := by
  rw [State.rowsAt, withOwner_assignments]
  exact State.filter_grant (a := ownerRow stamp user role place) (p := fun k => k.scope == scope)
    (beq_false_of_ne h) s.assignments

/-- **A new scope belongs to who created it.** -/
theorem founded_withOwner (hs : s.Intact) {now : Moment}
    (hrows : s'.assignments = s.assignments)
    (hcreated : (∃ o : Organization, o.id = stamp.entityId ∧ scope = o.scope ∧
        s'.organizations = s.organizations.insert o.id o) ∨
      ∃ p : Project, p.id = stamp.entityId ∧ scope = p.scope ∧
        s'.projects = s.projects.insert p.id p) :
    Founded stamp user s (withOwner stamp now user PredefinedRole.owner.toRole scope s') scope where
  created := by simpa using hcreated
  others := by
    rw [State.rowsAt, State.rowsAt, withOwner_assignments, hrows, List.filter_filter,
      List.filter_filter]
    exact State.filter_grant (p := fun k =>
      k != ⟨user, PredefinedRole.owner.id, scope⟩ && k.scope == scope)
      (by simp [ownerRow, Assignment.key, PredefinedRole.toRole]) s.assignments
  rows hnew := by
    have hnone : s.assignments.filter (·.scope == scope) = [] := hs.rowsAt_eq_nil hnew
    have hkey : (ownerRow stamp user PredefinedRole.owner.toRole scope).key ∉
        State.keys s.assignments := fun hmem => by
      cases hnew.symm.trans (hs.knows_keys hmem).scope
    refine ⟨hnone, ?_⟩
    rw [State.rowsAt, withOwner_assignments, hrows, State.grant_of_not_mem hkey,
      List.filter_append, hnone]
    simp [ownerRow]

/-! ## Operations -/

theorem Authorized.refl (s : State) : Authorized stamp user s s :=
  ⟨fun _ h => absurd rfl h, fun _ _ h => .inl h, fun _ _ h => .inl h⟩

/-- **An operation changes what its user may change.** -/
theorem Command.authorized_effect {now : Moment} (hs : s.Intact) {c : Command}
    (hc : c.PermittedTo s stamp.now user) {body : Change c.Answer} {a : c.Answer}
    (hbody : c.body stamp = .ok body) (h : Change.effect now body s = .ok (a, s')) :
    Authorized stamp user s s' := by
  -- each operation writes rows at one scope: that of the grant, or the one that it creates
  cases hc with
  | createOrganization name =>
    obtain ⟨role, hrole, -, rfl, rfl⟩ := createOrganization_eq_ok hbody h
    cases hs.ownerRole.symm.trans hrole
    refine ⟨fun scope hchanged => .inr ?_, fun id p hp => .inl ?_, fun id r hr => .inl ?_⟩
    · have hscope : scope = .organization stamp.entityId :=
        Decidable.byContradiction fun hne => hchanged (rowsAt_withOwner (Ne.symm hne))
      subst hscope
      exact founded_withOwner hs rfl (.inl ⟨_, rfl, rfl, rfl⟩)
    · rwa [withOwner_projects] at hp
    · rwa [withOwner_resources] at hr
  | createProject name description hwrite =>
    obtain ⟨role, hrole, -, -, rfl, rfl⟩ := createProject_eq_ok hbody h
    cases hs.ownerRole.symm.trans hrole
    refine ⟨fun scope hchanged => .inr ?_, fun id p hp => ?_, fun id r hr => .inl ?_⟩
    · have hscope : scope = .project stamp.entityId :=
        Decidable.byContradiction fun hne => hchanged (rowsAt_withOwner (Ne.symm hne))
      subst hscope
      exact founded_withOwner hs rfl (.inr ⟨_, rfl, rfl, rfl⟩)
    · rw [withOwner_projects] at hp
      rcases Store.Table.find?_insert_cases hp with hold | rfl
      · exact .inl hold
      · exact .inr hwrite
    · rwa [withOwner_resources] at hr
  | createResource name kind hwrite =>
    obtain ⟨-, -, -, rfl, rfl⟩ := createResource_eq_ok hbody h
    refine ⟨fun scope hchanged => absurd rfl hchanged, fun id p hp => .inl hp, fun id r hr => ?_⟩
    rcases Store.Table.find?_insert_cases hr with hold | rfl
    · exact .inl hold
    · exact .inr hwrite
  | @assignRole request hmanage =>
    obtain ⟨role, -, -, -, -, -, rfl⟩ := assignRole_eq_ok hbody h
    refine ⟨fun scope hchanged => .inl ?_, fun id p hp => .inl ?_, fun id r hr => .inl ?_⟩
    · have hscope : request.scope = scope := Decidable.byContradiction fun hne => hchanged
        ((State.rowsAt_withGrant hne).trans (State.rowsAt_congr State.withUser_assignments scope))
      exact hscope ▸ hmanage
    · exact State.withUser_projects ▸ hp
    · exact State.withUser_resources ▸ hr
  | @revokeRole place userId roleName hmanage =>
    cases hbody
    obtain ⟨role, -, rfl⟩ := revokeRole_eq_ok h
    refine ⟨fun scope hchanged => .inl ?_, fun id p hp => .inl hp, fun id r hr => .inl hr⟩
    have hscope : place = scope :=
      Decidable.byContradiction fun hne => hchanged (State.rowsAt_withoutGrant hne)
    exact hscope ▸ hmanage

/-! ## Logins -/

/-- **What the record of a login comes to**: the rows of a placeholder that the user's email names
may be handed to the user. -/
structure LoggedIn (now : Moment) (user : String) (email : Option String) (before after : State) :
    Prop where
  organizations : after.organizations = before.organizations
  projects : after.projects = before.projects
  resources : after.resources = before.resources
  rows : after.assignments = before.assignments ∨ ∃ e, email = some e ∧ e ≠ user ∧
    (∃ u, before.users.find? e = some u ∧ u.isPlaceholder = true) ∧
    State.Rekeyed now e user before.assignments after.assignments

theorem LoggedIn.refl (now : Moment) (user : String) (email : Option String) (s : State) :
    LoggedIn now user email s s := ⟨rfl, rfl, rfl, .inl rfl⟩

/-- **A login changes rows** by handing over those of an invitation, and in no other way. -/
theorem loggedIn_of_effect {now : Moment} {email : Option String} {r : Reconciled}
    (h : Change.effect now (reconcileLogin stamp.now user email) s = .ok (r, s')) :
    LoggedIn now user email s s' := by
  cases reconcileLogin_eq_ok h
  split
  · exact ⟨by simp, by simp, by simp, .inl (by simp)⟩
  next e hpending =>
    obtain ⟨hemail, -, hne, hinvited⟩ := pending_eq_some hpending
    refine ⟨by simp, by simp, by simp, .inr ⟨e, hemail, hne, hinvited, ?_⟩⟩
    rw [State.assignments_handedOver hne, State.withUser_assignments]
    exact State.rekeyed_reassign hne now s.assignments

end Administration

end TenantGuard
