import TenantGuard.Proofs.Administration.Effect
import TenantGuard.Proofs.Store.Reachable

/-!
# The contents stay in order

The operations of administrators write to several tables at once.  Whatever they are given, and
whatever ends them, the tables go on to fit together.

* `State.Intact` says when they do: every grant is there once, and its user, role and scope exist;
  the scope tree is whole; an invitation goes to an address; names can be stored; the roles are the
  built-in ones;
* `Intact.withUser`, `Intact.withGrant`, `Intact.withoutGrant`, `Intact.handedOver` and those for
  new entities say what each kind of write needs to keep that;
* `Command.intact_effect`: every operation that succeeds has found what its writes need;
* `Managed` stores are those that operations lead to, and `Managed.intact` holds of all of them.
-/

namespace TenantGuard

open Store (State Operation)
open Store.State (keys)

/-! ## Contents in order -/

namespace Store

theorem Table.contains_erase {α : Type} (t : Table α) (id id' : String) :
    (t.erase id).contains id' = (decide (id' ≠ id) && t.contains id') := by
  unfold contains
  rw [find?_erase]
  by_cases h : id' = id <;> simp [h]

namespace State

open Administration (IsName IsKind)

/-- **What a grant speaks of exists.** -/
structure Knows (s : State) (k : GrantKey) : Prop where
  user : s.users.contains k.userId = true
  role : s.roles.contains k.roleId = true
  scope : s.hasScope k.scope = true

/-- **What a user's record looks like**: only addresses are invited. -/
structure IsRecord (id : String) (u : User) : Prop where
  id_eq : u.id = id
  invited : u.isPlaceholder = true → Email.isValid id = true ∧ u.email = some id

/-- **Contents that are in order.** -/
structure Intact (s : State) : Prop where
  tree : s.Rooted
  distinct : (keys s.assignments).Nodup
  knows : ∀ row ∈ s.assignments, s.Knows row.key
  user : ∀ {id : String} {u : User}, s.users.find? id = some u → IsRecord id u
  organization : ∀ {id : String} {o : Organization}, s.organizations.find? id = some o →
    IsName o.name
  project : ∀ {id : String} {p : Project}, s.projects.find? id = some p → IsName p.name
  resource : ∀ {id : String} {r : Resource}, s.resources.find? id = some r →
    IsName r.name ∧ IsKind r.kind
  roles : s.roles = seeded.roles
  rolePermissions : s.rolePermissions = seeded.rolePermissions

theorem intact_seeded : seeded.Intact where
  tree := rooted_seeded
  distinct := List.nodup_nil
  knows := by simp [seeded]
  user h := by cases h
  organization h := by cases h
  project h := by cases h
  resource h := by cases h
  roles := rfl
  rolePermissions := rfl

variable {s s' : State} {now : Moment} {k : GrantKey}

theorem hasScope_congr (ho : s'.organizations = s.organizations) (hp : s'.projects = s.projects)
    (hr : s'.resources = s.resources) (scope : Scope) : s'.hasScope scope = s.hasScope scope := by
  unfold hasScope
  rw [ho, hp, hr]

/-! ### Roles -/

theorem contains_of_seeded : ∀ role ∈ seeded.roles.values, seeded.roles.contains role.id = true := by
  decide

/-- A role that is found by its name is kept under its identifier. -/
theorem Intact.contains_role (h : s.Intact) {name : String} {role : Role}
    (hrole : s.roleNamed? name = some role) : s.roles.contains role.id = true := by
  rw [roleNamed?, h.roles] at hrole
  rw [h.roles]
  exact contains_of_seeded role (List.mem_of_find?_eq_some hrole)

/-- The role of owners is the built-in one. -/
theorem Intact.ownerRole (h : s.Intact) :
    s.roleNamed? PredefinedRole.owner.name = some PredefinedRole.owner.toRole := by
  rw [roleNamed?, h.roles]
  decide

/-! ### Users and rows -/

/-- Rows are in order when they stand for different grants that speak of what exists. -/
theorem Intact.withRows (h : s.Intact) {rows : List Assignment} (hd : (keys rows).Nodup)
    (hk : ∀ k ∈ keys rows, s.Knows k) : Intact { s with assignments := rows } where
  tree := h.tree.of_tree rfl rfl rfl
  distinct := hd
  knows _ hrow := ⟨(hk _ (key_mem_keys hrow)).user, (hk _ (key_mem_keys hrow)).role,
    (hk _ (key_mem_keys hrow)).scope⟩
  user := h.user
  organization := h.organization
  project := h.project
  resource := h.resource
  roles := h.roles
  rolePermissions := h.rolePermissions

theorem Intact.knows_keys (h : s.Intact) (hk : k ∈ keys s.assignments) : s.Knows k := by
  obtain ⟨row, hrow, rfl⟩ := List.mem_map.1 hk
  exact h.knows row hrow

theorem Knows.withUser (h : s.Knows k) (u : User) : (s.withUser u).Knows k where
  user := by rw [contains_withUser, h.user, Bool.or_true]
  role := by rw [withUser_roles, h.role]
  scope := by
    rw [hasScope_congr withUser_organizations withUser_projects withUser_resources, h.scope]

/-- **A user comes in** with a record in order. -/
theorem Intact.withUser (h : s.Intact) {u : User} (hu : IsRecord u.id u) :
    (s.withUser u).Intact where
  tree := h.tree.of_tree withUser_organizations withUser_projects withUser_resources
  distinct := by
    rw [withUser_assignments]
    exact h.distinct
  knows row hrow := by
    rw [withUser_assignments] at hrow
    exact (h.knows row hrow).withUser u
  user := by
    intro id v hv
    rw [find?_withUser] at hv
    split at hv
    next hid =>
      cases hold : s.users.find? id with
      | none =>
        rw [hold] at hv
        cases hv
        exact hid ▸ hu
      | some w =>
        rw [hold] at hv
        cases hv
        exact h.user hold
    · exact h.user hv
  organization ho := h.organization (withUser_organizations ▸ ho)
  project hp := h.project (withUser_projects ▸ hp)
  resource hr := h.resource (withUser_resources ▸ hr)
  roles := withUser_roles.trans h.roles
  rolePermissions := withUser_rolePermissions.trans h.rolePermissions

/-- **A grant comes in** that speaks of what exists. -/
theorem Intact.withGrant (h : s.Intact) {a : Assignment} (hk : s.Knows a.key) (now : Moment) :
    (s.withGrant now a).Intact := by
  refine h.withRows (nodup_keys_grant h.distinct) fun k hmem => ?_
  rcases mem_keys_grant.1 hmem with hold | rfl
  · exact h.knows_keys hold
  · exact hk

theorem Intact.withoutGrant (h : s.Intact) (key : GrantKey) : (s.withoutGrant key).Intact :=
  h.withRows (nodup_keys_revoke h.distinct) fun _ hk =>
    h.knows_keys ((keys_revoke_sublist key _).subset hk)

/-- **A user goes**, and all rows go with them. -/
theorem Intact.deleteUser (h : s.Intact) (id : String) : (s.deleteUser id).2.Intact := by
  unfold State.deleteUser
  split
  · exact
      { tree := h.tree.of_tree rfl rfl rfl
        distinct := h.distinct.sublist (List.filter_sublist.map _)
        knows := by
          intro row hrow
          obtain ⟨hrow, hne⟩ := List.mem_filter.1 hrow
          have hk := h.knows row hrow
          have huser : s.users.contains row.userId = true := hk.user
          have hother : row.userId ≠ id := by simpa using hne
          exact ⟨by simp [Table.contains_erase, huser, hother], hk.role, hk.scope⟩
        user := by
          intro id' u hu
          rw [Table.find?_erase] at hu
          split at hu
          · cases hu
          · exact h.user hu
        organization := h.organization
        project := h.project
        resource := h.resource
        roles := h.roles
        rolePermissions := h.rolePermissions }
  · exact h

/-- **Rows go to a user** who exists. -/
theorem Intact.handedOver (h : s.Intact) {target : String}
    (ht : s.users.contains target = true) (now : Moment) (source : String) :
    (s.handedOver now source target).Intact := by
  refine Intact.deleteUser (h.withRows (nodup_keys_reassign h.distinct) fun k hk => ?_) source
  obtain ⟨a, ha, rfl⟩ := mem_keys_reassign hk
  have hknown := h.knows a ha
  refine ⟨?_, by simpa using hknown.role, by simpa using hknown.scope⟩
  change s.users.contains (handed source target a).userId = true
  rw [handed_userId]
  split
  · exact ht
  · exact hknown.user

/-! ### Entities -/

theorem Intact.insertOrganization (h : s.Intact) {o : Organization} (ho : IsName o.name) :
    Intact { s with organizations := s.organizations.insert o.id o } :=
  { h with
    tree := h.tree.insertOrganization o
    knows := by
      intro row hrow
      have hk := h.knows row hrow
      refine ⟨hk.user, hk.role, ?_⟩
      have hscope := hk.scope
      unfold hasScope at hscope ⊢
      split at hscope
      · rw [Table.contains_insert, hscope, Bool.or_true]
      · exact hscope
      · exact hscope
    organization := by
      intro id q hq
      rw [Table.find?_insert] at hq
      split at hq
      · cases hq
        exact ho
      · exact h.organization hq }

theorem Intact.insertProject (h : s.Intact) {p : Project} (hp : IsName p.name)
    (horganization : s.organizations.contains p.organizationId = true) :
    Intact { s with projects := s.projects.insert p.id p } :=
  { h with
    tree := h.tree.insertProject horganization
    knows := by
      intro row hrow
      have hk := h.knows row hrow
      refine ⟨hk.user, hk.role, ?_⟩
      have hscope := hk.scope
      unfold hasScope at hscope ⊢
      split at hscope
      · exact hscope
      · rw [Table.contains_insert, hscope, Bool.or_true]
      · exact hscope
    project := by
      intro id q hq
      rw [Table.find?_insert] at hq
      split at hq
      · cases hq
        exact hp
      · exact h.project hq }

theorem Intact.insertResource (h : s.Intact) {r : Resource} (hname : IsName r.name)
    (hkind : IsKind r.kind) (hproject : s.projects.contains r.projectId = true) :
    Intact { s with resources := s.resources.insert r.id r } :=
  { h with
    tree := h.tree.insertResource hproject
    knows := by
      intro row hrow
      have hk := h.knows row hrow
      refine ⟨hk.user, hk.role, ?_⟩
      have hscope := hk.scope
      unfold hasScope at hscope ⊢
      split at hscope
      · exact hscope
      · exact hscope
      · rw [Table.contains_insert, hscope, Bool.or_true]
    resource := by
      intro id q hq
      rw [Table.find?_insert] at hq
      split at hq
      · cases hq
        exact ⟨hname, hkind⟩
      · exact h.resource hq }

end State

end Store

namespace Administration

open Store.State (IsRecord)

variable {stamp : Stamp} {now : Moment} {s s' : State}

/-! ## Operations keep the contents in order -/

theorem isRecord_known (id : String) (email : Option String) (now : Moment) :
    IsRecord (User.known id email now).id (.known id email now) :=
  ⟨rfl, fun h => by cases h⟩

theorem isRecord_placeholder {email : String} (h : Email.isValid email = true) (now : Moment) :
    IsRecord (User.placeholder email now).id (.placeholder email now) :=
  ⟨rfl, fun _ => ⟨h, rfl⟩⟩

/-- **A new scope gets its owner.** -/
theorem intact_withOwner (h : s.Intact) {owner name : String} {role : Role} {scope : Scope}
    (hrole : s.roleNamed? name = some role) (hscope : s.hasScope scope = true) :
    (withOwner stamp now owner role scope s).Intact := by
  refine (h.withUser (isRecord_known owner none stamp.now)).withGrant ⟨?_, ?_, ?_⟩ now
  · rw [State.contains_withUser]
    simp [ownerRow, Assignment.key, User.known]
  · rw [State.withUser_roles]
    exact h.contains_role hrole
  · rw [State.hasScope_congr State.withUser_organizations State.withUser_projects
      State.withUser_resources]
    exact hscope

/-- **Every operation keeps the contents in order.** -/
theorem Command.intact_effect {c : Command} {body : Change c.Answer} {a : c.Answer}
    (hbody : c.body stamp = .ok body) (h : Change.effect now body s = .ok (a, s'))
    (hs : s.Intact) : s'.Intact := by
  cases c with
  | createOrganization name owner =>
    obtain ⟨role, hrole, hname, rfl, rfl⟩ := createOrganization_eq_ok hbody h
    refine intact_withOwner (hs.insertOrganization hname) hrole ?_
    simp [State.hasScope, Organization.scope, Scope.organization, Store.Table.contains_insert]
  | createProject organizationId name description owner =>
    obtain ⟨role, hrole, hname, horganization, rfl, rfl⟩ := createProject_eq_ok hbody h
    refine intact_withOwner (hs.insertProject hname horganization) hrole ?_
    simp [State.hasScope, Project.scope, Scope.project, Store.Table.contains_insert]
  | createResource projectId name kind =>
    obtain ⟨hname, hkind, hproject, rfl, rfl⟩ := createResource_eq_ok hbody h
    exact hs.insertResource hname hkind hproject
  | assignRole request =>
    obtain ⟨role, -, hrole, hscope, huser, -, rfl⟩ := assignRole_eq_ok hbody h
    have hknown : (s.withUser (.placeholder request.userId stamp.now)).Intact := by
      cases hcontains : s.users.contains request.userId with
      | true =>
        rw [State.withUser_of_contains hcontains]
        exact hs
      | false =>
        have hvalid := huser.resolve_left (by simp [hcontains])
        exact hs.withUser (isRecord_placeholder hvalid stamp.now)
    refine hknown.withGrant ⟨?_, ?_, ?_⟩ now
    · rw [State.contains_withUser]
      simp [requestedRow, Assignment.key, User.placeholder]
    · rw [State.withUser_roles]
      exact hs.contains_role hrole
    · rw [State.hasScope_congr State.withUser_organizations State.withUser_projects
        State.withUser_resources]
      exact hscope
  | revokeRole userId roleName scope =>
    cases hbody
    obtain ⟨role, -, rfl⟩ := revokeRole_eq_ok h
    exact hs.withoutGrant _
  | transferPlaceholder email userId =>
    obtain ⟨-, -, rfl⟩ := transferPlaceholder_eq_ok hbody h
    refine (hs.withUser (isRecord_known userId (some email) stamp.now)).handedOver ?_ now email
    rw [State.contains_withUser]
    simp [User.known]
  | reconcileLogin userId email =>
    cases hbody
    have hknown := hs.withUser (isRecord_known userId email stamp.now)
    cases reconcileLogin_eq_ok h
    split
    · exact hknown
    next e _ =>
      refine hknown.handedOver ?_ now e
      rw [State.contains_withUser]
      simp [User.known]

/-! ## Whole runs -/

/-- **One operation** comes to a result together with its effect on the contents of a free store, or
fails and leaves the store as it was.  The clock of the store may differ from that of the
operation. -/
theorem Command.transact_cases {τ : Type} (c : Command) (stamp : Stamp) (now : Moment)
    (pace : Pace τ) (x : Store × τ) :
    (∃ body a s, c.body stamp = .ok body ∧ x.1.working = none ∧
      (Store.transactIfValidAt pace now (c.body stamp) x).1 = .ok a ∧
      Change.effect now body x.1.committed = .ok (a, s) ∧
      (Store.transactIfValidAt pace now (c.body stamp) x).2.1 = { x.1 with committed := s }) ∨
    ∃ e, (Store.transactIfValidAt pace now (c.body stamp) x).1 = .error e ∧
      (Store.transactIfValidAt pace now (c.body stamp) x).2.1 = x.1 := by
  unfold Store.transactIfValidAt
  split
  next e hbody => exact .inr ⟨e, rfl, rfl⟩
  next body hbody =>
  rcases Store.transactAt_cases pace now (Command.failsFast hbody) x with
    ⟨a, s, hok, hfree, heffect, hs⟩ | hfailed
  · exact .inl ⟨body, a, s, hbody, hfree, hok, heffect, hs⟩
  · exact .inr hfailed

/-- **The stores that operations lead to** from a fresh one: operations of any kind, at any time and
with any identifiers, whose steps fail, time out or are cancelled in any way. -/
inductive Managed : Store → Prop where
  | fresh : Managed .fresh
  | armed {s : Store} (failing : List Store.FailPoint) : Managed s → Managed { s with failing }
  | delayed {s : Store} (latency : Nat) : Managed s → Managed { s with latency }
  | operated {s : Store} {τ : Type} (c : Command) (stamp : Stamp) (now : Moment) (pace : Pace τ)
      (t : τ) : Managed s →
      Managed (Store.transactIfValidAt pace now (c.body stamp) (s, t)).2.1

/-- Every operation finds the contents in order and leaves them so, whatever ends it. -/
theorem Managed.committed_intact {s : Store} (h : Managed s) : s.committed.Intact := by
  induction h with
  | fresh => exact State.intact_seeded
  | armed failing _ ih => exact ih
  | delayed latency _ ih => exact ih
  | @operated s τ c stamp now pace t _ ih =>
    rcases Command.transact_cases c stamp now pace (s, t) with
      ⟨body, a, s', hbody, -, -, heffect, hs⟩ | ⟨e, -, hs⟩
    · rw [hs]
      exact Command.intact_effect hbody heffect ih
    · rw [hs]
      exact ih

theorem Managed.working_eq_none {s : Store} (h : Managed s) : s.working = none := by
  induction h with
  | fresh => rfl
  | armed failing _ ih => exact ih
  | delayed latency _ ih => exact ih
  | @operated s τ c stamp now pace t _ ih =>
    rcases Command.transact_cases c stamp now pace (s, t) with
      ⟨_, _, _, -, -, -, -, hs⟩ | ⟨e, -, hs⟩
    · rw [hs]
      exact ih
    · rw [hs]
      exact ih

/-- **The contents are in order after every run of operations**, and no transaction is left open. -/
theorem Managed.intact {s : Store} (h : Managed s) :
    s.committed.Intact ∧ s.working = none :=
  ⟨h.committed_intact, h.working_eq_none⟩

/-- **A run that succeeds** has the effect of its operation, and leaves the contents in order. -/
theorem Managed.effect_of_run {before after : Store} (hs : Managed before) {c : Command}
    {stamp : Stamp} {τ : Type} {pace : Pace τ} {t t' : τ} {r : c.Answer}
    (hrun : c.run stamp pace (before, t) = (.ok r, after, t')) :
    after.committed.Intact ∧ ∃ body, c.body stamp = .ok body ∧
      Change.effect stamp.now body before.committed = .ok (r, after.committed) := by
  have hok := congrArg (·.1) hrun
  have hafter := congrArg (·.2.1) hrun
  rcases Command.transact_cases c stamp stamp.now pace (before, t) with
    ⟨body, a, s, hbody, -, hresult, heffect, hstore⟩ | ⟨e, herror, -⟩
  · cases hresult.symm.trans hok
    cases hstore.symm.trans hafter
    exact ⟨Command.intact_effect hbody heffect hs.committed_intact, body, hbody, heffect⟩
  · cases herror.symm.trans hok

/-! ## One run -/

/-- The store after an operation that nothing disturbs. -/
def Command.after (c : Command) (stamp : Stamp) (s : Store) : Store :=
  (Store.transactIfValidAt ({} : Limits).pace stamp.now (c.body stamp) (s, 0)).2.1

/-- An organization, and a viewer of it who was invited by email. -/
def invitedStore : Store :=
  let s := (Command.createOrganization " Acme " "ann").after ⟨⟨0, 0⟩, "o1", "a1"⟩ .fresh
  (Command.assignRole ⟨"bob@example.com", "viewer", .organization "o1", some "ann", none⟩).after
    ⟨⟨1, 0⟩, "", "a2"⟩ s

theorem managed_invitedStore : Managed invitedStore :=
  .operated _ _ _ _ _ (.operated _ _ _ _ _ .fresh)

/-- An invitation that was recorded and claimed leaves two grants, each of them of a known user. -/
theorem Managed.intact_claimed :
    let s := (Command.reconcileLogin "bob" (some "bob@example.com")).after ⟨⟨2, 0⟩, "", ""⟩
      invitedStore
    Managed s ∧ s.committed.Intact ∧ s.working = none ∧
      keys s.committed.assignments =
        [⟨"ann", "owner", .organization "o1"⟩, ⟨"bob", "viewer", .organization "o1"⟩] := by
  have hs : Managed ((Command.reconcileLogin "bob" (some "bob@example.com")).after
      ⟨⟨2, 0⟩, "", ""⟩ invitedStore) := .operated _ _ _ _ _ managed_invitedStore
  exact ⟨hs, hs.intact.1, hs.intact.2, by decide +kernel⟩

end Administration

end TenantGuard
