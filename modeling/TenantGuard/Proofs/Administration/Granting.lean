import TenantGuard.Proofs.Administration.Invitation

/-!
# What a grant and a revocation change

A grant gives its user what its role allows at a scope and below it, and a revocation takes just
that away: what is left is what the user's other rows allow.

* `State.allows_withGrant` says what is allowed after a grant that is active, whatever rows there
  were of it, and `State.grants_withoutGrant` which rows allow something after a revocation;
* `Conferred` and `Withdrawn` say what the two come to for every user, action and scope;
* `granted_and_revoked`: in a store that operations lead to, granting a role comes to the one and
  revoking it to the other.
-/

namespace TenantGuard

open Store (State)
open Engine (decision)

/-! ## Permissions after a grant -/

namespace Store.State

variable {s : State} {g row : Assignment} {key : GrantKey} {user : String} {a : Action}
  {scope : Scope} {now : Moment}

/-- **After a grant its user may do what its role allows**, at its scope and below it, besides what
could be done before. -/
theorem allows_withGrant (hg : g.isActiveAt now = true) :
    (s.withGrant now g).Allows user a scope now ↔ s.Allows user a scope now ∨
      user = g.userId ∧ s.Below scope g.scope ∧ s.roleAllows a g.roleId = true := by
  have hbelow : (s.withGrant now g).Below = s.Below := below_congr rfl rfl
  have hroles : ∀ roleId, (s.withGrant now g).roleAllows a roleId = s.roleAllows a roleId :=
    roleAllows_congr rfl a
  have hrows : ∀ roleId level,
      HoldsActive (s.withGrant now g).assignments user now roleId level ↔
        HoldsActive s.assignments user now roleId level ∨ g.key = ⟨user, roleId, level⟩ :=
    fun _ _ => holdsActive_grant hg s.assignments
  simp only [allows_iff_holdsActive, hbelow, hroles, hrows]
  constructor
  · rintro ⟨roleId, level, hheld | hkey, hanchored, hallows⟩
    · exact .inl ⟨roleId, level, hheld, hanchored, hallows⟩
    · cases hkey
      exact .inr ⟨rfl, hanchored, hallows⟩
  · rintro (⟨roleId, level, hheld, hanchored, hallows⟩ | ⟨rfl, hanchored, hallows⟩)
    · exact ⟨roleId, level, .inl hheld, hanchored, hallows⟩
    · exact ⟨g.roleId, g.scope, .inr rfl, hanchored, hallows⟩

/-! ## Permissions after a revocation -/

/-- **After a revocation** the rows of other grants allow what they allowed. -/
theorem grants_withoutGrant : (s.withoutGrant key).Grants user a scope now row ↔
    s.Grants user a scope now row ∧ row.key ≠ key := by
  have hbelow : (s.withoutGrant key).Below = s.Below := below_congr rfl rfl
  have hmem : row ∈ (s.withoutGrant key).assignments ↔ row ∈ s.assignments ∧ row.key ≠ key := by
    simp [withoutGrant, revoke]
  constructor
  · intro h
    obtain ⟨hrow, hkey⟩ := hmem.1 h.mem
    exact ⟨⟨hrow, h.user, h.active, hbelow ▸ h.anchored, h.allows⟩, hkey⟩
  · rintro ⟨h, hkey⟩
    exact ⟨hmem.2 ⟨h.mem, hkey⟩, h.user, h.active, hbelow ▸ h.anchored, h.allows⟩

/-- A row that allows something to someone else, or elsewhere in the tree, is of another grant. -/
theorem Grants.key_ne (h : s.Grants user a scope now row)
    (hother : user ≠ key.userId ∨ ¬ s.Below scope key.scope) : row.key ≠ key := by
  rintro rfl
  rcases hother with huser | hbelow
  · exact huser h.user.symm
  · exact hbelow h.anchored

end Store.State

namespace Administration

/-! ## What the two come to -/

open Classical in
/-- **What a grant comes to**, seen at one instant: its user may do what the role allows, at the
scope of the grant and below it, and for the rest all is as before. -/
structure Conferred (now : Moment) (key : GrantKey) (before after : State) : Prop where
  decision_eq : ∀ user a scope, decision after now user a scope =
    (decision before now user a scope).map (· || decide (user = key.userId ∧
      before.Below scope key.scope ∧ before.roleAllows a key.roleId = true))

open Classical in
/-- **What a revocation comes to**, from then on. -/
structure Withdrawn (key : GrantKey) (before after : State) : Prop where
  gone : ∀ row ∈ after.assignments, row.key ≠ key
  /-- Nobody else loses anything, and nothing is lost elsewhere in the tree. -/
  decision_other : ∀ now user a scope, user ≠ key.userId ∨ ¬ before.Below scope key.scope →
    decision after now user a scope = decision before now user a scope
  /-- The user may do what another active row allows, at a scope that exists. -/
  decision_user : ∀ now a scope, decision after now key.userId a scope =
    (decision before now key.userId a scope).map fun _ =>
      decide (∃ row, before.Grants key.userId a scope now row ∧ row.key ≠ key)

variable {s : State} {stamp : Stamp} {now : Moment} {u : User} {g : Assignment} {key : GrantKey}

open Classical in
/-- **A grant that is active** confers its role, whether its user was known or comes in with it. -/
theorem conferred_withGrant (hs : s.Rooted) (hafter : ((s.withUser u).withGrant now g).Rooted)
    (hg : g.isActiveAt now = true) :
    Conferred now g.key s ((s.withUser u).withGrant now g) where
  decision_eq user a scope := by
    have hscope : ((s.withUser u).withGrant now g).hasScope scope = s.hasScope scope :=
      State.hasScope_congr State.withUser_organizations State.withUser_projects
        State.withUser_resources scope
    have hbelow : (s.withUser u).Below = s.Below :=
      State.below_congr State.withUser_projects State.withUser_resources
    have hroles : (s.withUser u).roleAllows a g.roleId = s.roleAllows a g.roleId :=
      State.roleAllows_congr State.withUser_rolePermissions a g.roleId
    refine Engine.decision_map hs hafter hscope ?_
    rw [State.allows_withGrant hg, State.allows_withUser, hbelow, hroles, Bool.or_eq_true,
      decide_eq_true_iff, decide_eq_true_iff]
    rfl

open Classical in
/-- **Without a grant** there is what the other rows allow. -/
theorem withdrawn_withoutGrant (hs : s.Rooted) (key : GrantKey) :
    Withdrawn key s (s.withoutGrant key) where
  gone row hrow := by
    simp only [State.withoutGrant, State.revoke, List.mem_filter, bne_iff_ne] at hrow
    exact hrow.2
  decision_other now user a scope hother := by
    refine Engine.decision_congr hs (hs.of_tree rfl rfl rfl) rfl (exists_congr fun row => ?_)
    rw [State.grants_withoutGrant]
    exact and_iff_left_of_imp fun h => h.key_ne hother
  decision_user now a scope := by
    refine Engine.decision_map hs (hs.of_tree rfl rfl rfl) rfl ?_
    rw [decide_eq_true_iff]
    exact exists_congr fun row => State.grants_withoutGrant

/-! ## The two operations -/

/-- What is granted does not expire at once. -/
theorem isActiveAt_requestedRow {request : GrantRequest} {role : Role}
    (h : validateExpiry stamp.now request.expiresAt = .ok ()) :
    (requestedRow stamp request role).isActiveAt stamp.now = true := by
  refine (State.isActiveAt_iff _ _).2 fun e he => ?_
  have he : request.expiresAt = some e := he
  rw [he, validateExpiry] at h
  split at h
  next hlt => exact hlt
  · cases h

/-- **Granting a role and revoking it change exactly the decisions they speak of.**  In a store that
operations lead to, who is granted a role may do what it allows at its scope and below it, whether
or not there was a row of the grant already; and once it is revoked it allows nothing anywhere,
while every other row allows what it did. -/
theorem granted_and_revoked {before : Store} (hs : Managed before) (stamp : Stamp) {τ : Type}
    (pace : Pace τ) (t t' : τ) (after : Store) :
    (∀ (request : GrantRequest) (g : Granted),
      (Command.assignRole request).run stamp pace (before, t) = (.ok g, after, t') →
      before.committed.roleNamed? request.roleName = some g.role ∧
        Conferred stamp.now ⟨request.userId, g.role.id, request.scope⟩ before.committed
          after.committed) ∧
    ∀ (user roleName : String) (scope : Scope) (found : Bool),
      (Command.revokeRole user roleName scope).run stamp pace (before, t) =
        (.ok found, after, t') →
      ∃ role, before.committed.roleNamed? roleName = some role ∧
        Withdrawn ⟨user, role.id, scope⟩ before.committed after.committed := by
  have htree := hs.committed_intact.tree
  constructor
  · intro request g hrun
    obtain ⟨hafter, body, hbody, heffect⟩ := hs.effect_of_run hrun
    obtain ⟨role, hexpiry, hrole, -, -, rfl, hstate⟩ := assignRole_eq_ok hbody heffect
    refine ⟨hrole, ?_⟩
    rw [hstate] at hafter ⊢
    exact conferred_withGrant htree hafter.tree (isActiveAt_requestedRow hexpiry)
  · intro user roleName scope found hrun
    obtain ⟨-, body, hbody, heffect⟩ := hs.effect_of_run hrun
    cases hbody
    obtain ⟨role, hrole, hstate⟩ := revokeRole_eq_ok heffect
    refine ⟨role, hrole, ?_⟩
    rw [hstate]
    exact withdrawn_withoutGrant htree _

/-- The invited viewer is made an editor under another spelling of the role's name, or is no viewer
any more. -/
theorem granted_and_revoked_invited :
    let stamp : Stamp := ⟨⟨5, 0⟩, "", "a3"⟩
    let level : Scope := .organization "o1"
    let granted := (Command.assignRole ⟨"bob@example.com", "EDITOR", level, none, none⟩).run stamp
      ({} : Limits).pace (invitedStore, 0)
    let revoked := (Command.revokeRole "bob@example.com" "viewer" level).run stamp
      ({} : Limits).pace (invitedStore, 0)
    (∃ g, granted.1 = .ok g ∧ g.outcome = .created) ∧
      decision granted.2.1.committed stamp.now "bob@example.com" .write level = .ok true ∧
      revoked.1 = .ok true ∧
      decision revoked.2.1.committed stamp.now "bob@example.com" .read level = .ok false := by
  intro stamp level granted revoked
  let g : Granted := ⟨"bob@example.com", PredefinedRole.editor.toRole, level, .created, false⟩
  have hgranted : granted.1 = .ok g :=
    (toOption_eq_some_iff (α := Granted)).1 (by decide +kernel)
  have hrevoked : revoked.1 = .ok true := rfl
  obtain ⟨-, hconferred⟩ := (granted_and_revoked managed_invitedStore stamp ({} : Limits).pace 0
    _ _).1 _ _ (Prod.ext hgranted rfl)
  obtain ⟨role, hrole, hwithdrawn⟩ := (granted_and_revoked managed_invitedStore stamp
    ({} : Limits).pace 0 _ _).2 _ _ _ _ (Prod.ext hrevoked rfl)
  have hviewer : invitedStore.committed.roleNamed? "viewer" =
      some PredefinedRole.viewer.toRole := by decide +kernel
  cases hrole.symm.trans hviewer
  -- the organization is there, so that both decisions are yes or no
  have hknown : invitedStore.committed.hasScope level = true := by decide +kernel
  have hdecided : ∀ a, ∃ b, decision invitedStore.committed stamp.now "bob@example.com" a level =
      .ok b := fun a => by
    rw [Engine.decision_eq managed_invitedStore.committed_intact.tree, if_pos hknown]
    exact ⟨_, rfl⟩
  refine ⟨⟨_, hgranted, rfl⟩, ?_, hrevoked, ?_⟩
  · have hallows : invitedStore.committed.roleAllows .write "editor" = true := by decide +kernel
    obtain ⟨b, hb⟩ := hdecided .write
    rw [hconferred.decision_eq, hb]
    have hconfers : b = true ∨ invitedStore.committed.roleAllows .write g.role.id = true :=
      .inr hallows
    simpa [Except.map, State.Below, Relation.ReflTransGen.refl] using hconfers
  · have honly : ∀ row ∈ invitedStore.committed.assignments, row.userId = "bob@example.com" →
        row.key = ⟨"bob@example.com", "viewer", level⟩ := by decide +kernel
    obtain ⟨b, hb⟩ := hdecided .read
    have hnone : ¬ ∃ row, invitedStore.committed.Grants "bob@example.com" .read level stamp.now
        row ∧ row.key ≠ ⟨"bob@example.com", "viewer", level⟩ := by
      rintro ⟨row, hrow, hkey⟩
      exact hkey (honly row hrow.mem hrow.user)
    have hleft := hwithdrawn.decision_user stamp.now .read level
    rw [hb] at hleft
    classical exact hleft.trans (congrArg Except.ok (decide_eq_false hnone))

end Administration

end TenantGuard
