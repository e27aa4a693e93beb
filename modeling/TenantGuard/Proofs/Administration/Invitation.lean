import TenantGuard.Proofs.Administration.Integrity
import TenantGuard.Proofs.Engine.Enforcement

/-!
# Claiming an invitation

Who claims an invitation gets what was granted to the invited address, and nobody else gains or
loses anything.

* `State.allows_handedOver`: the user may do what either of the two could do, on every level of the
  tree;
* `State.allows_congr_rows`: a user whose rows are the same may do the same;
* `Claimed` says what a claim comes to, `claimed_handedOver` that handing the rows over does that,
  and `claimed_of_ok` that both operations that claim an invitation do.
-/

namespace TenantGuard

open Store (State)
open Store.State (HoldsActive)
open Engine (decision)

/-! ## Permissions after a hand-over -/

namespace Store.State

variable {s s' : State} {u : User} {source target user : String} {a : Action} {scope : Scope}
  {now : Moment}

/-- Nobody's rows change when a user comes in. -/
theorem allows_withUser : (s.withUser u).Allows user a scope now ↔ s.Allows user a scope now := by
  simp only [allows_iff_holdsActive, withUser_assignments,
    below_congr withUser_projects withUser_resources, roleAllows_congr withUser_rolePermissions]

/-- **Who gets the rows of another user** may do what either of them could do. -/
theorem allows_handedOver (h : source ≠ target) :
    (s.handedOver now source target).Allows target a scope now ↔
      s.Allows target a scope now ∨ s.Allows source a scope now := by
  simp only [allows_iff_holdsActive, assignments_handedOver h, holdsActive_reassign h,
    below_congr handedOver_projects handedOver_resources,
    roleAllows_congr handedOver_rolePermissions]
  constructor
  · rintro ⟨roleId, level, htarget | hsource, hbelow, hallows⟩
    · exact .inl ⟨roleId, level, htarget, hbelow, hallows⟩
    · exact .inr ⟨roleId, level, hsource, hbelow, hallows⟩
  · rintro (⟨roleId, level, htarget, hbelow, hallows⟩ | ⟨roleId, level, hsource, hbelow, hallows⟩)
    · exact ⟨roleId, level, .inl htarget, hbelow, hallows⟩
    · exact ⟨roleId, level, .inr hsource, hbelow, hallows⟩

/-- The rows of everybody else stay. -/
theorem filter_handedOver (h : source ≠ target) (hs : user ≠ source) (ht : user ≠ target) :
    (s.handedOver now source target).assignments.filter (·.userId == user) =
      s.assignments.filter (·.userId == user) := by
  rw [assignments_handedOver h]
  exact filter_reassign (p := (· == user)) (beq_false_of_ne hs.symm) (beq_false_of_ne ht.symm)
    s.assignments

theorem holdsActive_congr_rows {rows rows' : List Assignment}
    (h : rows'.filter (·.userId == user) = rows.filter (·.userId == user)) {roleId : String} :
    HoldsActive rows' user now roleId scope ↔ HoldsActive rows user now roleId scope := by
  have hmem : ∀ row : Assignment, row.userId = user → (row ∈ rows' ↔ row ∈ rows) := by
    intro row huser
    have := congrArg (row ∈ ·) h
    simpa [huser] using this
  constructor
  · rintro ⟨row, hrow, huser, hrest⟩
    exact ⟨row, (hmem row huser).1 hrow, huser, hrest⟩
  · rintro ⟨row, hrow, huser, hrest⟩
    exact ⟨row, (hmem row huser).2 hrow, huser, hrest⟩

/-- **Whose rows are the same may do the same**, in a tree that is the same. -/
theorem allows_congr_rows (hp : s'.projects = s.projects) (hr : s'.resources = s.resources)
    (hpermissions : s'.rolePermissions = s.rolePermissions)
    (hrows : s'.assignments.filter (·.userId == user) =
      s.assignments.filter (·.userId == user)) :
    s'.Allows user a scope now ↔ s.Allows user a scope now := by
  simp only [allows_iff_holdsActive, holdsActive_congr_rows hrows, below_congr hp hr,
    roleAllows_congr hpermissions]

end Store.State

namespace Administration

/-! ## What a claim comes to -/

/-- **What a claim of an invitation comes to**, seen at one instant. -/
structure Claimed (now : Moment) (placeholder user : String) (before after : State) : Prop where
  /-- The user may do what either of the two could do. -/
  decision_user : ∀ a scope, decision after now user a scope =
    (do return (← decision before now user a scope) || (← decision before now placeholder a scope))
  user_known : after.users.contains user = true
  placeholder_gone : after.users.find? placeholder = none
  placeholder_rows : after.assignments.filter (·.userId == placeholder) = []
  decision_other : ∀ other, other ≠ user → other ≠ placeholder → ∀ a scope,
    decision after now other a scope = decision before now other a scope
  rows_other : ∀ other, other ≠ user → other ≠ placeholder →
    after.assignments.filter (·.userId == other) = before.assignments.filter (·.userId == other)
  user_other : ∀ other, other ≠ user → other ≠ placeholder →
    after.users.find? other = before.users.find? other
  organizations : after.organizations = before.organizations
  projects : after.projects = before.projects
  resources : after.resources = before.resources

variable {s : State} {now : Moment} {email user : String}

/-- **Handing the rows of a placeholder over** is what a claim comes to. -/
theorem claimed_handedOver (hs : s.Intact) (hne : email ≠ user) {u : User} (hu : u.id = user)
    (hafter : ((s.withUser u).handedOver now email user).Intact) :
    Claimed now email user s ((s.withUser u).handedOver now email user) := by
  have hrows : ∀ other, other ≠ user → other ≠ email →
      ((s.withUser u).handedOver now email user).assignments.filter (·.userId == other) =
        s.assignments.filter (·.userId == other) := fun other huser hemail => by
    rw [State.filter_handedOver hne hemail huser, State.withUser_assignments]
  have hscope : ∀ scope, ((s.withUser u).handedOver now email user).hasScope scope =
      s.hasScope scope := State.hasScope_congr (by simp) (by simp) (by simp)
  refine
    { decision_user := fun a scope => ?_
      user_known := ?_
      placeholder_gone := by rw [State.find?_handedOver, if_pos rfl]
      placeholder_rows := ?_
      decision_other := fun other huser hemail a scope => ?_
      rows_other := hrows
      user_other := fun other huser hemail => ?_
      organizations := by simp
      projects := by simp
      resources := by simp }
  · refine Engine.decision_or hs.tree hafter.tree (hscope scope) ?_
    rw [State.allows_handedOver hne, State.allows_withUser, State.allows_withUser]
  · rw [State.contains_handedOver, State.contains_withUser]
    simp [hu, hne.symm]
  · rw [State.assignments_handedOver hne, List.filter_eq_nil_iff]
    intro row hrow
    simpa using State.userId_ne_of_mem_reassign hne hrow
  · exact Engine.decision_congr hs.tree hafter.tree (hscope scope)
      (State.allows_congr_rows (by simp) (by simp) (by simp) (hrows other huser hemail))
  · rw [State.find?_handedOver, if_neg hemail, State.find?_withUser_of_ne (hu ▸ huser)]

/-! ## The operations that claim -/

/-- **Claiming an invitation moves exactly its permissions.**  In a store that operations lead to,
an operation that hands the invitation of a placeholder to another user and succeeds gives that user
what the placeholder could do, leaves nothing of the placeholder and changes nothing else. -/
theorem claimed_of_ok {before : Store} (hs : Managed before) {p : User}
    (hp : before.committed.users.find? email = some p) (hplaceholder : p.isPlaceholder = true)
    (hne : email ≠ user) {c : Command}
    (hc : c = .transferPlaceholder email user ∨ c = .reconcileLogin user (some email))
    (stamp : Stamp) {τ : Type} (pace : Pace τ) (t : τ) {r : c.Answer}
    (hok : (c.run stamp pace (before, t)).1 = .ok r) :
    Claimed stamp.now email user before.committed (c.run stamp pace (before, t)).2.1.committed := by
  have hbefore := hs.committed_intact
  have hvalid : Email.isValid email = true := ((hbefore.user hp).invited hplaceholder).1
  rcases Command.transact_cases c stamp stamp.now pace (before, t) with
    ⟨body, a, after, hbody, -, -, heffect, hstore⟩ | ⟨e, herror, -⟩
  · have hafter := Command.intact_effect hbody heffect hbefore
    have hcommitted : (c.run stamp pace (before, t)).2.1.committed = after :=
      congrArg Store.committed hstore
    rw [hcommitted]
    rcases hc with rfl | rfl
    · obtain ⟨-, -, rfl⟩ := transferPlaceholder_eq_ok hbody heffect
      exact claimed_handedOver hbefore hne rfl hafter
    · cases hbody
      have hpending : pending before.committed user (some email) = some email := by
        simp [pending, claims, hvalid, hne, hp, hplaceholder]
      have hresult := reconcileLogin_eq_ok heffect
      rw [hpending] at hresult
      subst hresult
      exact claimed_handedOver hbefore hne rfl hafter
  · cases herror.symm.trans hok

/-- Bob logs in with the address that was invited, and may read what was opened to it. -/
theorem claimed_of_ok_login :
    let c := Command.reconcileLogin "bob" (some "bob@example.com")
    let run := c.run ⟨⟨2, 0⟩, "", ""⟩ ({} : Limits).pace (invitedStore, 0)
    run.1 = .ok ⟨true, 1⟩ ∧
      Claimed ⟨2, 0⟩ "bob@example.com" "bob" invitedStore.committed run.2.1.committed ∧
      decision run.2.1.committed ⟨2, 0⟩ "bob" .read (.organization "o1") = .ok true := by
  have hok : ((Command.reconcileLogin "bob" (some "bob@example.com")).run ⟨⟨2, 0⟩, "", ""⟩
      ({} : Limits).pace (invitedStore, 0)).1 = .ok ⟨true, 1⟩ := rfl
  have hinvited : invitedStore.committed.users.find? "bob@example.com" =
      some (.placeholder "bob@example.com" ⟨1, 0⟩) := by decide +kernel
  have hclaimed := claimed_of_ok managed_invitedStore hinvited rfl (by decide) (.inr rfl)
    ⟨⟨2, 0⟩, "", ""⟩ ({} : Limits).pace 0 hok
  have hrow : invitedStore.committed.Grants "bob@example.com" .read (.organization "o1") ⟨2, 0⟩
      ⟨"a2", "bob@example.com", "viewer", .organization "o1", some "ann", ⟨1, 0⟩, none⟩ :=
    { mem := by decide +kernel
      user := rfl
      active := by
        intro e he
        cases he
      anchored := .refl
      allows := ⟨_, rfl, .forAction .read, by decide, rfl, rfl⟩ }
  have htree := managed_invitedStore.committed_intact.tree
  have hknown : invitedStore.committed.hasScope (.organization "o1") = true := by decide +kernel
  have hallowed : decision invitedStore.committed ⟨2, 0⟩ "bob@example.com" .read
      (.organization "o1") = .ok true := (Engine.decision_eq_yes_iff htree).2 ⟨hknown, _, hrow⟩
  refine ⟨hok, hclaimed, (hclaimed.decision_user .read (.organization "o1")).trans ?_⟩
  rw [hallowed, Engine.decision_eq htree, if_pos hknown]
  exact congrArg Except.ok (Bool.or_true _)

end Administration

end TenantGuard
