import TenantGuard.Proofs.Administration.Atomicity
import TenantGuard.Proofs.Administration.Granting
import TenantGuard.Proofs.Store.Granting

/-!
# What becomes of a request

A request for a grant is refused for one of four reasons, or it is met.

* `Refused` says which of the reasons counts, and `effectOn_of_refused` that the operation fails
  with it; `effectOn_assignRole` is what the operation makes of the contents otherwise;
* `Assigned` says all that a request which is met comes to, and `exists_assigned` that a request is
  met when there is no reason to refuse it;
* `Assigned.again`: who asks for the same again has it already;
* `refused_or_assigned` is all of this for the operation in a store that operations lead to.
-/

namespace TenantGuard

open Store (State)

/-! ## Roles and users of the contents -/

namespace Store.State

variable {s : State} {now : Moment} {u : User}

/-- **Whether there is a role of a name**, in whatever case its letters are. -/
def HasRole (s : State) (name : String) : Prop :=
  ∃ role ∈ s.roles.values, role.isNamed name = true

theorem roleNamed?_eq_none_iff {name : String} : s.roleNamed? name = none ↔ ¬ s.HasRole name := by
  simp [roleNamed?, HasRole]

theorem HasRole.exists_roleNamed? {name : String} (h : s.HasRole name) :
    ∃ role, s.roleNamed? name = some role := by
  rw [← Option.isSome_iff_exists, ← Option.ne_none_iff_isSome, Ne, roleNamed?_eq_none_iff, not_not]
  exact h

/-- No two built-in roles have names that differ in the case of their letters alone. -/
theorem eq_of_seeded : ∀ role ∈ seeded.roles.values, ∀ role' ∈ seeded.roles.values,
    role.name.toList.map Char.toLower = role'.name.toList.map Char.toLower → role = role' := by
  decide

/-- **There is one role of a name.** -/
theorem Intact.eq_of_isNamed (hs : s.Intact) {name : String} {role role' : Role}
    (hrole : role ∈ s.roles.values) (hnamed : role.isNamed name = true)
    (hrole' : role' ∈ s.roles.values) (hnamed' : role'.isNamed name = true) : role = role' := by
  rw [hs.roles] at hrole hrole'
  rw [Role.isNamed, beq_iff_eq] at hnamed hnamed'
  exact eq_of_seeded role hrole role' hrole' (hnamed.trans hnamed'.symm)

/-- Where there was no record, one is added behind the others. -/
theorem users_withUser (h : s.users.find? u.id = none) :
    (s.withUser u).users.rows = s.users.rows ++ [(u.id, u)] := by
  have hcontains : s.users.contains u.id = false := by simp [Table.contains, h]
  have hrows : s.users.rows.filter (fun row => row.1 != u.id) = s.users.rows := by
    rw [List.filter_eq_self]
    intro row hrow
    have hne := List.lookup_eq_none_iff.1 h row hrow
    simpa [bne, BEq.comm] using hne
  simp [withUser, insertUser, hcontains, Table.insert, Table.erase, hrows]

/-- **Where a grant counts already** its user is known, and granting it again changes nothing. -/
theorem Intact.withGrant_of_alreadyActive (hs : s.Intact) {a : Assignment}
    (h : (grant now a s.assignments).1 = .alreadyActive) (hu : u.id = a.userId) :
    (s.withUser u).withGrant now a = s := by
  have hrows := granting_grant now a s.assignments
  obtain ⟨row, hrow, hkey, -⟩ := (hrows.alreadyActive_iff hs.distinct).1 h
  have hknows : s.Knows a.key := hkey ▸ hs.knows row hrow
  have huser : s.users.contains u.id = true := hu ▸ hknows.user
  rw [h] at hrows
  rw [withUser_of_contains huser, State.withGrant, hrows.eq_of_alreadyActive]

end Store.State

namespace Administration

open Change (effect effect_ask effect_bind_of_ok effect_bind_of_error)
open Store.State (Granting)

variable {stamp : Stamp} {now : Moment} {s s' : State} {r : GrantRequest} {g : Granted}

/-! ## Refusals -/

/-- **Whether what is asked for lasts** beyond an instant. -/
def GrantRequest.Lasts (r : GrantRequest) (now : Moment) : Prop :=
  ∀ t, r.expiresAt = some t → now < t

/-- **Why a request is refused**: of four conditions the first that is not met. -/
inductive Refused (now : Moment) (s : State) (r : GrantRequest) : Fault → Prop where
  | expiry : ¬ r.Lasts now → Refused now s r (.validation "expires_at must be in the future")
  | role : r.Lasts now → ¬ s.HasRole r.roleName → Refused now s r (.roleNotFound r.roleName)
  | scope : r.Lasts now → s.HasRole r.roleName → s.hasScope r.scope = false →
    Refused now s r (.notFound r.scope.type.name r.scope.id)
  | user : r.Lasts now → s.HasRole r.roleName → s.hasScope r.scope = true →
    s.users.find? r.userId = none → Email.isValid r.userId = false →
    Refused now s r (.invalidIdentity r.userId)

theorem validateExpiry_of_lasts (h : r.Lasts now) : validateExpiry now r.expiresAt = .ok () := by
  unfold validateExpiry
  cases hexpiry : r.expiresAt with
  | none => rfl
  | some t => exact if_pos (h t hexpiry)

theorem validateExpiry_of_not_lasts (h : ¬ r.Lasts now) :
    validateExpiry now r.expiresAt = .error (.validation "expires_at must be in the future") := by
  unfold validateExpiry
  cases hexpiry : r.expiresAt with
  | none => exact absurd (fun t ht => by simp [hexpiry] at ht) h
  | some t =>
    refine if_neg fun hlt => h fun u hu => ?_
    cases hexpiry.symm.trans hu
    exact hlt

/-! ## What the operation makes of the contents -/

/-- Where the role and the scope are found, it is left to find the user and to add the grant. -/
theorem effectOn_of_found {role : Role} (hlasts : r.Lasts stamp.now)
    (hrole : s.roleNamed? r.roleName = some role) (hscope : s.hasScope r.scope = true) :
    (Command.assignRole r).effectOn stamp s = effect stamp.now (do
      let placeholderCreated ← requireUser stamp.now r.userId
      let outcome ← Change.insertAssignment (requestedRow stamp r role)
      return ({ userId := r.userId, role, scope := r.scope, outcome, placeholderCreated } :
        Granted)) s := by
  change (assignRole stamp r).bind (effect stamp.now · s) = _
  unfold assignRole
  rw [validateExpiry_of_lasts hlasts]
  refine (effect_bind_of_ok (effect_requireRole hrole)).trans ?_
  refine (effect_bind_of_ok (effect_scopeExists r.scope)).trans ?_
  rw [hscope]
  rfl

/-- **A request that is refused** fails for the reason there is. -/
theorem effectOn_of_refused {e : Fault} (h : Refused stamp.now s r e) :
    (Command.assignRole r).effectOn stamp s = .error e := by
  cases h with
  | expiry hlasts =>
    change (assignRole stamp r).bind (effect stamp.now · s) = _
    rw [assignRole, validateExpiry_of_not_lasts hlasts]
    rfl
  | role hlasts hrole =>
    change (assignRole stamp r).bind (effect stamp.now · s) = _
    rw [assignRole, validateExpiry_of_lasts hlasts]
    exact effect_bind_of_error (effect_requireRole_of_none (State.roleNamed?_eq_none_iff.2 hrole))
  | scope hlasts hrole hscope =>
    obtain ⟨role, hrole⟩ := hrole.exists_roleNamed?
    change (assignRole stamp r).bind (effect stamp.now · s) = _
    rw [assignRole, validateExpiry_of_lasts hlasts]
    refine (effect_bind_of_ok (effect_requireRole hrole)).trans ?_
    refine (effect_bind_of_ok (effect_scopeExists r.scope)).trans ?_
    rw [hscope]
    rfl
  | user hlasts hrole hscope hunknown hinvalid =>
    obtain ⟨role, hrole⟩ := hrole.exists_roleNamed?
    rw [effectOn_of_found hlasts hrole hscope]
    exact effect_bind_of_error (effect_requireUser_of_unknown hunknown hinvalid)

/-- What a request that is met is answered. -/
def answer (stamp : Stamp) (s : State) (r : GrantRequest) (role : Role) : Granted :=
  { userId := r.userId, role, scope := r.scope
    outcome := (State.grant stamp.now (requestedRow stamp r role) s.assignments).1
    placeholderCreated := !s.users.contains r.userId }

/-- **A request that is met** grants its role to a user who is known or invited. -/
theorem effectOn_assignRole {role : Role} (hlasts : r.Lasts stamp.now)
    (hrole : s.roleNamed? r.roleName = some role) (hscope : s.hasScope r.scope = true)
    (huser : s.users.contains r.userId = true ∨ Email.isValid r.userId = true) :
    (Command.assignRole r).effectOn stamp s =
      .ok (answer stamp s r role, (s.withUser (.placeholder r.userId stamp.now)).withGrant
        stamp.now (requestedRow stamp r role)) := by
  rw [effectOn_of_found hlasts hrole hscope]
  refine (effect_bind_of_ok (effect_requireUser huser)).trans ?_
  refine (effect_bind_of_ok (effect_ask _)).trans ?_
  rw [answer, ← State.withUser_assignments (s := s) (u := .placeholder r.userId stamp.now)]
  rfl

/-! ## What a request that is met comes to -/

/-- **What a request that is met comes to.** -/
structure Assigned (stamp : Stamp) (r : GrantRequest) (g : Granted) (before after : State) :
    Prop where
  userId : g.userId = r.userId
  scope : g.scope = r.scope
  /-- The role is the one of that name. -/
  role : ∀ role, role ∈ before.roles.values ∧ role.isNamed r.roleName = true ↔ role = g.role
  /-- The outcome says what became of the rows. -/
  rows : Granting stamp.now (requestedRow stamp r g.role) g.outcome before.assignments
    after.assignments
  created : g.outcome = .created ↔
    ∀ row ∈ before.assignments, row.key ≠ ⟨r.userId, g.role.id, r.scope⟩
  reactivated : g.outcome = .reactivated ↔ ∃ row ∈ before.assignments,
    row.key = ⟨r.userId, g.role.id, r.scope⟩ ∧ row.isActiveAt stamp.now = false
  alreadyActive : g.outcome = .alreadyActive ↔ ∃ row ∈ before.assignments,
    row.key = ⟨r.userId, g.role.id, r.scope⟩ ∧ row.isActiveAt stamp.now = true
  /-- There is one row of the grant, and it counts. -/
  row : ∃ row, after.assignments.filter (·.key = ⟨r.userId, g.role.id, r.scope⟩) = [row] ∧
    row.isActiveAt stamp.now = true
  /-- All other rows are as they were. -/
  others : after.assignments.filter (·.key ≠ ⟨r.userId, g.role.id, r.scope⟩) =
    before.assignments.filter (·.key ≠ ⟨r.userId, g.role.id, r.scope⟩)
  placeholderCreated : g.placeholderCreated = true ↔ before.users.find? r.userId = none
  /-- Who was unknown is invited by one record more. -/
  invited : before.users.find? r.userId = none → after.users.rows =
    before.users.rows ++ [(r.userId, .placeholder r.userId stamp.now)]
  known : before.users.find? r.userId ≠ none → after.users = before.users
  /-- Nothing but users and rows changes. -/
  frame : after = { before with users := after.users, assignments := after.assignments }
  /-- What there is already changes nothing at all. -/
  unchanged : g.outcome = .alreadyActive → after = before

theorem assigned_withGrant (hs : s.Intact) {role : Role} (hlasts : r.Lasts stamp.now)
    (hrole : s.roleNamed? r.roleName = some role) :
    Assigned stamp r (answer stamp s r role) s
      ((s.withUser (.placeholder r.userId stamp.now)).withGrant stamp.now
        (requestedRow stamp r role)) := by
  have hrows := State.granting_grant stamp.now (requestedRow stamp r role) s.assignments
  have hafter : ((s.withUser (.placeholder r.userId stamp.now)).withGrant stamp.now
      (requestedRow stamp r role)).assignments =
        (State.grant stamp.now (requestedRow stamp r role) s.assignments).2 := by
    rw [State.withGrant, State.withUser_assignments]
  have hactive : (requestedRow stamp r role).isActiveAt stamp.now = true :=
    isActiveAt_requestedRow (validateExpiry_of_lasts hlasts)
  refine
    { userId := rfl
      scope := rfl
      role := fun role' => ?_
      rows := hafter ▸ hrows
      created := hrows.created_iff
      reactivated := hrows.reactivated_iff hs.distinct
      alreadyActive := hrows.alreadyActive_iff hs.distinct
      row := hafter ▸ hrows.exists_row hs.distinct hactive
      others := ?_
      placeholderCreated := by simp [answer, Store.Table.contains]
      invited := fun hunknown => State.users_withUser hunknown
      known := fun hknown => ?_
      frame := State.frame_of_tree State.withUser_organizations State.withUser_projects
        State.withUser_resources State.withUser_roles State.withUser_rolePermissions
      unchanged := fun houtcome => hs.withGrant_of_alreadyActive houtcome rfl }
  · have hfound : s.roles.values.find? (·.isNamed r.roleName) = some role := hrole
    have hmem : role ∈ s.roles.values := List.mem_of_find?_eq_some hfound
    have hnamed : role.isNamed r.roleName = true := by simpa using List.find?_some hfound
    constructor
    · exact fun h => hs.eq_of_isNamed h.1 h.2 hmem hnamed
    · rintro rfl
      exact ⟨hmem, hnamed⟩
  · rw [hafter]
    exact State.filter_grant (p := fun key => decide (key ≠ (requestedRow stamp r role).key))
      (by simp) s.assignments
  · have hsame : s.withUser (.placeholder r.userId stamp.now) = s :=
      State.withUser_of_contains (Option.ne_none_iff_isSome.1 hknown)
    rw [hsame]
    rfl

/-- **A request that there is no reason to refuse** is met. -/
theorem exists_assigned (hs : s.Intact) (h : ∀ e, ¬ Refused stamp.now s r e) :
    ∃ (g : Granted) (s' : State), (Command.assignRole r).effectOn stamp s = .ok (g, s') ∧
      Assigned stamp r g s s' := by
  have hlasts : r.Lasts stamp.now := by
    by_contra hnot
    exact h _ (.expiry hnot)
  have hnamed : s.HasRole r.roleName := by
    by_contra hnot
    exact h _ (.role hlasts hnot)
  have hscope : s.hasScope r.scope = true := by
    by_contra hnot
    exact h _ (.scope hlasts hnamed (Bool.eq_false_iff.2 hnot))
  have huser : s.users.contains r.userId = true ∨ Email.isValid r.userId = true := by
    by_contra hnot
    rw [not_or, Bool.not_eq_true, Bool.not_eq_true] at hnot
    have hunknown : s.users.find? r.userId = none := by simpa [Store.Table.contains] using hnot.1
    exact h _ (.user hlasts hnamed hscope hunknown hnot.2)
  obtain ⟨role, hrole⟩ := hnamed.exists_roleNamed?
  exact ⟨_, _, effectOn_assignRole hlasts hrole hscope huser, assigned_withGrant hs hlasts hrole⟩

/-- **An operation fails for the reason there is to refuse the request**, and for no other. -/
theorem effectOn_eq_error_iff (hs : s.Intact) {e : Fault} :
    (Command.assignRole r).effectOn stamp s = .error e ↔ Refused stamp.now s r e := by
  refine ⟨fun herror => ?_, effectOn_of_refused⟩
  by_cases h : ∃ e', Refused stamp.now s r e'
  · obtain ⟨e', h⟩ := h
    cases (effectOn_of_refused h).symm.trans herror
    exact h
  · obtain ⟨g, s', heffect, -⟩ := exists_assigned hs (not_exists.1 h)
    cases heffect.symm.trans herror

/-! ## To ask again -/

/-- **Who asks for the same again** has it already, and nothing changes. -/
theorem Assigned.again (h : Assigned stamp r g s s') (hs' : s'.Intact) (hlasts : r.Lasts stamp.now)
    {again : Stamp} (hnow : again.now = stamp.now) :
    (Command.assignRole r).effectOn again s' =
      .ok ({ g with outcome := .alreadyActive, placeholderCreated := false }, s') := by
  obtain ⟨row, hone, hactive⟩ := h.row
  have hrow : row ∈ s'.assignments ∧ row.key = ⟨r.userId, g.role.id, r.scope⟩ := by
    have hmem : row ∈ s'.assignments.filter (·.key = ⟨r.userId, g.role.id, r.scope⟩) := by
      rw [hone]
      exact List.mem_singleton_self row
    simpa using hmem
  -- rows do not outlive what they speak of, so that user, role and scope are still there
  have hknows : s'.Knows ⟨r.userId, g.role.id, r.scope⟩ := hrow.2 ▸ hs'.knows row hrow.1
  have huser : s'.users.find? r.userId ≠ none := Option.ne_none_iff_isSome.2 hknows.user
  have hroles : s'.roles = s.roles := by rw [h.frame]
  have hnamed : g.role ∈ s'.roles.values ∧ g.role.isNamed r.roleName = true := by
    rw [hroles]
    exact (h.role g.role).2 rfl
  have hnone : ∀ e, ¬ Refused again.now s' r e := by
    intro e he
    cases he with
    | expiry hnot => exact hnot (hnow ▸ hlasts)
    | role _ hnot => exact hnot ⟨g.role, hnamed⟩
    | scope _ _ hnot => exact Bool.eq_false_iff.1 hnot hknows.scope
    | user _ _ _ hnot _ => exact huser hnot
  obtain ⟨g', s'', heffect, h'⟩ := exists_assigned hs' hnone
  have hrole : g.role = g'.role := (h'.role g.role).1 hnamed
  have houtcome : g'.outcome = .alreadyActive :=
    h'.alreadyActive.2 ⟨row, hrow.1, hrole ▸ hrow.2, hnow ▸ hactive⟩
  have hcreated : g'.placeholderCreated = false :=
    Bool.eq_false_iff.2 fun hcreated => huser (h'.placeholderCreated.1 hcreated)
  have hsame : g' = { g with outcome := .alreadyActive, placeholderCreated := false } :=
    calc g' = ⟨g'.userId, g'.role, g'.scope, g'.outcome, g'.placeholderCreated⟩ := rfl
      _ = ⟨g.userId, g.role, g.scope, .alreadyActive, false⟩ := by
        rw [h'.userId, h.userId, h'.scope, h.scope, hrole, houtcome, hcreated]
  rw [heffect, h'.unchanged houtcome, hsame]

/-- **A request is refused or met.**  In a store that operations lead to, and where nothing
disturbs, a request fails for the first reason there is to refuse it and changes nothing, and it is
met where there is none; to ask for the same again changes nothing either. -/
theorem refused_or_assigned {before : Store} (hs : Managed before) {τ : Type} {pace : Pace τ}
    (hcalm : Calm pace before) (stamp : Stamp) (r : GrantRequest) (t : τ) :
    let run (stamp : Stamp) (s : Store) (t : τ) := (Command.assignRole r).run stamp pace (s, t)
    (∀ e, (run stamp before t).1 = .error e ↔ Refused stamp.now before.committed r e) ∧
    (∀ e, Refused stamp.now before.committed r e → (run stamp before t).2.1 = before) ∧
    ((∀ e, ¬ Refused stamp.now before.committed r e) → ∃ (g : Granted) (after : State),
      (run stamp before t).1 = .ok g ∧
      (run stamp before t).2.1 = { before with committed := after } ∧
      Assigned stamp r g before.committed after ∧
      ∀ (again : Stamp) (t' : τ), again.now = stamp.now →
        (run again { before with committed := after } t').1 =
          .ok { g with outcome := .alreadyActive, placeholderCreated := false } ∧
        (run again { before with committed := after } t').2.1 =
          { before with committed := after }) := by
  intro run
  have hintact := hs.committed_intact
  refine ⟨fun e => hcalm.run_eq_error_iff.trans (effectOn_eq_error_iff hintact),
    fun e h => (hcalm.run_of_error (effectOn_of_refused h) t).2, fun h => ?_⟩
  obtain ⟨g, after, heffect, hassigned⟩ := exists_assigned hintact h
  obtain ⟨hok, hafter⟩ := hcalm.run_of_ok heffect t
  refine ⟨g, after, hok, hafter, hassigned, fun again t' hnow => ?_⟩
  have hlasts : r.Lasts stamp.now := by
    by_contra hnot
    exact h _ (.expiry hnot)
  obtain ⟨body, hbody, heffect⟩ := bind_eq_ok.1 heffect
  have hafter : after.Intact := Command.intact_effect hbody heffect hintact
  exact (hcalm.withCommitted after).run_of_ok (hassigned.again hafter hlasts hnow) t'

/-- The invited viewer was an editor for a while. -/
def formerEditorStore : Store :=
  (Command.assignRole ⟨"bob@example.com", "editor", .organization "o1", some "ann",
    some ⟨9, 0⟩⟩).after ⟨⟨5, 0⟩, "", "a3"⟩ invitedStore

/-- Asked for under another spelling of its name, the role is given back with the row that it had;
to ask once more changes nothing.  A role that there is not is refused. -/
theorem refused_or_assigned_renewed :
    let level : Scope := .organization "o1"
    let run (roleName : String) (stamp : Stamp) (s : Store) :=
      (Command.assignRole ⟨"bob@example.com", roleName, level, none, none⟩).run stamp
        ({} : Limits).pace (s, 0)
    let g : Granted := ⟨"bob@example.com", PredefinedRole.editor.toRole, level, .reactivated, false⟩
    Managed formerEditorStore ∧ Calm ({} : Limits).pace formerEditorStore ∧
      (run "auditor" ⟨⟨10, 0⟩, "", "a4"⟩ formerEditorStore).1 = .error (.roleNotFound "auditor") ∧
      ∃ after, (run "EDITOR" ⟨⟨10, 0⟩, "", "a4"⟩ formerEditorStore).1 = .ok g ∧
        Assigned ⟨⟨10, 0⟩, "", "a4"⟩ ⟨"bob@example.com", "EDITOR", level, none, none⟩ g
          formerEditorStore.committed after ∧
        after.assignments.map (·.id) = ["a1", "a2", "a3"] ∧
        (run "EDITOR" ⟨⟨10, 0⟩, "", "a5"⟩ { formerEditorStore with committed := after }).1 =
          .ok { g with outcome := .alreadyActive } := by
  intro level run g
  have hmanaged : Managed formerEditorStore := .operated _ _ _ _ _ managed_invitedStore
  have hcalm : Calm ({} : Limits).pace formerEditorStore :=
    calm_unlimited hmanaged.working_eq_none (by decide +kernel)
  have hunnamed : ¬ formerEditorStore.committed.HasRole "auditor" := by
    rw [← State.roleNamed?_eq_none_iff]
    decide +kernel
  have hnone : ∀ e, ¬ Refused ⟨10, 0⟩ formerEditorStore.committed
      ⟨"bob@example.com", "EDITOR", level, none, none⟩ e := by
    intro e he
    cases he with
    | expiry hnot => exact hnot (by simp [GrantRequest.Lasts])
    | role _ hnot => exact hnot ⟨PredefinedRole.editor.toRole, by decide +kernel, by decide⟩
    | scope _ _ hnot => exact absurd hnot (by decide +kernel)
    | user _ _ _ hnot _ => exact absurd hnot (by decide +kernel)
  obtain ⟨hrefused, -, -⟩ := refused_or_assigned hmanaged hcalm ⟨⟨10, 0⟩, "", "a4"⟩
    ⟨"bob@example.com", "auditor", level, none, none⟩ (0 : Instant)
  obtain ⟨g', after, hok, hafter, hassigned, hagain⟩ :=
    (refused_or_assigned hmanaged hcalm ⟨⟨10, 0⟩, "", "a4"⟩
      ⟨"bob@example.com", "EDITOR", level, none, none⟩ (0 : Instant)).2.2 hnone
  have hg : (run "EDITOR" ⟨⟨10, 0⟩, "", "a4"⟩ formerEditorStore).1 = .ok g :=
    (toOption_eq_some_iff (α := Granted)).1 (by decide +kernel)
  have hrows : (run "EDITOR" ⟨⟨10, 0⟩, "", "a4"⟩ formerEditorStore).2.1.committed.assignments.map
      (·.id) = ["a1", "a2", "a3"] := by decide +kernel
  cases hok.symm.trans hg
  refine ⟨hmanaged, hcalm, ?_, after, hok, hassigned, ?_, (hagain ⟨⟨10, 0⟩, "", "a5"⟩ 0 rfl).1⟩
  · exact (hrefused _).2 (.role (by simp [GrantRequest.Lasts]) hunnamed)
  · rw [← hrows]
    exact congrArg (fun s : Store => s.committed.assignments.map (·.id)) hafter.symm

end Administration

end TenantGuard
