import TenantGuard.Proofs.Administration.Effect

/-!
# Operations happen or do not

Every operation of an administrator is one transaction.  It comes to a result together with all of
its writes, or it fails and the store is as if it had never been.

* `Command.writes` are the writes of an operation that succeeds, from the contents it begins with;
* `Command.effect_writes`: the effect of its transaction is that of its writes;
* `Command.run_all_or_nothing`: what every run leaves behind, whatever disturbs it;
* `Command.run_undisturbed`: if nothing does, the operation is carried out;
* `Calm.run_of_ok` and `Calm.run_of_error`: where nothing disturbs, an operation comes to what
  `Command.effectOn` says that it comes to on the contents.
-/

namespace TenantGuard

open Store (State Operation)

namespace Store.State

/-- Performs operations one after the other. -/
def applyAll (now : Moment) : List Operation → State → Except Fault State
  | [], s => .ok s
  | op :: ops, s => do
    let (_, s) ← op.apply now s
    applyAll now ops s

theorem applyAll_cons {now : Moment} {op : Operation} {ops : List Operation} {s mid : State}
    {a : op.Answer} (h : op.apply now s = .ok (a, mid)) :
    applyAll now (op :: ops) s = applyAll now ops mid := by
  rw [applyAll, h]
  rfl

theorem applyAll_append {now : Moment} {ops ops' : List Operation} {s mid : State}
    (h : applyAll now ops s = .ok mid) :
    applyAll now (ops ++ ops') s = applyAll now ops' mid := by
  induction ops generalizing s with
  | nil =>
    cases h
    rfl
  | cons op ops ih =>
    obtain ⟨⟨a, s1⟩, hop, hrest⟩ := bind_eq_ok.1 h
    rw [List.cons_append, applyAll_cons hop]
    exact ih hrest

theorem apply_insertProject {now : Moment} {p : Project} {s : State}
    (h : s.organizations.contains p.organizationId = true) :
    (Operation.insertProject p).apply now s =
      .ok ((), { s with projects := s.projects.insert p.id p }) := if_pos h

theorem apply_insertResource {now : Moment} {r : Resource} {s : State}
    (h : s.projects.contains r.projectId = true) :
    (Operation.insertResource r).apply now s =
      .ok ((), { s with resources := s.resources.insert r.id r }) := if_pos h

theorem apply_insertUser (now : Moment) (u : User) (s : State) :
    (Operation.insertUser u).apply now s = .ok (!s.users.contains u.id, s.withUser u) :=
  congrArg Except.ok (insertUser_eq s u)

end Store.State

namespace Administration

variable {now : Moment} {s s' : State}

/-! ## The writes of an operation -/

/-- What makes a user the owner of a scope. -/
def ownership (stamp : Stamp) (s : State) (owner : String) (scope : Scope) : List Operation :=
  match s.roleNamed? PredefinedRole.owner.name with
  | none => []
  | some role =>
    [.insertUser (.known owner none stamp.now),
      .insertAssignment
        { id := stamp.assignmentId, userId := owner, roleId := role.id, scope
          assignedBy := some owner, createdAt := stamp.now, expiresAt := none }]

/-- What hands the rows of a placeholder to a user. -/
def handover (placeholder user : String) : List Operation :=
  [.reassignUser placeholder user, .deleteUser placeholder]

/-- **The writes of an operation** that succeeds. -/
def Command.writes (stamp : Stamp) (s : State) : Command → List Operation
  | createOrganization name owner =>
    .insertOrganization ⟨stamp.entityId, Text.trimmed name, stamp.now, stamp.now⟩ ::
      ownership stamp s owner (.organization stamp.entityId)
  | createProject organizationId name description owner =>
    .insertProject
        ⟨stamp.entityId, organizationId, Text.trimmed name, description, stamp.now, stamp.now⟩ ::
      ownership stamp s owner (.project stamp.entityId)
  | createResource projectId name kind =>
    [.insertResource
      ⟨stamp.entityId, projectId, Text.trimmed name, Text.trimmed kind, stamp.now, stamp.now⟩]
  | assignRole r =>
    match s.roleNamed? r.roleName with
    | none => []
    | some role =>
      (if s.users.contains r.userId then [] else [.insertUser (.placeholder r.userId stamp.now)]) ++
        [.insertAssignment
          { id := stamp.assignmentId, userId := r.userId, roleId := role.id, scope := r.scope
            assignedBy := r.assignedBy, createdAt := stamp.now, expiresAt := r.expiresAt }]
  | revokeRole userId roleName scope =>
    match s.roleNamed? roleName with
    | none => []
    | some role => [.deleteAssignment ⟨userId, role.id, scope⟩]
  | transferPlaceholder email userId =>
    .insertUser (.known userId (some email) stamp.now) :: handover email userId
  | reconcileLogin userId email =>
    .insertUser (.known userId email stamp.now) ::
      match claims userId email with
      | none => []
      | some e => if (s.users.find? e).any (·.isPlaceholder) then handover e userId else []

/-! ## The effect of an operation -/

open Change (effect)

theorem applyAll_ownership {stamp : Stamp} {owner : String} {scope : Scope} {role : Role}
    (hrole : s.roleNamed? PredefinedRole.owner.name = some role) (mid : State) :
    mid.applyAll stamp.now (ownership stamp s owner scope) =
      .ok (withOwner stamp stamp.now owner role scope mid) := by
  rw [ownership, hrole]
  simp only
  rw [State.applyAll_cons (State.apply_insertUser _ _ _)]
  rfl

theorem applyAll_invite (stamp : Stamp) (userId : String) (s : State) :
    s.applyAll stamp.now
      (if s.users.contains userId then [] else [.insertUser (.placeholder userId stamp.now)]) =
        .ok (s.withUser (.placeholder userId stamp.now)) := by
  split
  next h =>
    rw [State.withUser_of_contains h]
    rfl
  next h =>
    rw [State.applyAll_cons (State.apply_insertUser _ _ _)]
    rfl

theorem applyAll_handover (now : Moment) (s : State) (placeholder user : String) :
    s.applyAll now (handover placeholder user) = .ok (s.handedOver now placeholder user) := rfl

/-- **The effect of an operation is that of its writes.** -/
theorem Command.effect_writes {c : Command} {stamp : Stamp} {body : Change c.Answer}
    {a : c.Answer} (hbody : c.body stamp = .ok body)
    (h : effect stamp.now body s = .ok (a, s')) :
    s.applyAll stamp.now (c.writes stamp s) = .ok s' := by
  cases c with
  | createOrganization name owner =>
    obtain ⟨role, hrole, -, rfl, rfl⟩ := createOrganization_eq_ok hbody h
    exact applyAll_ownership hrole _
  | createProject organizationId name description owner =>
    obtain ⟨role, hrole, -, horganization, rfl, rfl⟩ := createProject_eq_ok hbody h
    rw [Command.writes, State.applyAll_cons (State.apply_insertProject horganization)]
    exact applyAll_ownership hrole _
  | createResource projectId name kind =>
    obtain ⟨-, -, hproject, rfl, rfl⟩ := createResource_eq_ok hbody h
    rw [Command.writes, State.applyAll_cons (State.apply_insertResource hproject)]
    rfl
  | assignRole request =>
    obtain ⟨role, -, hrole, -, -, -, rfl⟩ := assignRole_eq_ok hbody h
    rw [Command.writes, hrole]
    simp only
    rw [State.applyAll_append (applyAll_invite stamp request.userId s)]
    rfl
  | revokeRole userId roleName scope =>
    cases hbody
    obtain ⟨role, hrole, rfl⟩ := revokeRole_eq_ok h
    rw [Command.writes, hrole]
    rfl
  | transferPlaceholder email userId =>
    obtain ⟨-, -, rfl⟩ := transferPlaceholder_eq_ok hbody h
    rw [Command.writes, State.applyAll_cons (State.apply_insertUser _ _ _)]
    exact applyAll_handover _ _ _ _
  | reconcileLogin userId email =>
    cases hbody
    cases reconcileLogin_eq_ok h
    rw [Command.writes, State.applyAll_cons (State.apply_insertUser _ _ _), pending]
    cases claims userId email with
    | none => rfl
    | some e =>
      simp only [Option.filter_some]
      split
      · exact applyAll_handover _ _ _ _
      · rfl

/-! ## All or nothing -/

/-- **What a run may leave behind**: a free store with all writes of the operation, or the store as
it was.  Either way the lock is as it was. -/
def Command.AllOrNothing (c : Command) (stamp : Stamp) (before : Store)
    (result : Except Fault c.Answer) (after : Store) : Prop :=
  after.isLocked = before.isLocked ∧
    match result with
    | .ok _ => before.isLocked = false ∧ ∃ s,
        before.committed.applyAll stamp.now (c.writes stamp before.committed) = .ok s ∧
        after = { before with committed := s }
    | .error _ => after = before

theorem Command.allOrNothing_run {τ : Type} (c : Command) (stamp : Stamp) (pace : Pace τ)
    (x : Store × τ) : c.AllOrNothing stamp x.1 (c.run stamp pace x).1 (c.run stamp pace x).2.1 := by
  unfold Command.run Store.transactIfValidAt
  split
  · exact ⟨rfl, rfl⟩
  next body hbody =>
  rcases Store.transactAt_cases pace stamp.now (Command.failsFast hbody) x with
    ⟨a, s, hok, hfree, heffect, hs⟩ | ⟨e, herr, hs⟩
  · rw [hok, hs]
    refine ⟨rfl, ?_, s, Command.effect_writes hbody heffect, rfl⟩
    rw [Store.isLocked, hfree]
    rfl
  · rw [herr, hs]
    exact ⟨rfl, rfl⟩

/-- **Every operation happens or does not**: whatever ends its steps, and under all limits. -/
theorem Command.run_all_or_nothing (c : Command) (stamp : Stamp) :
    (∀ {τ : Type} (pace : Pace τ) (x : Store × τ),
      c.AllOrNothing stamp x.1 (c.run stamp pace x).1 (c.run stamp pace x).2.1) ∧
    ∀ (l : Limits) (x : Execution),
      c.AllOrNothing stamp x.store (x.transactIfValid l stamp.now (c.body stamp)).1
        (x.transactIfValid l stamp.now (c.body stamp)).2.store :=
  ⟨fun pace x => c.allOrNothing_run stamp pace x,
    fun l x => c.allOrNothing_run stamp l.pace (x.store, x.clock)⟩

/-- **An undisturbed operation is carried out.** -/
theorem Command.run_undisturbed {τ : Type} {c : Command} {stamp : Stamp} {body : Change c.Answer}
    (hbody : c.body stamp = .ok body) {pace : Pace τ} {x : Store × τ}
    (hfin : ∀ t d, (pace.ending t (some d)).1 = .finished) (hfree : x.1.working = none)
    (hcalm : x.1.failing = []) :
    (c.run stamp pace x).1 = (effect stamp.now body x.1.committed).map Prod.fst := by
  unfold Command.run Store.transactIfValidAt
  rw [hbody]
  exact Store.transactAt_eq_effect stamp.now body hfin hfree hcalm

/-! ## Nothing disturbs -/

/-- **What an operation comes to** on contents that nobody else touches. -/
def Command.effectOn (c : Command) (stamp : Stamp) (s : State) : Except Fault (c.Answer × State) :=
  (c.body stamp).bind fun body => effect stamp.now body s

/-- **Nothing disturbs**: the store is free, none of its points is armed, and every step that can
end finishes. -/
structure Calm {τ : Type} (pace : Pace τ) (s : Store) : Prop where
  free : s.working = none
  unarmed : s.failing = []
  finishes : ∀ t d, (pace.ending t (some d)).1 = .finished

section Calm

variable {τ : Type} {pace : Pace τ} {before : Store} {c : Command} {stamp : Stamp}

/-- Without limits, a free store without armed points disturbs nothing. -/
theorem calm_unlimited (hfree : before.working = none) (hunarmed : before.failing = []) :
    Calm ({} : Limits).pace before :=
  ⟨hfree, hunarmed, Limits.ending_unlimited⟩

/-- An operation that succeeds leaves it so. -/
theorem Calm.withCommitted (h : Calm pace before) (s : State) :
    Calm pace { before with committed := s } :=
  ⟨h.free, h.unarmed, h.finishes⟩

/-- **An operation that succeeds** on the contents is carried out on the store. -/
theorem Calm.run_of_ok (h : Calm pace before) {a : c.Answer}
    (heffect : c.effectOn stamp before.committed = .ok (a, s)) (t : τ) :
    (c.run stamp pace (before, t)).1 = .ok a ∧
      (c.run stamp pace (before, t)).2.1 = { before with committed := s } := by
  obtain ⟨body, hbody, heffect⟩ := bind_eq_ok.1 heffect
  have hresult : (c.run stamp pace (before, t)).1 = .ok a := by
    rw [Command.run_undisturbed hbody h.finishes h.free h.unarmed, heffect]
    rfl
  refine ⟨hresult, ?_⟩
  unfold Command.run Store.transactIfValidAt at hresult ⊢
  rw [hbody] at hresult ⊢
  rcases Store.transactAt_cases pace stamp.now (Command.failsFast hbody) (before, t) with
    ⟨b, s', -, -, heffect', hstore⟩ | ⟨e, herror, -⟩
  · cases heffect.symm.trans heffect'
    exact hstore
  · cases herror.symm.trans hresult

/-- **An operation that fails** on the contents fails on the store, and leaves it as it was. -/
theorem Calm.run_of_error (h : Calm pace before) {e : Fault}
    (heffect : c.effectOn stamp before.committed = .error e) (t : τ) :
    (c.run stamp pace (before, t)).1 = .error e ∧ (c.run stamp pace (before, t)).2.1 = before := by
  have hresult : (c.run stamp pace (before, t)).1 = .error e := by
    cases hbody : c.body stamp with
    | error f =>
      rw [Command.effectOn, hbody] at heffect
      cases heffect
      rw [Command.run, hbody]
      rfl
    | ok body =>
      rw [Command.effectOn, hbody] at heffect
      have heffect : effect stamp.now body before.committed = .error e := heffect
      rw [Command.run_undisturbed hbody h.finishes h.free h.unarmed, heffect]
      rfl
  have hstore := (c.allOrNothing_run stamp pace (before, t)).2
  rw [hresult] at hstore
  exact ⟨hresult, hstore⟩

/-- **An operation fails** just if it does so on the contents. -/
theorem Calm.run_eq_error_iff (h : Calm pace before) {e : Fault} {t : τ} :
    (c.run stamp pace (before, t)).1 = .error e ↔
      c.effectOn stamp before.committed = .error e := by
  constructor
  · intro herror
    cases heffect : c.effectOn stamp before.committed with
    | error f =>
      cases (h.run_of_error heffect t).1.symm.trans herror
      rfl
    | ok r => cases (h.run_of_ok heffect t).1.symm.trans herror
  · exact fun heffect => (h.run_of_error heffect t).1

end Calm

end Administration

end TenantGuard
