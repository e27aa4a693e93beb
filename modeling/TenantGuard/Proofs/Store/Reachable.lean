import TenantGuard.Proofs.Execution

/-!
# The stores that can come about

Transactions, seeded rows and changes of a store's behaviour lead from a fresh store to the
reachable ones.  Rows are seeded without any check, but entities are added by transactions alone, so
that the scope tree is always whole.

* `State.Rooted`: every project lies in an organization that exists, and every resource in a project
  that exists;
* `State.Rooted.apply`: no operation breaks that;
* `Reachable.rooted`: it holds of the contents of every reachable store, and of the copy of an open
  transaction;
* `Reachable.transactAt`: whole transactions lead from reachable stores to reachable ones.
-/

namespace TenantGuard.Store

theorem Table.contains_insert {α : Type} (t : Table α) (id id' : String) (a : α) :
    (t.insert id a).contains id' = (decide (id' = id) || t.contains id') := by
  unfold contains
  rw [find?_insert]
  by_cases h : id' = id <;> simp [h]

/-! ## The scope tree is whole -/

namespace State

/-- **Every parent exists.** -/
structure Rooted (s : State) : Prop where
  project : ∀ {id : String} {p : Project}, s.projects.find? id = some p →
    s.organizations.contains p.organizationId = true
  resource : ∀ {id : String} {r : Resource}, s.resources.find? id = some r →
    s.projects.contains r.projectId = true

theorem rooted_seeded : Rooted .seeded where
  project h := by cases h
  resource h := by cases h

variable {s s' : State}

/-- The tree is all that matters. -/
theorem Rooted.of_tree (h : s.Rooted) (ho : s'.organizations = s.organizations)
    (hp : s'.projects = s.projects) (hr : s'.resources = s.resources) : s'.Rooted where
  project hid := by
    rw [hp] at hid
    rw [ho]
    exact h.project hid
  resource hid := by
    rw [hr] at hid
    rw [hp]
    exact h.resource hid

theorem Rooted.insertOrganization (h : s.Rooted) (o : Organization) :
    Rooted { s with organizations := s.organizations.insert o.id o } where
  project hid := by
    rw [Table.contains_insert, h.project hid, Bool.or_true]
  resource hid := h.resource hid

theorem Rooted.insertProject (h : s.Rooted) {p : Project}
    (hp : s.organizations.contains p.organizationId = true) :
    Rooted { s with projects := s.projects.insert p.id p } where
  project := by
    intro id q hid
    rw [Table.find?_insert] at hid
    split at hid
    · cases hid
      exact hp
    · exact h.project hid
  resource hid := by
    rw [Table.contains_insert, h.resource hid, Bool.or_true]

theorem Rooted.insertResource (h : s.Rooted) {r : Resource}
    (hr : s.projects.contains r.projectId = true) :
    Rooted { s with resources := s.resources.insert r.id r } where
  project hid := h.project hid
  resource := by
    intro id q hid
    rw [Table.find?_insert] at hid
    split at hid
    · cases hid
      exact hr
    · exact h.resource hid

/-- **No operation leaves a parent dangling.** -/
theorem Rooted.apply {now : Moment} {op : Operation} {a : op.Answer} (h : s.Rooted)
    (hop : op.apply now s = .ok (a, s')) : s'.Rooted := by
  cases op with
  | roleNamed name =>
    cases hop
    exact h
  | findUser id =>
    cases hop
    exact h
  | insertUser u =>
    simp only [Operation.apply, State.insertUser] at hop
    split at hop
    · cases hop
      exact h
    · cases hop
      exact h.of_tree rfl rfl rfl
  | deleteUser id =>
    simp only [Operation.apply, State.deleteUser] at hop
    split at hop
    · cases hop
      exact h.of_tree rfl rfl rfl
    · cases hop
      exact h
  | insertOrganization o =>
    cases hop
    exact h.insertOrganization o
  | insertProject p =>
    simp only [Operation.apply] at hop
    split at hop
    next hp =>
      cases hop
      exact h.insertProject hp
    · cases hop
  | insertResource r =>
    simp only [Operation.apply] at hop
    split at hop
    next hr =>
      cases hop
      exact h.insertResource hr
    · cases hop
  | scopeExists scope =>
    cases hop
    exact h
  | insertAssignment b =>
    cases hop
    exact h.of_tree rfl rfl rfl
  | deleteAssignment key =>
    cases hop
    exact h.of_tree rfl rfl rfl
  | reassignUser source target =>
    cases hop
    exact h.of_tree rfl rfl rfl

end State

/-! ## Reachable stores -/

/-- **The stores that can come about**, step by step. -/
inductive Reachable : Store → Prop where
  | fresh : Reachable fresh
  | armed {s : Store} (failing : List FailPoint) : Reachable s → Reachable { s with failing }
  | delayed {s : Store} (latency : Nat) : Reachable s → Reachable { s with latency }
  /-- A row is put in while no transaction is open. -/
  | seeded {s : Store} (a : Assignment) : Reachable s → s.isLocked = false → Reachable (s.seed a)
  | begun {s s' : Store} : Reachable s → s.begin? = some s' → Reachable s'
  | performed {s : Store} (now : Moment) (op : Operation) : Reachable s → s.isLocked = true →
      Reachable (s.perform now op).2
  | committed {s : Store} : Reachable s → s.isLocked = true → Reachable s.commit.2
  | rolledBack {s : Store} : Reachable s → Reachable s.rollback

/-- What a transaction works on is whole, too. -/
structure Rooted (s : Store) : Prop where
  committed : s.committed.Rooted
  working : ∀ {w : State}, s.working = some w → w.Rooted

variable {s : Store}

theorem Rooted.copy (h : s.Rooted) : (s.working.getD s.committed).Rooted := by
  cases hw : s.working with
  | none => exact h.committed
  | some w => exact h.working hw

theorem Rooted.rollback (h : s.Rooted) : s.rollback.Rooted := ⟨h.committed, fun hw => by cases hw⟩

theorem Rooted.applied {now : Moment} {op : Operation} {a : op.Answer} {w : State} (h : s.Rooted)
    (hop : s.applied now op = .ok (a, w)) : w.Rooted := by
  unfold Store.applied at hop
  cases hg : s.guardPoint? op.failPoint? with
  | error e => simp [hg, bind, Except.bind] at hop
  | ok u =>
    simp only [hg, bind, Except.bind] at hop
    exact h.copy.apply hop

theorem Rooted.perform (h : s.Rooted) (now : Moment) (op : Operation) :
    (s.perform now op).2.Rooted := by
  unfold Store.perform
  split
  next a w hop =>
    refine ⟨h.committed, fun hw => ?_⟩
    cases hw
    exact h.applied hop
  · exact h

theorem Rooted.commit (h : s.Rooted) : s.commit.2.Rooted := by
  unfold Store.commit
  split
  · exact ⟨h.copy, fun hw => by cases hw⟩
  · exact h.rollback

/-- **The tree of a reachable store is whole.** -/
theorem Reachable.rooted (h : Reachable s) : s.Rooted := by
  induction h with
  | fresh => exact ⟨State.rooted_seeded, fun hw => by cases hw⟩
  | armed failing _ ih => exact ⟨ih.committed, ih.working⟩
  | delayed latency _ ih => exact ⟨ih.committed, ih.working⟩
  | seeded a _ _ ih => exact ⟨ih.committed.of_tree rfl rfl rfl, ih.working⟩
  | begun _ hb ih =>
    unfold begin? at hb
    split at hb
    · cases hb
    · cases hb
      refine ⟨ih.committed, fun hw => ?_⟩
      cases hw
      exact ih.committed
  | performed now op _ _ ih => exact ih.perform now op
  | committed _ _ ih => exact ih.commit
  | rolledBack _ ih => exact ih.rollback

/-! ## Whole transactions -/

variable {τ α : Type} {x : Store × τ}

/-- One operation at a pace is one step of the store, or none. -/
theorem Reachable.performAt (pace : Pace τ) (now : Moment) (op : Operation) (h : Reachable x.1)
    (hlock : x.1.isLocked = true) :
    Reachable (performAt pace now op x).2.1 ∧ (performAt pace now op x).2.1.isLocked = true := by
  rcases performAt_cases pace now x op with ⟨a, w, hop, -, hs⟩ | ⟨e, -, hs⟩
  · rw [hs]
    refine ⟨?_, rfl⟩
    have hperform := h.performed now op hlock
    rwa [perform, hop] at hperform
  · rw [hs]
    exact ⟨h, hlock⟩

theorem Reachable.run (pace : Pace τ) (now : Moment) (body : Change α) (h : Reachable x.1)
    (hlock : x.1.isLocked = true) :
    Reachable (body.run.run (Store.performAt pace now) x).2.2.1 ∧
      (body.run.run (Store.performAt pace now) x).2.2.1.isLocked = true :=
  Plan.run_invariant (I := fun y : Store × τ => Reachable y.1 ∧ y.1.isLocked = true)
    (fun op _ hy => hy.1.performAt pace now op hy.2) body.run ⟨h, hlock⟩

/-- **A transaction leads from a reachable store to a reachable one.** -/
theorem Reachable.transactAt (pace : Pace τ) (now : Moment) (body : Change α)
    (h : Reachable x.1) : Reachable (transactAt pace now body x).2.1 := by
  unfold Store.transactAt
  split
  · exact h
  next t hbegin =>
  have hfree : x.1.isLocked = false := isLocked_of_begin hbegin
  have hbegun : Reachable { x.1 with working := some x.1.committed } :=
    h.begun (by simp [begin?, hfree])
  have hrun := Reachable.run (x := ({ x.1 with working := some x.1.committed }, t)) pace now body
    hbegun rfl
  split
  next e es y hbody =>
    rw [hbody] at hrun
    exact hrun.1.rolledBack
  next a es y hbody =>
    rw [hbody] at hrun
    have hcommit : Reachable (commitAt pace y).2.1 := by
      rcases commitAt_cases pace y with ⟨-, -, hs⟩ | ⟨e, -, hs⟩
      · rw [hs]
        exact hrun.1.committed hrun.2
      · rw [hs]
        exact hrun.1.rolledBack
    split
    next y' hy =>
      rw [hy] at hcommit
      exact hcommit
    next e y' hy =>
      rw [hy] at hcommit
      exact hcommit

end TenantGuard.Store
