import TenantGuard.Proofs.Administration.Integrity
import TenantGuard.Proofs.Engine.Enforcement

/-!
# Decisions while the store changes

A check asks one question after the other, and the store may change between any two of them.  What
it allows was allowed at some instant on the way, by the contents of that instant.

* `State.Keeps`: operations with fresh identifiers leave the tree and the permissions of roles as
  they were, and only add to the tree;
* a `Timeline` is what a check meets: the store and the clock at each of its questions, with
  operations between them;
* `check_justified`: a yes is justified at the question that brought up the grant, for the chain
  that was found before still stands then, and the permissions that are looked up later were the
  same.
-/

namespace TenantGuard

open Procedure (Yields yields_pure yields_ask yields_bind yields_attempt yields_note
  not_yields_throw)
open Store (State Query)
open Administration (Command)

/-! ## What operations leave alone -/

namespace Store

theorem Table.find?_insert_of_fresh {α : Type} {t : Table α} {id id' : String} {a b : α}
    (hfresh : t.find? id = none) (h : t.find? id' = some b) :
    (t.insert id a).find? id' = some b := by
  rw [find?_insert, if_neg]
  · exact h
  · rintro rfl
    cases hfresh.symm.trans h

namespace State

/-- **Contents that keep the tree** of earlier ones, and the permissions of roles. -/
structure Keeps (s s' : State) : Prop where
  project : ∀ {id : String} {p : Project}, s.projects.find? id = some p →
    s'.projects.find? id = some p
  resource : ∀ {id : String} {r : Resource}, s.resources.find? id = some r →
    s'.resources.find? id = some r
  rolePermissions : s'.rolePermissions = s.rolePermissions

variable {s s' s'' : State} {scope level : Scope}

theorem Keeps.refl (s : State) : s.Keeps s := ⟨id, id, rfl⟩

theorem Keeps.trans (h : s.Keeps s') (h' : s'.Keeps s'') : s.Keeps s'' where
  project hp := h'.project (h.project hp)
  resource hr := h'.resource (h.resource hr)
  rolePermissions := h'.rolePermissions.trans h.rolePermissions

theorem Keeps.of_tree (hp : s'.projects = s.projects) (hr : s'.resources = s.resources)
    (h : s'.rolePermissions = s.rolePermissions) : s.Keeps s' where
  project hid := by rwa [hp]
  resource hid := by rwa [hr]
  rolePermissions := h

/-- A new project stands beside the others. -/
theorem Keeps.insertProject {p : Project} (h : s.projects.find? p.id = none) :
    s.Keeps { s with projects := s.projects.insert p.id p } where
  project hid := Table.find?_insert_of_fresh h hid
  resource := id
  rolePermissions := rfl

theorem Keeps.insertResource {r : Resource} (h : s.resources.find? r.id = none) :
    s.Keeps { s with resources := s.resources.insert r.id r } where
  project := id
  resource hid := Table.find?_insert_of_fresh h hid
  rolePermissions := rfl

theorem Keeps.hasParent (h : s.Keeps s') (hp : s.HasParent scope level) :
    s'.HasParent scope level := by
  cases hp with
  | project hid => exact .project (h.project hid)
  | resource hid => exact .resource (h.resource hid)

end State

end Store

namespace Administration

variable {stamp : Stamp} {now : Moment} {s s' : State}

/-- **Whether the identifier of a new entity is fresh.** -/
def Command.Fresh (stamp : Stamp) (s : State) : Command → Prop
  | createOrganization _ _ => s.organizations.find? stamp.entityId = none
  | createProject _ _ _ _ => s.projects.find? stamp.entityId = none
  | createResource _ _ _ => s.resources.find? stamp.entityId = none
  | _ => True

/-- **Operations keep the tree.** -/
theorem Command.keeps_effect {c : Command} {body : Change c.Answer} {a : c.Answer}
    (hbody : c.body stamp = .ok body) (h : Change.effect now body s = .ok (a, s'))
    (hfresh : c.Fresh stamp s) : s.Keeps s' := by
  cases c with
  | createOrganization name owner =>
    obtain ⟨role, -, -, rfl, rfl⟩ := createOrganization_eq_ok hbody h
    exact .of_tree withOwner_projects withOwner_resources withOwner_rolePermissions
  | createProject organizationId name description owner =>
    obtain ⟨role, -, -, -, rfl, rfl⟩ := createProject_eq_ok hbody h
    exact State.Keeps.trans (.insertProject (p := ⟨stamp.entityId, _, _, _, _, _⟩) hfresh)
      (.of_tree withOwner_projects withOwner_resources withOwner_rolePermissions)
  | createResource projectId name kind =>
    obtain ⟨-, -, -, rfl, rfl⟩ := createResource_eq_ok hbody h
    exact .insertResource (r := ⟨stamp.entityId, _, _, _, _, _⟩) hfresh
  | assignRole request =>
    obtain ⟨role, -, -, -, -, -, rfl⟩ := assignRole_eq_ok hbody h
    exact .of_tree State.withUser_projects State.withUser_resources State.withUser_rolePermissions
  | revokeRole userId roleName scope =>
    cases hbody
    obtain ⟨role, -, rfl⟩ := revokeRole_eq_ok h
    exact .of_tree rfl rfl rfl
  | transferPlaceholder email userId =>
    obtain ⟨-, -, rfl⟩ := transferPlaceholder_eq_ok hbody h
    exact .of_tree (by simp) (by simp) (by simp)
  | reconcileLogin userId email =>
    cases hbody
    cases reconcileLogin_eq_ok h
    split
    · exact .of_tree (by simp) (by simp) (by simp)
    · exact .of_tree (by simp) (by simp) (by simp)

/-- **What can happen to a store between two questions**: operations of any kind with fresh
identifiers, whose steps fail, time out or are cancelled in any way. -/
inductive Moves (s : Store) : Store → Prop where
  | refl : Moves s s
  | armed {s' : Store} (failing : List Store.FailPoint) : Moves s s' → Moves s { s' with failing }
  | delayed {s' : Store} (latency : Nat) : Moves s s' → Moves s { s' with latency }
  | operated {s' : Store} {τ : Type} (c : Command) (stamp : Stamp) (now : Moment) (pace : Pace τ)
      (t : τ) : Moves s s' → c.Fresh stamp s'.committed →
      Moves s (Store.transactIfValidAt pace now (c.body stamp) (s', t)).2.1

theorem Moves.keeps {s s' : Store} (h : Moves s s') : s.committed.Keeps s'.committed := by
  induction h with
  | refl => exact .refl _
  | armed failing _ ih => exact ih
  | delayed latency _ ih => exact ih
  | @operated s' τ c stamp now pace t _ hfresh ih =>
    rcases Command.transact_cases c stamp now pace (s', t) with
      ⟨body, a, s'', hbody, -, -, heffect, hs⟩ | ⟨e, -, hs⟩
    · rw [hs]
      exact ih.trans (Command.keeps_effect hbody heffect hfresh)
    · rw [hs]
      exact ih

end Administration

namespace Engine

variable {τ σ : Type} {user : String} {a : Action} {scope : Scope}

/-! ## The questions of a check, one by one -/

section Questions

variable {answer : Plan.Oracle Query Query.Answer σ} {x x' : σ}

/-- **The chain of a scope** is found by asking for its parent, and then for the chain of that. -/
theorem yields_effectiveScopes {chain : List Scope}
    (h : Yields answer (effectiveScopes scope) x chain x') :
    ∃ parent mid, answer (.parent scope) x = (.ok parent, mid) ∧
      (chain = [scope] ∧ mid = x' ∨
        ∃ p rest, parent = some p ∧ p.type.depth < scope.type.depth ∧
          Yields answer (effectiveScopes p) mid rest x' ∧ chain = scope :: rest) := by
  rw [effectiveScopes, yields_bind] at h
  obtain ⟨parent, mid, hask, h⟩ := h
  refine ⟨parent, mid, yields_ask.1 hask, ?_⟩
  split at h
  · obtain ⟨rfl, rfl⟩ := yields_pure.1 h
    exact .inl ⟨rfl, rfl⟩
  next p t hlevel =>
    split at h
    next htype =>
      obtain ⟨rest, _, hrest, hdone⟩ := yields_bind.1 h
      obtain ⟨rfl, rfl⟩ := yields_pure.1 hdone
      have hdepth := ScopeType.depth_parent hlevel
      exact .inr ⟨p, rest, rfl, by rw [htype]; omega, hrest, rfl⟩
    · exact (not_yields_throw h).elim
  · exact (not_yields_throw h).elim

/-- **A grant among rows** is that of a row whose permissions were looked up. -/
theorem yields_firstGranting {level : Scope} {g : Grant} : ∀ {rows : List Assignment} {x : σ},
    Yields answer (firstGranting a level rows) x (some g) x' →
    ∃ row ∈ rows, ∃ y permissions, (answer (.permissions row.roleId) y).1 = .ok permissions ∧
      permissions.any (·.grants a) = true
  | [], _, h => by cases (yields_pure.1 h).1
  | row :: rows, x, h => by
    obtain ⟨permissions, mid, hask, h⟩ := yields_bind.1 h
    split at h
    next hgrants =>
      refine ⟨row, List.mem_cons_self, x, permissions, ?_, hgrants⟩
      exact congrArg Prod.fst (yields_ask.1 hask)
    · obtain ⟨row', hrow, hfound⟩ := yields_firstGranting h
      exact ⟨row', List.mem_cons_of_mem _ hrow, hfound⟩

end Questions

/-! ## A store that changes -/

/-- **What a check meets**: the store and the clock at each of its questions, with any operations
between them.  A question that waits for an open transaction meets the store behind it. -/
structure Timeline where
  store : Nat → Store
  clock : Nat → Moment
  moves : ∀ n, Administration.Moves (store n) (store (n + 1))

namespace Timeline

variable {T : Timeline} {pace : Pace τ}

/-- **Puts the next question** to the store as it is then. -/
def ask (T : Timeline) (pace : Pace τ) : Plan.Oracle Query Query.Answer (Nat × τ) := fun q x =>
  let (r, _, t) := Store.askAt pace (T.clock x.1) q (T.store x.1, x.2)
  (r, x.1 + 1, t)

/-- The contents that are committed at a question. -/
def contents (T : Timeline) (n : Nat) : State := (T.store n).committed

theorem keeps (T : Timeline) {n m : Nat} (h : n ≤ m) : (T.contents n).Keeps (T.contents m) := by
  induction h with
  | refl => exact .refl _
  | step _ ih => exact ih.trans (T.moves _).keeps

theorem rolePermissions (T : Timeline) (n m : Nat) :
    (T.contents n).rolePermissions = (T.contents m).rolePermissions :=
  (T.keeps (Nat.zero_le n)).rolePermissions.trans (T.keeps (Nat.zero_le m)).rolePermissions.symm

/-- An answer is that of the contents of its moment. -/
theorem answer_of_ask {q : Query} {b : q.Answer} {x x' : Nat × τ}
    (h : T.ask pace q x = (.ok b, x')) :
    (T.contents x.1).answer (T.clock x.1) q = .ok b ∧ x'.1 = x.1 + 1 :=
  ⟨Store.askAt_eq_ok (congrArg Prod.fst h), (congrArg (·.2.1) h).symm⟩

/-- Time does not run backwards. -/
theorem le_of_yields {α : Type} {t : Inquiry α} {r : α} {x x' : Nat × τ}
    (h : Yields (T.ask pace) t x r x') : x.1 ≤ x'.1 := by
  rw [← h.2]
  exact Plan.run_invariant (I := fun y : Nat × τ => x.1 ≤ y.1)
    (fun _ _ hy => Nat.le_succ_of_le hy) t.run (Nat.le_refl _)

/-- **The chain that is found** is one of ancestors from then on. -/
theorem below_of_yields {scope : Scope} {chain : List Scope} {x x' : Nat × τ}
    (h : Yields (T.ask pace) (effectiveScopes scope) x chain x') {m : Nat} (hm : x'.1 ≤ m) :
    ∀ level ∈ chain, (T.contents m).Below scope level := by
  obtain ⟨parent, mid, hask, ⟨rfl, -⟩ | ⟨p, rest, rfl, hdepth, hrest, rfl⟩⟩ :=
    yields_effectiveScopes h
  · intro level hlevel
    cases List.mem_singleton.1 hlevel
    exact .refl
  · obtain ⟨hanswer, hmid⟩ := answer_of_ask hask
    have hparent : (T.contents x.1).HasParent scope p := by
      simp only [State.answer] at hanswer
      split at hanswer
      next q hq =>
        cases hanswer
        exact ((State.parent?_eq_parent hq).2 p).2 rfl
      · cases hanswer
    have hkept : x.1 ≤ m := by
      have := le_of_yields hrest
      omega
    intro level hlevel
    rcases List.mem_cons.1 hlevel with rfl | hlevel
    · exact .refl
    · exact .head ((T.keeps hkept).hasParent hparent) (below_of_yields hrest hm level hlevel)
termination_by scope.type.depth

/-- The permissions of roles are the same at every question. -/
theorem roleAllows_of_yields {level : Scope} {rows : List Assignment} {g : Grant} {x x' : Nat × τ}
    (h : Yields (T.ask pace) (firstGranting a level rows) x (some g) x') (m : Nat) :
    ∃ row ∈ rows, (T.contents m).roleAllows a row.roleId = true := by
  obtain ⟨row, hrow, y, permissions, hask, hgrants⟩ := yields_firstGranting h
  have hanswer : (T.contents y.1).permissionsOf row.roleId = permissions :=
    Except.ok.inj (Store.askAt_eq_ok hask)
  refine ⟨row, hrow, ?_⟩
  rw [← State.roleAllows_congr (T.rolePermissions y.1 m), State.roleAllows, hanswer]
  exact hgrants

/-- **A grant that is found on a level** was there when the level was looked at. -/
theorem allowsAt_of_yields {g : Grant} {x' : Nat × τ} : ∀ {levels : List Scope} {x : Nat × τ},
    Yields (T.ask pace) (firstGrant user a levels) x (some g) x' →
    ∃ level ∈ levels, ∃ m row, x.1 ≤ m ∧ m < x'.1 ∧
      AllowsAt (T.contents m) user a (T.clock m) level row
  | [], _, h => by cases (yields_pure.1 h).1
  | level :: levels, x, h => by
    obtain ⟨rows, mid, hask, h⟩ := yields_bind.1 h
    obtain ⟨found, mid', hfound, h⟩ := yields_bind.1 h
    obtain ⟨hanswer, hmid⟩ := answer_of_ask (yields_ask.1 hask)
    have hlater := le_of_yields hfound
    cases found with
    | some g' =>
      obtain ⟨-, rfl⟩ := yields_pure.1 h
      obtain ⟨row, hrow, hallows⟩ := roleAllows_of_yields hfound x.1
      have hrows : ((T.contents x.1).activeRows (T.clock x.1)).filter
          (fun a => a.userId == user && a.scope == level) = rows := Except.ok.inj hanswer
      rw [← hrows] at hrow
      simp only [State.activeRows, List.mem_filter, Bool.and_eq_true, beq_iff_eq] at hrow
      obtain ⟨⟨hmem, hactive⟩, huser, hscope⟩ := hrow
      exact ⟨level, List.mem_cons_self, x.1, row, Nat.le_refl _, by omega, hmem, huser, hscope,
        hactive, hallows⟩
    | none =>
      obtain ⟨level', hlevel, m, row, hm, hlt, hrow⟩ := allowsAt_of_yields h
      exact ⟨level', List.mem_cons_of_mem _ hlevel, m, row, by omega, hlt, hrow⟩

end Timeline

theorem allows_of_allowsAt {s : State} {now : Moment} {level : Scope} {row : Assignment}
    (h : AllowsAt s user a now level row) (hbelow : s.Below scope level) :
    s.Allows user a scope now := by
  obtain ⟨hmem, huser, rfl, hactive, hallows⟩ := h
  exact ⟨row, hmem, huser, (State.isActiveAt_iff row now).1 hactive, hbelow,
    State.roleAllows_iff.1 hallows⟩

/-- A yes comes with a grant. -/
theorem yields_check {answer : Plan.Oracle Query Query.Answer σ} {x x' : σ}
    (h : Yields answer (check user a scope) x true x') :
    ∃ g, Yields answer (findGrant user a scope) x (some g) x' := by
  obtain ⟨found, mid, hfound, h⟩ := yields_bind.1 h
  obtain ⟨⟨⟩, mid', hnote, h⟩ := yields_bind.1 h
  obtain ⟨hresult, rfl⟩ := yields_attempt.1 hfound
  cases yields_note.1 hnote
  cases found with
  | error e => exact (not_yields_throw h).elim
  | ok g =>
    obtain ⟨hsome, rfl⟩ := yields_pure.1 h
    obtain ⟨g, rfl⟩ := Option.isSome_iff_exists.1 hsome
    exact ⟨g, hresult, rfl⟩

/-- **A yes is justified** by what was committed at some question of the check, at the reading of
the clock then: whatever operations come between the questions. -/
theorem check_justified {T : Timeline} {pace : Pace τ} {n : Nat} {t : τ}
    (h : ((check user a scope).run.run (T.ask pace) (n, t)).1 = .ok true) :
    ∃ m, n ≤ m ∧ m < ((check user a scope).run.run (T.ask pace) (n, t)).2.2.1 ∧
      (T.contents m).Allows user a scope (T.clock m) := by
  obtain ⟨g, hfound⟩ := yields_check ⟨h, rfl⟩
  obtain ⟨chain, mid, hchain, hgrant⟩ := yields_bind.1 hfound
  obtain ⟨level, hlevel, m, row, hm, hlt, hrow⟩ := Timeline.allowsAt_of_yields hgrant
  have hbegun := Timeline.le_of_yields hchain
  exact ⟨m, Nat.le_trans hbegun hm, hlt,
    allows_of_allowsAt hrow (Timeline.below_of_yields hchain hm level hlevel)⟩

/-! ## One check -/

/-- The sample store, whose viewer loses the role while the fourth question is answered. -/
def revokedMidway : Timeline where
  store n :=
    if n ≤ 3 then sampleStore
    else (Command.revokeRole "ann" "viewer" (.organization "o1")).after ⟨⟨4, 0⟩, "", ""⟩ sampleStore
  clock n := ⟨n, 0⟩
  moves n := by
    rcases Nat.lt_trichotomy n 3 with h | rfl | h
    · rw [if_pos (by omega), if_pos (by omega)]
      exact .refl
    · exact .operated _ _ _ _ _ .refl trivial
    · rw [if_neg (by omega), if_neg (by omega)]
      exact .refl

/-- A check says yes although the role is revoked before it looks up what the role allows. -/
theorem check_justified_revoked :
    let run := (check "ann" .read (.project "p1")).run.run (revokedMidway.ask ({} : Limits).pace)
      (0, 0)
    run.1 = .ok true ∧ (revokedMidway.contents 4).assignments = [] ∧
      ∃ m, 0 ≤ m ∧ m < run.2.2.1 ∧
        (revokedMidway.contents m).Allows "ann" .read (.project "p1") (revokedMidway.clock m) := by
  have hyes : ((check "ann" .read (.project "p1")).run.run
      (revokedMidway.ask ({} : Limits).pace) (0, 0)).1 = .ok true :=
    toOption_eq_some_iff.1 (by decide +kernel)
  exact ⟨hyes, by decide +kernel, check_justified hyes⟩

end Engine

end TenantGuard
