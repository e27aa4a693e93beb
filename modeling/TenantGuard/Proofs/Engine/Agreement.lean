import TenantGuard.Proofs.Engine.EntryPoints
import TenantGuard.Proofs.Engine.Lineage
import TenantGuard.Store.Tables

/-!
# The entry points express one decision

Whoever is told a list of actions, is turned away, or is shown the scopes that are left of a list,
is told what `check` decides.  The store may answer anything and fail for any question, as long as
it answers a question in the same way each time; its state may change with every question, and the
calls may start in different states.

* `Plan.steady` is such a store and `Procedure.fst_run_steady` the result of a call to it;
* `eval_filterPermitted_eq_ok_iff` and `eval_filterPermitted_eq_error_iff` say what is left of a
  list of scopes, and which failure is reported instead;
* `fault_of_check`: a check fails with the fault of a question or finds the tree inconsistent;
* `entry_points_express_one_decision` puts the entry points together, and
  `entry_points_part_at_denial_or_deadline` has the two ways in which they come apart: a lookup that
  is denied itself, and a deadline between two lookups.
-/

namespace TenantGuard

open Store (Query)

/-! ## Stores that answer consistently -/

section Steady

variable {Q : Type} {A : Q → Type} {α σ : Type}

/-- **An oracle that answers a question in the same way each time**, whatever becomes of its
state. -/
def Plan.steady (answer : (q : Q) → Except Fault (A q)) (move : Q → σ → σ) : Plan.Oracle Q A σ :=
  fun q x => (answer q, move q x)

/-- The result of a call depends on the answers alone. -/
theorem Procedure.fst_run_steady (answer : (q : Q) → Except Fault (A q)) (move : Q → σ → σ)
    (t : Procedure Q A α) (x : σ) : (t.run.run (Plan.steady answer move) x).1 = t.eval answer :=
  (Plan.run_simulates_of_forall (R := fun (_ : σ) (_ : Unit) => True)
    (fun _ _ _ _ => ⟨rfl, trivial⟩) t.run trivial).1

end Steady

theorem Fault.isNotFound_iff {f : Fault} : f.isNotFound = true ↔ f.code = .notFound := beq_iff_eq

namespace Engine

open Procedure (eval)

variable {answer : (q : Query) → Except Fault q.Answer} {user : String} {a : Action}
  {scope : Scope}

/-! ## What is left of a list of scopes -/

/-- Whether a check said yes. -/
def saysYes : Except Fault Bool → Bool
  | .ok yes => yes
  | .error _ => false

/-- **The first scope of a list on which a check fails**, unknown scopes aside, and how. -/
def FirstFailing (checked : Scope → Except Fault Bool) (scopes : List Scope) (e : Fault) : Prop :=
  ∃ before s after, scopes = before ++ s :: after ∧
    (∀ b ∈ before, ∀ f, checked b = .error f → f.code = .notFound) ∧
    checked s = .error e ∧ e.code ≠ .notFound

theorem kept_cases (r : Except Fault Bool) :
    (kept r = .ok (saysYes r) ∧ ∀ e, r = .error e → e.code = .notFound) ∨
      ∃ e, kept r = .error e ∧ r = .error e ∧ e.code ≠ .notFound := by
  cases r with
  | ok yes => exact .inl ⟨rfl, fun e h => by cases h⟩
  | error e =>
    by_cases hunknown : e.code = .notFound
    · refine .inl ⟨if_pos (Fault.isNotFound_iff.2 hunknown), fun f hf => ?_⟩
      cases hf
      exact hunknown
    · have hfault : ¬ e.isNotFound = true := fun h => hunknown (Fault.isNotFound_iff.1 h)
      exact .inr ⟨e, if_neg hfault, rfl, hunknown⟩

theorem firstFailing_cons {checked : Scope → Except Fault Bool} {s : Scope} {scopes : List Scope}
    {e : Fault} : FirstFailing checked (s :: scopes) e ↔
      (checked s = .error e ∧ e.code ≠ .notFound) ∨
        (∀ f, checked s = .error f → f.code = .notFound) ∧ FirstFailing checked scopes e := by
  constructor
  · rintro ⟨_ | ⟨b, before⟩, z, after, heq, hbefore, hz⟩
    · cases heq
      exact .inl hz
    · cases heq
      exact .inr ⟨hbefore s (by simp), before, z, after, rfl,
        fun c hc => hbefore c (by simp [hc]), hz⟩
  · rintro (hs | ⟨hs, before, z, after, rfl, hbefore, hz⟩)
    · exact ⟨[], s, scopes, rfl, by simp, hs⟩
    · exact ⟨s :: before, z, after, rfl, by simpa using ⟨hs, hbefore⟩, hz⟩

/-- **What is left of a list of scopes** are those on which a check says yes; none may fail. -/
theorem eval_filterPermitted_eq_ok_iff : ∀ {scopes ss : List Scope},
    eval answer (filterPermitted user a scopes) = .ok ss ↔
      (∀ s ∈ scopes, ∀ e, eval answer (check user a s) = .error e → e.code = .notFound) ∧
        ss = scopes.filter fun s => saysYes (eval answer (check user a s))
  | [], ss => by
    change Except.ok [] = Except.ok ss ↔ _
    simp [eq_comm]
  | s :: scopes, ss => by
    have hrest := @eval_filterPermitted_eq_ok_iff scopes
    rw [eval_filterPermitted_cons, List.forall_mem_cons, List.filter_cons]
    rcases kept_cases (eval answer (check user a s)) with ⟨hkept, hfine⟩ | ⟨e, hkept, he, hcode⟩
    · rw [hkept, and_iff_right hfine]
      simp only [Except.bind]
      cases hfiltered : eval answer (filterPermitted user a scopes) with
      | error f =>
        refine iff_of_false (fun h => by cases h) fun h => ?_
        cases hfiltered.symm.trans (hrest.2 ⟨h.1, rfl⟩)
      | ok rest =>
        obtain ⟨hall, rfl⟩ := hrest.1 hfiltered
        rw [and_iff_right hall]
        constructor
        · intro h
          cases h
          rfl
        · rintro rfl
          rfl
    · rw [hkept]
      refine iff_of_false (fun h => by cases h) fun h => hcode (h.1.1 e he)

/-- **A failure is reported instead** where a check fails, and then the first one. -/
theorem eval_filterPermitted_eq_error_iff {e : Fault} : ∀ {scopes : List Scope},
    eval answer (filterPermitted user a scopes) = .error e ↔
      FirstFailing (fun s => eval answer (check user a s)) scopes e
  | [] => by
    refine iff_of_false (fun h => by cases h) ?_
    rintro ⟨before, s, after, heq, -⟩
    simp at heq
  | s :: scopes => by
    have hrest := @eval_filterPermitted_eq_error_iff e scopes
    rw [eval_filterPermitted_cons, firstFailing_cons, ← hrest]
    rcases kept_cases (eval answer (check user a s)) with ⟨hkept, hfine⟩ | ⟨f, hkept, hf, hcode⟩
    · have hnot : ¬ (eval answer (check user a s) = .error e ∧ e.code ≠ .notFound) :=
        fun h => h.2 (hfine e h.1)
      rw [hkept, or_iff_right hnot, and_iff_right hfine]
      simp only [Except.bind]
      cases eval answer (filterPermitted user a scopes) <;> simp [Except.map]
    · rw [hkept, hf]
      constructor
      · intro h
        cases h
        exact .inl ⟨rfl, hcode⟩
      · rintro (⟨h, -⟩ | ⟨h, -⟩)
        · cases h
          rfl
        · exact absurd (h f rfl) hcode

/-! ## What a check fails with -/

/-- **What a computation fails with**, given what the questions fail with. -/
def FailsWith (answer : (q : Query) → Except Fault q.Answer) {α : Type} (t : Inquiry α) : Prop :=
  ∀ e, eval answer t = .error e → (∃ q, answer q = .error e) ∨ e.code = .internalError

theorem failsWith_pure {α : Type} (b : α) : FailsWith answer (pure b : Inquiry α) :=
  fun e h => by cases h

theorem failsWith_ask (q : Query) : FailsWith answer (Procedure.ask q : Inquiry q.Answer) :=
  fun _ h => .inl ⟨q, h⟩

theorem FailsWith.bind {α β : Type} {t : Inquiry α} {f : α → Inquiry β} (ht : FailsWith answer t)
    (hf : ∀ b, FailsWith answer (f b)) : FailsWith answer (t >>= f) := by
  intro e h
  rw [Procedure.eval_bind] at h
  cases hb : eval answer t with
  | error g =>
    rw [hb] at h
    cases h
    exact ht e hb
  | ok b =>
    rw [hb] at h
    exact hf b e h

theorem failsWith_effectiveScopes (scope : Scope) :
    FailsWith answer (effectiveScopes scope) := by
  rw [effectiveScopes]
  refine (failsWith_ask _).bind fun parent => ?_
  split
  · exact failsWith_pure _
  next p t _ =>
    split
    · exact (failsWith_effectiveScopes p).bind fun _ => failsWith_pure _
    · intro e h
      cases h
      exact .inr rfl
  · intro e h
    cases h
    exact .inr rfl
termination_by scope.type.depth
decreasing_by
  rename_i hlevel _ _ _ _ htype
  have := ScopeType.depth_parent hlevel
  rw [htype]
  omega

theorem failsWith_firstGranting (a : Action) (level : Scope) :
    ∀ rows : List Assignment, FailsWith answer (firstGranting a level rows)
  | [] => failsWith_pure _
  | row :: rows => by
    refine (failsWith_ask _).bind fun permissions => ?_
    split
    · exact failsWith_pure _
    · exact failsWith_firstGranting a level rows

theorem failsWith_firstGrant (user : String) (a : Action) :
    ∀ levels : List Scope, FailsWith answer (firstGrant user a levels)
  | [] => failsWith_pure _
  | level :: levels => by
    refine (failsWith_ask _).bind fun rows => ?_
    refine (failsWith_firstGranting a level rows).bind fun g => ?_
    cases g with
    | some g => exact failsWith_pure _
    | none => exact failsWith_firstGrant user a levels

/-- **A check fails with the fault of a question**, or finds the tree inconsistent. -/
theorem fault_of_check {e : Fault} (h : eval answer (check user a scope) = .error e) :
    (∃ q, answer q = .error e) ∨ e.code = .internalError := by
  have hfind : FailsWith answer (findGrant user a scope) :=
    (failsWith_effectiveScopes scope).bind fun levels => failsWith_firstGrant user a levels
  rw [check, Procedure.eval_bind, Procedure.eval_attempt] at h
  cases hfound : eval answer (findGrant user a scope) with
  | ok g =>
    rw [hfound] at h
    cases h
  | error f =>
    rw [hfound] at h
    cases h
    exact hfind e hfound

/-! ## One decision -/

/-- **One decision**, as four entry points express it: by the result of a check, of enforcing, of
filtering a list of scopes and of listing the actions. -/
structure OneDecision (checked : Action → Scope → Except Fault Bool)
    (enforced : Action → Scope → Except Fault Unit)
    (filtered : Action → List Scope → Except Fault (List Scope))
    (listed : Scope → Except Fault (List Action)) : Prop where
  passes : ∀ a s, enforced a s = .ok () ↔ checked a s = .ok true
  denies : ∀ a s, (checked a s = .ok false ∨ ∃ e, checked a s = .error e ∧ e.code = .notFound) →
    ∃ reason, enforced a s = .error (.forbidden reason)
  fails : ∀ a s e, checked a s = .error e → e.code ≠ .notFound → enforced a s = .error e
  keeps : ∀ a scopes ss, filtered a scopes = .ok ss →
    ss = scopes.filter fun s => saysYes (checked a s)
  keepsFails : ∀ a scopes, (∃ e, filtered a scopes = .error e) ↔
    ∃ s ∈ scopes, ∃ e, checked a s = .error e ∧ e.code ≠ .notFound
  firstFailing : ∀ a scopes e, filtered a scopes = .error e → FirstFailing (checked a) scopes e
  lists : ∀ s actions, listed s = .ok actions → ∀ a, checked a s = .ok (decide (a ∈ actions))

/-- The results of an entry point are those of one decision, whatever the answers are. -/
theorem oneDecision_eval (answer : (q : Query) → Except Fault q.Answer) (user : String) :
    OneDecision (fun a s => eval answer (check user a s))
      (fun a s => eval answer (enforce user a s))
      (fun a scopes => eval answer (filterPermitted user a scopes))
      (fun s => eval answer (list user s)) where
  passes a s := by
    rw [eval_enforce]
    rcases eval answer (check user a s) with e | yes
    · simp
    · cases yes <;> simp
  denies a s h := by
    rw [eval_enforce]
    rcases h with h | ⟨e, h, hcode⟩
    · rw [h]
      exact ⟨_, rfl⟩
    · rw [h]
      exact ⟨_, congrArg Except.error (if_pos (Fault.isNotFound_iff.2 hcode))⟩
  fails a s e h hcode := by
    rw [eval_enforce, h]
    exact congrArg Except.error (if_neg fun hunknown => hcode (Fault.isNotFound_iff.1 hunknown))
  keeps a scopes ss h := (eval_filterPermitted_eq_ok_iff.1 h).2
  keepsFails a scopes := by
    constructor
    · rintro ⟨e, h⟩
      obtain ⟨before, s, after, rfl, -, hs, hcode⟩ := eval_filterPermitted_eq_error_iff.1 h
      exact ⟨s, by simp, e, hs, hcode⟩
    · rintro ⟨s, hs, e, he, hcode⟩
      cases h : eval answer (filterPermitted user a scopes) with
      | error f => exact ⟨f, rfl⟩
      | ok ss => exact absurd ((eval_filterPermitted_eq_ok_iff.1 h).1 s hs e he) hcode
  firstFailing a scopes e h := eval_filterPermitted_eq_error_iff.1 h
  lists s actions h a := eval_check_of_list h a

/-- **A denial is a negative decision**, an unknown scope, or a fault that says so itself. -/
theorem OneDecision.denied_iff {checked : Action → Scope → Except Fault Bool}
    {enforced : Action → Scope → Except Fault Unit}
    {filtered : Action → List Scope → Except Fault (List Scope)}
    {listed : Scope → Except Fault (List Action)}
    (h : OneDecision checked enforced filtered listed) (a : Action) (s : Scope) :
    (∃ e, enforced a s = .error e ∧ e.code = .permissionDenied) ↔
      checked a s = .ok false ∨
        ∃ e, checked a s = .error e ∧ (e.code = .notFound ∨ e.code = .permissionDenied) := by
  constructor
  · rintro ⟨e, he, hcode⟩
    rcases hchecked : checked a s with f | yes
    · by_cases hunknown : f.code = .notFound
      · exact .inr ⟨f, rfl, .inl hunknown⟩
      · cases (h.fails a s f hchecked hunknown).symm.trans he
        exact .inr ⟨e, rfl, .inr hcode⟩
    · cases yes with
      | false => exact .inl rfl
      | true => cases ((h.passes a s).2 hchecked).symm.trans he
  · intro hdenied
    have hforbidden (hno : checked a s = .ok false ∨
        ∃ e, checked a s = .error e ∧ e.code = .notFound) :
        ∃ e, enforced a s = .error e ∧ e.code = .permissionDenied := by
      obtain ⟨reason, hreason⟩ := h.denies a s hno
      exact ⟨_, hreason, rfl⟩
    rcases hdenied with hno | ⟨e, he, hcode | hcode⟩
    · exact hforbidden (.inl hno)
    · exact hforbidden (.inr ⟨e, he, hcode⟩)
    · exact ⟨e, h.fails a s e he (by rw [hcode]; decide), hcode⟩

/-- **The entry points express one decision.**  Of a store that answers consistently, though it may
fail for any question, enforcing passes, denies and fails as a check does, what is left of a list of
scopes are those on which a check says yes, the first check that fails is reported in its place, and
the actions that are listed are those that a check allows.  A denial is one of the engine's own
where no question is answered by one. -/
theorem entry_points_express_one_decision {σ : Type} (answer : (q : Query) → Except Fault q.Answer)
    (move : Query → σ → σ) (user : String) (x y z w : σ) :
    let store := Plan.steady answer move
    let checked (a : Action) (s : Scope) := ((check user a s).run.run store x).1
    let enforced (a : Action) (s : Scope) := ((enforce user a s).run.run store y).1
    OneDecision checked enforced
      (fun a scopes => ((filterPermitted user a scopes).run.run store z).1)
      (fun s => ((list user s).run.run store w).1) ∧
    (∀ a s, (∃ e, enforced a s = .error e ∧ e.code = .permissionDenied) ↔
      checked a s = .ok false ∨
        ∃ e, checked a s = .error e ∧ (e.code = .notFound ∨ e.code = .permissionDenied)) ∧
    ((∀ q e, answer q = .error e → e.code ≠ .permissionDenied) → ∀ a s,
      ((∃ e, enforced a s = .error e ∧ e.code = .permissionDenied) ↔
        checked a s = .ok false ∨ ∃ e, checked a s = .error e ∧ e.code = .notFound)) := by
  have hdecision := oneDecision_eval answer user
  simp only [Procedure.fst_run_steady]
  refine ⟨hdecision, hdecision.denied_iff, fun hown a s => ?_⟩
  rw [hdecision.denied_iff a s]
  refine or_congr Iff.rfl (exists_congr fun e => and_congr_right fun he => ?_)
  refine or_iff_left fun hcode => ?_
  rcases fault_of_check he with ⟨q, hq⟩ | hinternal
  · exact hown q e hq hcode
  · cases hinternal.symm.trans hcode

/-- A store that denies every lookup. -/
def barred (q : Query) : Except Fault q.Answer := .error (.forbidden "not for you")

/-- One organization, and somebody who may read it. -/
def oneReader : Store.Tables where
  parents := [(.organization "org-1", none)]
  roles := [("viewer", [.forAction .read])]
  assignments := [
    { id := "row", userId := "ann", roleId := "viewer", scope := .organization "org-1"
      assignedBy := none, createdAt := ⟨0, 0⟩, expiresAt := none }]

/-- **Where the entry points part.**  If a lookup is denied, enforcing fails with that denial,
though the check said neither no nor that the scope is unknown.  If the deadline comes in the middle
of a list, nothing is left of the list, though each of its checks says yes where it
starts afresh. -/
theorem entry_points_part_at_denial_or_deadline :
    let acme := Scope.organization "org-1"
    (let store := Plan.steady barred fun _ (x : Unit) => x
     let checked := ((check "ann" .read acme).run.run store ()).1
     let enforced := ((enforce "ann" .read acme).run.run store ()).1
     ¬ ((∃ e, enforced = .error e ∧ e.code = .permissionDenied) ↔
       checked = .ok false ∨ ∃ e, checked = .error e ∧ e.code = .notFound)) ∧
    (let store := (Source.steady (oneReader.answer ⟨0, 0⟩) 10).ask { deadline := some 45 }
     let checked (s : Scope) := ((check "ann" .read s).run.run store ((), 0)).1
     let filtered := ((filterPermitted "ann" .read [acme, acme]).run.run store ((), 0)).1
     ¬ ((∃ e, filtered = .error e) ↔
       ∃ s ∈ [acme, acme], ∃ e, checked s = .error e ∧ e.code ≠ .notFound)) := by
  intro acme
  constructor
  · intro store checked enforced hiff
    have hchecked : checked = .error (.forbidden "not for you") := by
      simp only [checked, check, findGrant, effectiveScopes_eq]
      rfl
    have henforced : enforced = .error (.forbidden "not for you") := by
      simp only [enforced, enforce, check, findGrant, effectiveScopes_eq]
      rfl
    rcases hiff.1 ⟨_, henforced, rfl⟩ with hno | ⟨e, he, hcode⟩
    · cases hchecked.symm.trans hno
    · cases hchecked.symm.trans he
      cases hcode
  · intro store checked filtered hiff
    have hchecked : checked acme = .ok true := by
      simp only [checked, check, findGrant, effectiveScopes_eq]
      rfl
    -- a check takes three lookups of ten milliseconds, so the fifth lookup is cut off
    have hfiltered : filtered = .error (.timeout "active_assignments_for") := by
      simp only [filtered, filterPermitted, check, findGrant, effectiveScopes_eq]
      rfl
    obtain ⟨s, hs, e, he, -⟩ := hiff.1 ⟨_, hfiltered⟩
    have hacme : s = acme := by simpa using hs
    rw [hacme, hchecked] at he
    cases he

end Engine

end TenantGuard
