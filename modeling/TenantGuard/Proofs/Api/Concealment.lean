import Mathlib.Data.List.Forall2
import TenantGuard.Fault.Wire
import TenantGuard.Proofs.Api.Perform
import TenantGuard.Proofs.Engine.EntryPoints
import TenantGuard.Proofs.Engine.Failure

/-!
# What calls tell about a scope

A caller who can do nothing to a scope should not even learn that it exists: a call that names the
scope comes to the same as one that names a scope that does not exist.

* `Fault.Alike` faults look the same on the wire, and `Concealed` results do unless time ran out;
* `Hidden` says of two scopes what they have in common for a user: one is there, the other is not,
  and the user can do nothing to either;
* `Call.Renamed` calls differ in the scope that they name;
* `concealed_perform`: all calls but one are concealed;
* `perform_listPermissions`: that one is the call for the actions at a scope, which says that there
  are none where the scope exists, and is denied where it does not.
-/

namespace TenantGuard

open Procedure (HandsOn handsOn_pure handsOn_throw eval)
open Store (State Query)

/-! ## What looks the same -/

/-- **Faults that look the same** to a caller. -/
def Fault.Alike (f f' : Fault) : Prop := ∀ now, f.toWire now = f'.toWire now

theorem Fault.alike_forbidden (reason reason' : String) :
    (Fault.forbidden reason).Alike (.forbidden reason') := fun _ => rfl

theorem Fault.Alike.code {f f' : Fault} (h : f.Alike f') : f.code = f'.code :=
  congrArg Wire.code (h ⟨0, 0⟩)

namespace Engine

/-! ## Decisions about hidden scopes -/

/-- **A scope to which a user can do nothing**, and one that does not exist. -/
structure Hidden (s : State) (now : Moment) (user : String) (scope unknown : Scope) : Prop where
  known : s.hasScope scope = true
  unknown : s.hasScope unknown = false
  powerless : ∀ a, ¬ s.Allows user a scope now

variable {s : Store} {now : Moment} {user : String} {a : Action} {scope unknown : Scope}

theorem read_of_armed (h : .reads ∈ s.failing) (now : Moment) :
    s.read now = fun _ => .error Store.FailPoint.reads.fault := by
  funext q
  rw [Store.read_eq, if_pos h]

theorem read_of_unarmed (h : .reads ∉ s.failing) (now : Moment) :
    s.read now = s.committed.answer now := by
  funext q
  rw [Store.read_eq, if_neg h]

/-- Where nothing can be read, nothing is decided. -/
theorem eval_check_of_error (e : Fault) :
    eval (fun _ => .error e) (check user a scope) = .error e := by
  rw [check, Procedure.eval_bind, Procedure.eval_attempt, findGrant, Procedure.eval_bind,
    effectiveScopes, Procedure.eval_bind]
  rfl

theorem eval_list_of_error (e : Fault) :
    eval (fun _ => .error e) (list user scope) = .error e := by
  rw [list, Procedure.eval_bind, effectiveScopes, Procedure.eval_bind]
  rfl

/-- **A check of hidden scopes** denies one and does not know the other, or fails on both. -/
theorem Hidden.check (h : Hidden s.committed now user scope unknown) (hs : s.committed.Rooted)
    (a : Action) :
    eval (s.read now) (Engine.check user a scope) = .ok false ∧
        eval (s.read now) (Engine.check user a unknown) =
          .error (.notFound unknown.type.name unknown.id) ∨
      ∃ e, e.isNotFound = false ∧ eval (s.read now) (Engine.check user a scope) = .error e ∧
        eval (s.read now) (Engine.check user a unknown) = .error e := by
  by_cases harmed : .reads ∈ s.failing
  · rw [read_of_armed harmed]
    exact .inr ⟨_, rfl, eval_check_of_error _, eval_check_of_error _⟩
  · rw [read_of_unarmed harmed]
    obtain ⟨b, hb, hiff⟩ := eval_check_known hs now user a h.known
    have hdenied : b = false := by
      cases b with
      | false => rfl
      | true => exact absurd (hiff.1 rfl) (h.powerless a)
    exact .inl ⟨hdenied ▸ hb, eval_check_unknown h.unknown⟩

/-- **Enforcing denies both alike**, or fails on both. -/
theorem Hidden.enforce (h : Hidden s.committed now user scope unknown)
    (hs : s.committed.Rooted) (a : Action) :
    ∃ f f', eval (s.read now) (Engine.enforce user a scope) = .error f ∧
      eval (s.read now) (Engine.enforce user a unknown) = .error f' ∧ f.Alike f' := by
  rw [eval_enforce, eval_enforce]
  rcases h.check hs a with ⟨hdenied, hunknown⟩ | ⟨e, he, hscope, hunknown⟩
  · rw [hdenied, hunknown]
    exact ⟨_, _, rfl, rfl, Fault.alike_forbidden _ _⟩
  · rw [hscope, hunknown]
    refine ⟨e, e, ?_, ?_, fun _ => rfl⟩
    · simp [he]
    · simp [he]

/-- Neither is kept in a list of scopes. -/
theorem Hidden.kept (h : Hidden s.committed now user scope unknown) (hs : s.committed.Rooted)
    (a : Action) :
    (∃ e, kept (eval (s.read now) (Engine.check user a scope)) = .error e ∧
        kept (eval (s.read now) (Engine.check user a unknown)) = .error e) ∨
      kept (eval (s.read now) (Engine.check user a scope)) = .ok false ∧
        kept (eval (s.read now) (Engine.check user a unknown)) = .ok false := by
  rcases h.check hs a with ⟨hdenied, hunknown⟩ | ⟨e, he, hscope, hunknown⟩
  · rw [hdenied, hunknown]
    exact .inr ⟨rfl, rfl⟩
  · rw [hscope, hunknown]
    refine .inl ⟨e, ?_, ?_⟩
    · simp [Engine.kept, he]
    · simp [Engine.kept, he]

/-- One scope, or the other in its place. -/
def MayReplace (scope unknown x x' : Scope) : Prop := x = x' ∨ x = scope ∧ x' = unknown

/-- **Lists that differ in hidden scopes are filtered to the same list.** -/
theorem Hidden.filterPermitted (h : Hidden s.committed now user scope unknown)
    (hs : s.committed.Rooted) (a : Action) {scopes scopes' : List Scope}
    (hscopes : List.Forall₂ (MayReplace scope unknown) scopes scopes') :
    eval (s.read now) (Engine.filterPermitted user a scopes) =
      eval (s.read now) (Engine.filterPermitted user a scopes') := by
  induction hscopes with
  | nil => rfl
  | cons hx _ ih =>
    rw [eval_filterPermitted_cons, eval_filterPermitted_cons, ih]
    rcases hx with rfl | ⟨rfl, rfl⟩
    · rfl
    · rcases h.kept hs a with ⟨e, hkept, hkept'⟩ | ⟨hkept, hkept'⟩
      · rw [hkept, hkept']
        rfl
      · rw [hkept, hkept']
        rfl

/-- **The actions at hidden scopes**: there are none at the one that exists. -/
theorem Hidden.list (h : Hidden s.committed now user scope unknown) (hs : s.committed.Rooted) :
    eval (s.read now) (Engine.list user scope) = .ok [] ∧
        eval (s.read now) (Engine.list user unknown) =
          .error (.notFound unknown.type.name unknown.id) ∧ .reads ∉ s.failing ∨
      .reads ∈ s.failing ∧
        eval (s.read now) (Engine.list user scope) = .error Store.FailPoint.reads.fault ∧
        eval (s.read now) (Engine.list user unknown) = .error Store.FailPoint.reads.fault := by
  by_cases harmed : .reads ∈ s.failing
  · rw [read_of_armed harmed]
    exact .inr ⟨harmed, eval_list_of_error _, eval_list_of_error _⟩
  · rw [read_of_unarmed harmed]
    obtain ⟨actions, hactions⟩ := exists_eval_list hs now user h.known
    have hnone : actions = [] := by
      refine List.eq_nil_iff_forall_not_mem.2 fun a ha => h.powerless a ?_
      obtain ⟨b, hb, hiff⟩ := eval_check_known hs now user a h.known
      rw [eval_check_of_list hactions a] at hb
      cases hb
      exact hiff.1 (by simpa using ha)
    exact .inl ⟨hnone ▸ hactions, eval_list_unknown h.unknown, harmed⟩

end Engine

namespace Api

open Engine (Hidden MayReplace)
open Administration (Stamp)

variable {α β : Type} {scope unknown : Scope}

/-! ## Results that look the same -/

/-- **Results that look the same**: one value, or faults that look the same. -/
inductive Alike : Except Fault α → Except Fault α → Prop where
  | ok (a : α) : Alike (.ok a) (.ok a)
  | error {f f' : Fault} (h : f.Alike f') : Alike (.error f) (.error f')

theorem Alike.refl : ∀ r : Except Fault α, Alike r r
  | .ok a => .ok a
  | .error _ => .error fun _ => rfl

/-- A result that there was no time for. -/
def TimedOut (r : Except Fault α) : Prop := ∃ operation, r = .error (.timeout operation)

/-- **Results that are concealed from each other**: they look the same, unless one of them ran out
of time, which does not happen where the store answers at once. -/
def Concealed (prompt : Prop) (r r' : Except Fault α) : Prop :=
  Alike r r' ∨ ¬ prompt ∧ (TimedOut r ∨ TimedOut r')

variable {prompt : Prop}

theorem Concealed.refl (r : Except Fault α) : Concealed prompt r r := .inl (.refl r)

/-- **Results that are no values**, and are concealed from each other. -/
def Denied (prompt : Prop) (r r' : Except Fault α) : Prop :=
  (∃ f f', r = .error f ∧ r' = .error f' ∧ f.Alike f') ∨ ¬ prompt ∧ (TimedOut r ∨ TimedOut r')

theorem Denied.concealed {r r' : Except Fault α} (h : Denied prompt r r') :
    Concealed prompt r r' := by
  rcases h with ⟨f, f', rfl, rfl, halike⟩ | hslow
  · exact .inl (.error halike)
  · exact .inr hslow

/-! ## Tasks -/

namespace Task

/-- A failure is not gone on with. -/
theorem fst_run_bind_of_error {t : Task α} {s : Ledger} {e : Fault} (h : (t.run s).1 = .error e)
    (f : α → Task β) : ((t >>= f).run s).1 = .error e := by
  rw [run_bind]
  generalize t.run s = out at h
  obtain ⟨r, s'⟩ := out
  cases h
  rfl

theorem run_ofExcept_bind {r : Except Fault α} {a : α} (h : r = .ok a) (f : α → Task β)
    (s : Ledger) : (ofExcept r >>= f).run s = (f a).run s := by
  rw [h, run_bind]
  rfl

theorem fst_run_map_of_ok {t : Task α} {s : Ledger} {a : α} (h : (t.run s).1 = .ok a)
    (g : α → β) : ((t >>= fun a => pure (g a)).run s).1 = .ok (g a) := by
  rw [run_bind]
  generalize t.run s = out at h
  obtain ⟨r, s'⟩ := out
  cases h
  rfl

theorem timedOut_bind {t : Task α} {s : Ledger} (h : TimedOut (t.run s).1) (f : α → Task β) :
    TimedOut ((t >>= f).run s).1 := by
  obtain ⟨operation, h⟩ := h
  exact ⟨operation, fst_run_bind_of_error h f⟩

/-- **Nothing follows a denial.** -/
theorem denied_bind {t t' : Task α} {s : Ledger} (h : Denied prompt (t.run s).1 (t'.run s).1)
    (k k' : α → Task β) :
    Denied prompt ((t >>= k).run s).1 ((t' >>= k').run s).1 := by
  rcases h with ⟨f, f', hf, hf', halike⟩ | ⟨hslow, h⟩
  · exact .inl ⟨f, f', fst_run_bind_of_error hf k, fst_run_bind_of_error hf' k', halike⟩
  · exact .inr ⟨hslow, h.imp (timedOut_bind · k) (timedOut_bind · k')⟩

/-- **What is made of results that are concealed** is concealed. -/
theorem concealed_map {t t' : Task α} {s : Ledger}
    (h : Concealed prompt (t.run s).1 (t'.run s).1) (g : α → β) :
    Concealed prompt ((t >>= fun a => pure (g a)).run s).1
      ((t' >>= fun a => pure (g a)).run s).1 := by
  rcases h with h | ⟨hslow, h⟩
  · generalize hr : (t.run s).1 = r at h
    generalize hr' : (t'.run s).1 = r' at h
    cases h with
    | ok a =>
      rw [fst_run_map_of_ok hr, fst_run_map_of_ok hr']
      exact .inl (.ok (g a))
    | error halike =>
      rw [fst_run_bind_of_error hr, fst_run_bind_of_error hr']
      exact .inl (.error halike)
  · exact .inr ⟨hslow, h.imp (timedOut_bind · _) (timedOut_bind · _)⟩

/-- An inquiry comes to what it makes of reading the store, or runs out of time. -/
theorem inquire_cases (start : Instant) (now : Moment) {plan : Inquiry α} (h : plan.HandsOn)
    (s : Ledger) :
    ((inquire (limitsFrom start) now plan).run s).1 =
        eval (s.execution.store.read now) plan ∨
      ¬ s.execution.store.Prompt ∧ TimedOut ((inquire (limitsFrom start) now plan).run s).1 :=
  Execution.consult_cases (l := limitsFrom start) rfl rfl h s.execution

/-- **Two inquiries** come to what they make of reading the store, or one runs out of time. -/
theorem inquire_both (start : Instant) (now : Moment) {plan plan' : Inquiry α} (h : plan.HandsOn)
    (h' : plan'.HandsOn) (s : Ledger) :
    ((inquire (limitsFrom start) now plan).run s).1 = eval (s.execution.store.read now) plan ∧
        ((inquire (limitsFrom start) now plan').run s).1 =
          eval (s.execution.store.read now) plan' ∨
      ¬ s.execution.store.Prompt ∧
        (TimedOut ((inquire (limitsFrom start) now plan).run s).1 ∨
          TimedOut ((inquire (limitsFrom start) now plan').run s).1) := by
  rcases inquire_cases start now h s with hr | ⟨hslow, hr⟩
  · rcases inquire_cases start now h' s with hr' | ⟨hslow, hr'⟩
    · exact .inl ⟨hr, hr'⟩
    · exact .inr ⟨hslow, .inr hr'⟩
  · exact .inr ⟨hslow, .inl hr⟩

end Task

/-! ## Calls -/

/-- **Names that differ in the scope that they stand for.** -/
structure ScopeName.Renamed (scope unknown : Scope) (n n' : ScopeName) : Prop where
  known : n.resolve = .ok scope
  unknown : n'.resolve = .ok unknown

/-- Names of one scope, or names that differ in it. -/
def ScopeName.MayRename (scope unknown : Scope) (n n' : ScopeName) : Prop :=
  n = n' ∨ n.Renamed scope unknown n'

/-- **Calls that differ in the scope that they name.** -/
inductive Call.Renamed (scope unknown : Scope) : Call → Call → Prop where
  | authorize (a : Action) {names names' : List ScopeName}
    (h : List.Forall₂ (ScopeName.MayRename scope unknown) names names') :
    Renamed scope unknown (.authorize a names) (.authorize a names')
  | createProject {o o' : String} (name : String) (description : Option String)
    (h : ScopeName.Renamed scope unknown ⟨ScopeType.organization.name, o⟩
      ⟨ScopeType.organization.name, o'⟩) :
    Renamed scope unknown (.createProject o name description) (.createProject o' name description)
  | createResource {p p' : String} (name kind : String)
    (h : ScopeName.Renamed scope unknown ⟨ScopeType.project.name, p⟩
      ⟨ScopeType.project.name, p'⟩) :
    Renamed scope unknown (.createResource p name kind) (.createResource p' name kind)
  | listPermissions {n n' : ScopeName} (h : n.Renamed scope unknown n') :
    Renamed scope unknown (.listPermissions n) (.listPermissions n')
  | listAssignments {n n' : ScopeName} (h : n.Renamed scope unknown n') :
    Renamed scope unknown (.listAssignments n) (.listAssignments n')
  | assignRole {n n' : ScopeName} (userId roleName : String) (expiresAt : Option Moment)
    (h : n.Renamed scope unknown n') :
    Renamed scope unknown (.assignRole n userId roleName expiresAt)
      (.assignRole n' userId roleName expiresAt)
  | revokeRole {n n' : ScopeName} (userId roleName : String) (h : n.Renamed scope unknown n') :
    Renamed scope unknown (.revokeRole n userId roleName) (.revokeRole n' userId roleName)

/-- Names that may differ in a scope are refused for one reason, or stand for scopes that may
differ in it. -/
theorem ScopeName.MayRename.resolve {n n' : ScopeName} (h : n.MayRename scope unknown n') :
    (∃ e, n.resolve = .error e ∧ n'.resolve = .error e) ∨
      ∃ x x', n.resolve = .ok x ∧ n'.resolve = .ok x' ∧ MayReplace scope unknown x x' := by
  rcases h with rfl | h
  · cases n.resolve with
    | error e => exact .inl ⟨e, rfl, rfl⟩
    | ok x => exact .inr ⟨x, x, rfl, rfl, .inl rfl⟩
  · exact .inr ⟨scope, unknown, h.known, h.unknown, .inr ⟨rfl, rfl⟩⟩

/-- So are lists of such names. -/
theorem resolve_mayRename {names names' : List ScopeName}
    (h : List.Forall₂ (ScopeName.MayRename scope unknown) names names') :
    (∃ e, names.mapM ScopeName.resolve = .error e ∧ names'.mapM ScopeName.resolve = .error e) ∨
      ∃ scopes scopes', names.mapM ScopeName.resolve = .ok scopes ∧
        names'.mapM ScopeName.resolve = .ok scopes' ∧
        List.Forall₂ (MayReplace scope unknown) scopes scopes' := by
  induction h with
  | nil => exact .inr ⟨[], [], rfl, rfl, .nil⟩
  | @cons n n' names names' hn _ ih =>
    simp only [List.mapM_cons]
    rcases hn.resolve with ⟨e, he, he'⟩ | ⟨x, x', hx, hx', hreplace⟩
    · exact .inl ⟨e, by rw [he]; rfl, by rw [he']; rfl⟩
    · rw [hx, hx']
      rcases ih with ⟨e, he, he'⟩ | ⟨scopes, scopes', hscopes, hscopes', hrest⟩
      · exact .inl ⟨e, by rw [he]; rfl, by rw [he']; rfl⟩
      · exact .inr ⟨x :: scopes, x' :: scopes', by rw [hscopes]; rfl, by rw [hscopes']; rfl,
          .cons hreplace hrest⟩

section Hidden

variable {stamp : Stamp} {caller : Identity} {s : Ledger}

/-- **Who can do nothing to a scope passes no requirement**, and does not learn whether the scope
exists. -/
theorem concealed_requireScope (start : Instant)
    (h : Hidden s.execution.store.committed stamp.now caller.userId scope unknown)
    (hs : s.execution.store.committed.Rooted) (a : Action) {n n' : ScopeName}
    (hn : n.Renamed scope unknown n') (k k' : Scope → Task β) :
    Concealed s.execution.store.Prompt
      ((requireScope (limitsFrom start) stamp.now caller a n >>= k).run s).1
      ((requireScope (limitsFrom start) stamp.now caller a n' >>= k').run s).1 := by
  obtain ⟨f, f', hf, hf', halike⟩ := h.enforce hs a
  have hrun : ∀ {m : ScopeName} {x : Scope}, m.resolve = .ok x →
      (requireScope (limitsFrom start) stamp.now caller a m).run s =
        (Task.inquire (limitsFrom start) stamp.now (Engine.enforce caller.userId a x) >>= fun _ =>
          pure x).run s :=
    fun hm => Task.run_ofExcept_bind hm _ s
  -- both requirements fail, so that what follows is not reached and may differ in any way
  refine (Task.denied_bind ?_ k k').concealed
  rw [hrun hn.known, hrun hn.unknown]
  refine Task.denied_bind ?_ _ _
  rcases Task.inquire_both start stamp.now (Engine.handsOn_enforce caller.userId a scope)
    (Engine.handsOn_enforce caller.userId a unknown) s with ⟨hr, hr'⟩ | hslow
  · exact .inl ⟨f, f', hr.trans hf, hr'.trans hf', halike⟩
  · exact .inr hslow

theorem concealed_authorize (start : Instant)
    (h : Hidden s.execution.store.committed stamp.now caller.userId scope unknown)
    (hs : s.execution.store.committed.Rooted) (a : Action) {names names' : List ScopeName}
    (hnames : List.Forall₂ (ScopeName.MayRename scope unknown) names names') :
    Concealed s.execution.store.Prompt
      ((performWithin (limitsFrom start) stamp caller (.authorize a names)).run s).1
      ((performWithin (limitsFrom start) stamp caller (.authorize a names')).run s).1 := by
  rcases resolve_mayRename hnames with ⟨e, he, he'⟩ | ⟨scopes, scopes', hok, hok', hscopes⟩
  · have hrun : ∀ {ms : List ScopeName}, ms.mapM ScopeName.resolve = .error e →
        ((performWithin (limitsFrom start) stamp caller (.authorize a ms)).run s).1 = .error e :=
      fun {ms} hms =>
        Task.fst_run_bind_of_error (t := Task.ofExcept (ms.mapM ScopeName.resolve)) (s := s) hms _
    rw [hrun he, hrun he']
    exact .refl (.error e)
  · have hrun : ∀ {ms : List ScopeName} {xs : List Scope}, ms.mapM ScopeName.resolve = .ok xs →
        (performWithin (limitsFrom start) stamp caller (.authorize a ms)).run s =
          (Task.inquire (limitsFrom start) stamp.now
            (Engine.filterPermitted caller.userId a xs) >>= fun allowed =>
              pure (.permitted a allowed)).run s :=
      fun hms => Task.run_ofExcept_bind hms _ s
    rw [hrun hok, hrun hok']
    refine Task.concealed_map ?_ _
    rcases Task.inquire_both start stamp.now
      (Engine.handsOn_filterPermitted caller.userId a scopes)
      (Engine.handsOn_filterPermitted caller.userId a scopes') s with ⟨hr, hr'⟩ | hslow
    · rw [hr, hr', h.filterPermitted hs a hscopes]
      exact .refl _
    · exact .inr hslow

/-- **All calls but one conceal whether a scope exists.** -/
theorem concealed_perform
    (h : Hidden s.execution.store.committed stamp.now caller.userId scope unknown)
    (hs : s.execution.store.committed.Rooted) {c c' : Call} (hc : c.Renamed scope unknown c')
    (hother : ∀ n, c ≠ .listPermissions n) :
    Concealed s.execution.store.Prompt ((perform stamp caller c).run s).1
      ((perform stamp caller c').run s).1 := by
  rw [run_perform, run_perform]
  cases hc with
  | authorize a hnames => exact concealed_authorize _ h hs a hnames
  | createProject name description hn => exact concealed_requireScope _ h hs .write hn _ _
  | createResource name kind hn => exact concealed_requireScope _ h hs .write hn _ _
  | listPermissions hn => exact absurd rfl (hother _)
  | listAssignments hn => exact concealed_requireScope _ h hs .manageAccess hn _ _
  | assignRole userId roleName expiresAt hn =>
    exact concealed_requireScope _ h hs .manageAccess hn _ _
  | revokeRole userId roleName hn => exact concealed_requireScope _ h hs .manageAccess hn _ _

/-! ## The actions at a scope -/

theorem handsOn_permissionsAt (user : String) (x : Scope) : HandsOn (permissionsAt user x) := by
  refine (Engine.failsFast_list user x).handsOn.attempt_bind (fun f => ?_) fun r => ?_
  · simp only [denyUnknown, f.notAnswer]
    rfl
  · cases r with
    | ok actions => exact handsOn_pure actions
    | error f => exact handsOn_throw _

theorem eval_permissionsAt {answer : (q : Query) → Except Fault q.Answer} (user : String)
    (x : Scope) : eval answer (permissionsAt user x) =
      (eval answer (Engine.list user x)).mapError (denyUnknown x) := by
  rw [permissionsAt, Procedure.eval_bind, Procedure.eval_attempt]
  cases eval answer (Engine.list user x) <;> rfl

/-- **The call for the actions at a scope** tells whether the scope exists: there are none at one
to which the caller can do nothing, and one that does not exist is denied.  It tells nothing only
where the store cannot be read. -/
theorem perform_listPermissions
    (h : Hidden s.execution.store.committed stamp.now caller.userId scope unknown)
    (hs : s.execution.store.committed.Rooted) {n n' : ScopeName}
    (hn : n.Renamed scope unknown n') :
    let r := ((perform stamp caller (.listPermissions n)).run s).1
    let r' := ((perform stamp caller (.listPermissions n')).run s).1
    (.reads ∈ s.execution.store.failing → Concealed s.execution.store.Prompt r r') ∧
      (.reads ∉ s.execution.store.failing →
        r = .ok (.permissions scope []) ∧ r' = .error (Engine.unknownScope unknown) ∨
        ¬ s.execution.store.Prompt ∧ (TimedOut r ∨ TimedOut r')) := by
  have hrun : ∀ {m : ScopeName} {x : Scope}, m.resolve = .ok x →
      (perform stamp caller (.listPermissions m)).run s =
        (Task.inquire (limitsFrom s.execution.clock) stamp.now
          (permissionsAt caller.userId x) >>= fun actions =>
            pure (.permissions x actions)).run s := by
    intro m x hm
    rw [run_perform]
    exact Task.run_ofExcept_bind hm _ s
  have hboth := Task.inquire_both s.execution.clock stamp.now
    (handsOn_permissionsAt caller.userId scope) (handsOn_permissionsAt caller.userId unknown) s
  rw [eval_permissionsAt, eval_permissionsAt] at hboth
  rw [hrun hn.known, hrun hn.unknown]
  rcases h.list hs with ⟨hnone, hunknown, hreads⟩ | ⟨hreads, hfault, hfault'⟩
  · refine ⟨fun harmed => absurd harmed hreads, fun _ => ?_⟩
    rcases hboth with ⟨hr, hr'⟩ | ⟨hslow, htime⟩
    · rw [hnone] at hr
      rw [hunknown] at hr'
      exact .inl ⟨Task.fst_run_map_of_ok hr _, Task.fst_run_bind_of_error hr' _⟩
    · exact .inr ⟨hslow, htime.imp (Task.timedOut_bind · _) (Task.timedOut_bind · _)⟩
  · refine ⟨fun _ => (Task.denied_bind ?_ _ _).concealed, fun hnot => absurd hreads hnot⟩
    rcases hboth with ⟨hr, hr'⟩ | hslow
    · rw [hfault] at hr
      rw [hfault'] at hr'
      exact .inl ⟨_, _, hr, hr', fun _ => rfl⟩
    · exact .inr hslow

end Hidden

end Api

end TenantGuard
