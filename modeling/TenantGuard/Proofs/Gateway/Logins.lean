import TenantGuard.Proofs.Auth.LoginMemory
import TenantGuard.Proofs.Gateway.Clock

/-!
# When logins are recorded

A server records the login of a caller when it was not recorded a short time ago, and forgets what
it remembers of logins when that is no longer of use.

* `reconcileTraced` tells which call a reconciliation makes, and `Reconciled` what comes of it;
* `History` is a sequence of requests that were authenticated, whatever happened between them, with
  the calls that were made for them; `History.handled`: whole requests make such a sequence;
* `InOrder`: what a server remembers are the logins recorded so far, kept by each reconciliation
  (`InOrder.reconciled`) and so by the sequence (`History.inOrder`);
* `logins_reconciled`: what becomes of the next request's login.
-/

namespace TenantGuard

open LoginMemory (Policy Remembers)
open Administration (Stamp)
open Http (Request Transport)

/-- **A call that was to record a login**: whose login, when the call ended, and whether it
succeeded. -/
structure LoginCall where
  user : String
  ended : Instant
  succeeded : Bool
  deriving DecidableEq, Repr

/-- The logins that were recorded. -/
def LoginCall.recorded (calls : List LoginCall) : List (String × Instant) :=
  (calls.filter (·.succeeded)).map fun c => (c.user, c.ended)

theorem LoginCall.mem_recorded_iff {calls : List LoginCall} {user : String} {t : Instant} :
    (user, t) ∈ recorded calls ↔ ∃ c ∈ calls, c.user = user ∧ c.succeeded = true ∧ c.ended = t := by
  simp only [recorded, List.mem_map, List.mem_filter, Prod.mk.injEq]
  constructor
  · rintro ⟨c, ⟨hmem, hok⟩, huser, ht⟩
    exact ⟨c, hmem, huser, hok, ht⟩
  · rintro ⟨c, hmem, huser, hok, ht⟩
    exact ⟨c, ⟨hmem, hok⟩, huser, ht⟩

namespace Gateway

variable {g : Gateway} {policy : Policy} {stamp : Stamp} {r : Request} {caller : Identity}
  {es : List Telemetry.Event} {log : List LoginCall} {call : Option LoginCall}
  {s s' : Gateway.State}

/-! ## Calls -/

/-- **The reconciliation of a login**, with the call that is made for it. -/
def reconcileTraced (g : Gateway) (stamp : Stamp) (caller : Identity) (s : State) :
    Option LoginCall × State :=
  match g.logins with
  | none => (none, s)
  | some policy =>
    let start := s.ledger.execution.clock
    if s.logins.knows policy start caller.userId then (none, s)
    else
      let limits : Limits := { deadline := some (start + loginTimeLimit) }
      match s.ledger.execution.transact limits stamp.now
          (Administration.reconcileLogin stamp.now caller.userId caller.email) with
      | (.ok _, x) =>
        (some ⟨caller.userId, x.clock, true⟩,
          { ledger := { s.ledger with execution := x }
            logins := s.logins.remember policy x.clock caller.userId })
      | (.error _, x) =>
        (some ⟨caller.userId, x.clock, false⟩,
          { s with ledger := { s.ledger with execution := x } })

theorem snd_reconcileTraced (g : Gateway) (stamp : Stamp) (caller : Identity) (s : State) :
    (g.reconcileTraced stamp caller s).2 = g.reconcile stamp caller s := by
  unfold reconcileTraced reconcile
  cases g.logins with
  | none => rfl
  | some policy =>
    simp only
    by_cases hknown : s.logins.knows policy s.ledger.execution.clock caller.userId = true
    · rw [if_pos hknown, if_pos hknown]
    · rw [if_neg hknown, if_neg hknown]
      generalize s.ledger.execution.transact _ stamp.now _ = out
      rcases out with ⟨e | a, x⟩
      · rfl
      · rfl

/-- **What comes of a reconciliation**: the user is known, and nothing happens; or the call
succeeds, and is remembered; or it fails, and is not. -/
inductive Reconciled (policy : Policy) (user : String) (s : State) :
    Option LoginCall → State → Prop where
  | known (h : s.logins.knows policy s.clock user = true) : Reconciled policy user s none s
  | recorded (h : s.logins.knows policy s.clock user = false) (x : Execution)
    (hclock : s.clock ≤ x.clock) :
    Reconciled policy user s (some ⟨user, x.clock, true⟩)
      { ledger := { s.ledger with execution := x }
        logins := s.logins.remember policy x.clock user }
  | failed (h : s.logins.knows policy s.clock user = false) (x : Execution)
    (hclock : s.clock ≤ x.clock) :
    Reconciled policy user s (some ⟨user, x.clock, false⟩)
      { s with ledger := { s.ledger with execution := x } }

theorem reconciled_reconcile (hpolicy : g.logins = some policy) (stamp : Stamp)
    (caller : Identity) (s : State) :
    Reconciled policy caller.userId s (g.reconcileTraced stamp caller s).1
      (g.reconcile stamp caller s) := by
  rw [← snd_reconcileTraced]
  unfold reconcileTraced
  rw [hpolicy]
  simp only
  split
  next hknown => exact .known hknown
  next hunknown =>
  rw [Bool.not_eq_true] at hunknown
  have hclock : s.clock ≤ (s.ledger.execution.transact
      { deadline := some (s.ledger.execution.clock + loginTimeLimit) } stamp.now
      (Administration.reconcileLogin stamp.now caller.userId caller.email)).2.clock :=
    Execution.le_clock_transact rfl _ s.ledger.execution
  split
  next x hrun =>
    rw [hrun] at hclock
    exact .recorded hunknown x hclock
  next x hrun =>
    rw [hrun] at hclock
    exact .failed hunknown x hclock

/-! ## Authentication -/

/-- The caller whom a request's token stands for, and what was counted on the way.  At a public path
nobody is asked. -/
def identified? (g : Gateway) (stamp : Stamp) (r : Request) :
    Option (Identity × List Telemetry.Event) :=
  if isPublicPath r.path then none
  else match bearerToken? r.headers with
    | none => none
    | some token =>
      match g.authenticator.identify stamp.now.seconds token with
      | (.error _, _) => none
      | (.ok caller, es) => some (caller, es)

/-- **The call that a request's authentication makes**, if it makes one. -/
def loginCall? (g : Gateway) (stamp : Stamp) (r : Request) (s : State) : Option LoginCall :=
  (g.identified? stamp r).bind fun i => (g.reconcileTraced stamp i.1 (s.note i.2)).1

/-- **Who is identified is let in**, whatever becomes of the login. -/
theorem authenticate_of_identified (h : g.identified? stamp r = some (caller, es)) (s : State) :
    g.authenticate stamp r s = (.ok (some caller), g.reconcile stamp caller (s.note es)) := by
  unfold identified? at h
  unfold authenticate
  by_cases hpath : isPublicPath r.path = true
  · rw [if_pos hpath] at h
    cases h
  rw [if_neg hpath] at h ⊢
  cases htoken : bearerToken? r.headers with
  | none =>
    rw [htoken] at h
    cases h
  | some token =>
    simp only [htoken] at h ⊢
    rcases hidentify : g.authenticator.identify stamp.now.seconds token with ⟨e | c, es'⟩
    · rw [hidentify] at h
      cases h
    · rw [hidentify] at h
      cases h
      rfl

/-- Where nobody is identified, something is counted at most. -/
theorem authenticate_of_unidentified (h : g.identified? stamp r = none) (s : State) :
    ∃ es, (g.authenticate stamp r s).2 = s.note es := by
  have hnothing : s.note [] = s := by simp [State.note]
  unfold identified? at h
  unfold authenticate
  by_cases hpath : isPublicPath r.path = true
  · rw [if_pos hpath]
    exact ⟨[], hnothing.symm⟩
  rw [if_neg hpath] at h ⊢
  cases htoken : bearerToken? r.headers with
  | none => exact ⟨_, rfl⟩
  | some token =>
    simp only [htoken] at h ⊢
    rcases hidentify : g.authenticator.identify stamp.now.seconds token with ⟨e | c, es⟩
    · exact ⟨_, rfl⟩
    · rw [hidentify] at h
      cases h

/-! ## Sequences of requests -/

/-- **The requests that a server authenticated** one after another, with the calls that were made
for them.  Between two of them the store, its failures and the counts may change in any way, and
time goes on. -/
inductive History (g : Gateway) : List LoginCall → State → Prop where
  | start (ledger : Api.Ledger) : History g [] { ledger }
  | meanwhile {log : List LoginCall} {s : State} (ledger : Api.Ledger)
    (hclock : s.clock ≤ ledger.execution.clock) (h : History g log s) :
    History g log { s with ledger }
  | authenticated {log : List LoginCall} {s : State} (stamp : Stamp) (r : Request)
    (h : History g log s) :
    History g (log ++ (g.loginCall? stamp r s).toList) (g.authenticate stamp r s).2

/-- A request that is handled leaves the rest to its target, when it was authenticated. -/
theorem handle_after_authenticate (hmethod : r.method ≠ "OPTIONS") (g : Gateway)
    (transport : Transport) (stamp : Stamp) (s : State) :
    ∃ ledger, (g.authenticate stamp r s).2.clock ≤ ledger.execution.clock ∧
      (g.handle transport stamp r s).2 = { (g.authenticate stamp r s).2 with ledger } := by
  simp only [handle, guarded, if_neg hmethod, serveAuthenticated]
  split
  next mid heq =>
    rw [heq]
    exact ⟨mid.ledger, Nat.le_refl _, rfl⟩
  next c mid heq =>
  rw [heq]
  split
  · have hclock := le_clock_serve g transport stamp (Target.ofPath g.proxies r.path) c r mid
    have hlogins := logins_serve g transport stamp (Target.ofPath g.proxies r.path) c r mid
    exact ⟨_, hclock, by rw [← hlogins]⟩
  · exact ⟨mid.ledger, Nat.le_refl _, rfl⟩

/-- **Requests that are handled** make such a sequence, too. -/
theorem History.handled (h : History g log s) (transport : Transport) (stamp : Stamp)
    (r : Request) : ∃ log', History g log' (g.handle transport stamp r s).2 := by
  by_cases hmethod : r.method = "OPTIONS"
  · simp only [handle, guarded, if_pos hmethod]
    exact ⟨log, h⟩
  · obtain ⟨ledger, hclock, heq⟩ := handle_after_authenticate hmethod g transport stamp s
    rw [heq]
    exact ⟨_, .meanwhile ledger hclock (.authenticated stamp r h)⟩

/-! ## What is remembered -/

theorem LoginCall.recorded_append (log calls : List LoginCall) :
    LoginCall.recorded (log ++ calls) = LoginCall.recorded log ++ LoginCall.recorded calls := by
  simp [LoginCall.recorded]

/-- **What holds behind a sequence of requests**: the memory stands for the logins recorded so far,
and every call has ended. -/
structure InOrder (policy : Policy) (log : List LoginCall) (s : State) : Prop where
  remembers : Remembers policy (LoginCall.recorded log) s.clock s.logins
  past : ∀ c ∈ log, c.ended ≤ s.clock

theorem inOrder_start (policy : Policy) (ledger : Api.Ledger) :
    InOrder policy [] { ledger } :=
  ⟨LoginMemory.remembers_empty policy _, nofun⟩

theorem InOrder.meanwhile (h : InOrder policy log s) {ledger : Api.Ledger}
    (hclock : s.clock ≤ ledger.execution.clock) : InOrder policy log { s with ledger } :=
  ⟨h.remembers.later hclock, fun c hc => Nat.le_trans (h.past c hc) hclock⟩

/-- A reconciliation keeps that. -/
theorem InOrder.reconciled (h : InOrder policy log s)
    (hdone : Reconciled policy caller.userId s call s') :
    InOrder policy (log ++ call.toList) s' := by
  have hlog : ∀ {c : LoginCall} {now : Instant}, s.clock ≤ now → c.ended = now →
      ∀ c' ∈ log ++ [c], c'.ended ≤ now := by
    intro c now hclock hended c' hc'
    rw [List.mem_append, List.mem_singleton] at hc'
    rcases hc' with hold | rfl
    · exact Nat.le_trans (h.past c' hold) hclock
    · exact Nat.le_of_eq hended
  cases hdone with
  | known hknown =>
    rw [Option.toList_none, List.append_nil]
    exact h
  | recorded hunknown x hclock =>
    refine ⟨?_, hlog hclock rfl⟩
    rw [LoginCall.recorded_append]
    exact h.remembers.remember hclock caller.userId
  | failed hunknown x hclock =>
    have hnothing : LoginCall.recorded (log ++ [⟨caller.userId, x.clock, false⟩]) =
        LoginCall.recorded log := by
      rw [LoginCall.recorded_append]
      exact List.append_nil _
    refine ⟨?_, hlog hclock rfl⟩
    rw [Option.toList_some, hnothing]
    exact h.remembers.later hclock

theorem History.inOrder (hpolicy : g.logins = some policy) (h : History g log s) :
    InOrder policy log s := by
  induction h with
  | start ledger => exact inOrder_start policy ledger
  | meanwhile ledger hclock h ih => exact ih.meanwhile hclock
  | @authenticated log s stamp r h ih =>
    unfold loginCall?
    cases hidentified : g.identified? stamp r with
    | none =>
      obtain ⟨es, heq⟩ := authenticate_of_unidentified hidentified s
      rw [heq, Option.bind_none, Option.toList_none, List.append_nil]
      exact ih.meanwhile (Nat.le_refl _)
    | some i =>
      rw [authenticate_of_identified hidentified]
      have hnoted : InOrder policy log (s.note i.2) := ih.meanwhile (Nat.le_refl _)
      exact hnoted.reconciled (reconciled_reconcile hpolicy stamp i.1 (s.note i.2))

/-! ## The next login -/

/-- **A user's login was recorded** less than the lifetime ago. -/
def RecentlyRecorded (log : List LoginCall) (lifetime : Nat) (now : Instant) (user : String) :
    Prop :=
  ∃ c ∈ log, c.user = user ∧ c.succeeded = true ∧ now < c.ended + lifetime

/-- The users whose login was recorded less than the lifetime ago, each of them once. -/
def recentUsers (policy : Policy) (now : Instant) (log : List LoginCall) : List String :=
  LoginMemory.freshUsers policy now (LoginCall.recorded log)

/-- **What becomes of the login** of a caller who was identified, behind the calls so far. -/
structure LoginHandled (policy : Policy) (log : List LoginCall) (caller : Identity) (s : State)
    (call : Option LoginCall) (answer : Except Refusal (Option Identity)) (after : State) :
    Prop where
  /-- The request goes on, also if the login cannot be recorded. -/
  letIn : answer = .ok (some caller)
  past : ∀ c ∈ log, c.ended ≤ s.clock
  called_iff : call.isSome = true ↔ ¬RecentlyRecorded log policy.lifetime s.clock caller.userId
  own : ∀ c ∈ call, c.user = caller.userId ∧ c.ended = after.clock
  uncalled : call = none →
    after.ledger.execution = s.ledger.execution ∧ after.logins = s.logins
  failed : ∀ c ∈ call, c.succeeded = false → after.logins = s.logins
  forgotten : ∀ e ∈ s.logins.entries, e ∉ after.logins.entries →
    e.2 + policy.lifetime ≤ after.clock
  bounded : ∀ c ∈ call, c.succeeded = true → after.logins.entries.length ≤
    max policy.sweepAbove (recentUsers policy after.clock (log ++ [c])).length

theorem knows_iff_recentlyRecorded
    (h : InOrder policy log s) (user : String) :
    s.logins.knows policy s.clock user = true ↔
      RecentlyRecorded log policy.lifetime s.clock user := by
  rw [h.remembers.knows_iff]
  constructor
  · rintro ⟨since, hmem, hfresh⟩
    have hrecent := (LoginMemory.isFresh_iff (h.remembers.past _ hmem)).1 hfresh
    obtain ⟨c, hc, huser, hok, rfl⟩ := LoginCall.mem_recorded_iff.1 hmem
    exact ⟨c, hc, huser, hok, hrecent⟩
  · rintro ⟨c, hc, huser, hok, hrecent⟩
    have hmem : (user, c.ended) ∈ LoginCall.recorded log :=
      LoginCall.mem_recorded_iff.2 ⟨c, hc, huser, hok, rfl⟩
    exact ⟨c.ended, hmem, (LoginMemory.isFresh_iff (h.past c hc)).2 hrecent⟩

/-- Whatever comes of a reconciliation, this becomes of the login. -/
theorem InOrder.handled (hs : InOrder policy log s)
    (hdone : Reconciled policy caller.userId (s.note es) call s') :
    LoginHandled policy log caller s call (.ok (some caller)) s' := by
  have hknows := knows_iff_recentlyRecorded hs caller.userId
  have hunknown : s.logins.knows policy s.clock caller.userId = false →
      ¬RecentlyRecorded log policy.lifetime s.clock caller.userId := fun h hrecent => by
    rw [hknows.2 hrecent] at h
    cases h
  cases hdone with
  | known h =>
    exact {
      letIn := rfl
      past := hs.past
      called_iff := iff_of_false nofun fun hnot => hnot (hknows.1 h)
      own := nofun
      uncalled := fun _ => ⟨rfl, rfl⟩
      failed := nofun
      forgotten := fun e he hgone => absurd he hgone
      bounded := nofun }
  | recorded h x hclock =>
    have hbound := hs.remembers.length_remember_le hclock caller.userId
    exact {
      letIn := rfl
      past := hs.past
      called_iff := iff_of_true rfl (hunknown h)
      own := by
        rintro c ⟨⟩
        exact ⟨rfl, rfl⟩
      uncalled := nofun
      failed := by
        rintro c ⟨⟩ ⟨⟩
      forgotten := fun e he hgone => hs.remembers.le_of_forgotten h hclock he hgone
      bounded := by
        rintro c ⟨⟩ -
        rw [recentUsers, LoginCall.recorded_append]
        exact hbound }
  | failed h x hclock =>
    exact {
      letIn := rfl
      past := hs.past
      called_iff := iff_of_true rfl (hunknown h)
      own := by
        rintro c ⟨⟩
        exact ⟨rfl, rfl⟩
      uncalled := nofun
      failed := fun _ _ _ => rfl
      forgotten := fun e he hgone => absurd he hgone
      bounded := by
        rintro c ⟨⟩ ⟨⟩ }

/-- **When logins are recorded, and what is remembered of them.**  In any sequence of requests that
a server authenticates, whoever makes them, at any times and whatever fails: the login of a caller
who is identified is recorded exactly if no call for this user succeeded less than the lifetime ago;
a call that fails is not remembered and does not keep the caller out; only what is older than the
lifetime is forgotten; and behind a call that succeeded there are no more entries than are never
swept, or than users whose login was recorded less than the lifetime ago. -/
theorem logins_reconciled (hpolicy : g.logins = some policy) (h : History g log s)
    (hcaller : g.identified? stamp r = some (caller, es)) :
    LoginHandled policy log caller s (g.loginCall? stamp r s) (g.authenticate stamp r s).1
      (g.authenticate stamp r s).2 := by
  have hdone := reconciled_reconcile hpolicy stamp caller (s.note es)
  have hcall : g.loginCall? stamp r s = (g.reconcileTraced stamp caller (s.note es)).1 := by
    rw [loginCall?, hcaller]
    rfl
  rw [authenticate_of_identified hcaller, hcall]
  exact (h.inOrder hpolicy).handled hdone

/-! ## One run -/

/-- The state of a server that has just been started. -/
def started : Gateway.State := { ledger := { execution := ⟨.fresh, 0⟩ } }

/-- Bob's login is recorded with his first request, and not with the second. -/
theorem logins_reconciled_twice :
    let stamp : Stamp := ⟨⟨0, 0⟩, "", ""⟩
    let bob : Identity := ⟨"bob", some "bob@example.com"⟩
    let s := (desk.authenticate stamp takeover started).2
    desk.logins = some {} ∧ History desk [⟨"bob", 0, true⟩] s ∧
      desk.identified? stamp takeover = some (bob, [.tokenAccepted "static"]) ∧
      LoginHandled {} [⟨"bob", 0, true⟩] bob s (desk.loginCall? stamp takeover s)
        (desk.authenticate stamp takeover s).1 (desk.authenticate stamp takeover s).2 ∧
      desk.loginCall? stamp takeover s = none := by
  have hfirst : desk.loginCall? ⟨⟨0, 0⟩, "", ""⟩ takeover started = some ⟨"bob", 0, true⟩ := by
    decide +kernel
  have hhistory := History.authenticated (g := desk) ⟨⟨0, 0⟩, "", ""⟩ takeover
    (.start started.ledger)
  have hhistory' : History desk [⟨"bob", 0, true⟩]
      (desk.authenticate ⟨⟨0, 0⟩, "", ""⟩ takeover started).2 := by
    have hlog : ([] : List LoginCall) ++
        (desk.loginCall? ⟨⟨0, 0⟩, "", ""⟩ takeover started).toList = [⟨"bob", 0, true⟩] := by
      rw [hfirst]
      rfl
    exact hlog ▸ hhistory
  have hcaller : desk.identified? ⟨⟨0, 0⟩, "", ""⟩ takeover =
      some (⟨"bob", some "bob@example.com"⟩, [.tokenAccepted "static"]) := by
    rfl
  exact ⟨rfl, hhistory', hcaller, logins_reconciled rfl hhistory' hcaller, by decide +kernel⟩

end Gateway

end TenantGuard
