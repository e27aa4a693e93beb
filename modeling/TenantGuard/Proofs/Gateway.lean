import TenantGuard.Gateway
import TenantGuard.Proofs.Api.Perform

/-!
# Requests change what their callers may change

A request changes the store twice at most: its caller's login is recorded, and the operation that it
asks for is run.

* `reconcile_cases` and `authenticate_cases`: what is done before the request is served;
* `outcome_serve`: the request comes to one operation that its caller may order, or to none, and a
  failure to none; `handle_nobody`: without a caller nothing is changed;
* `Served` states are those that requests lead to, and their contents are in order;
* `handle_authorized` is the main statement.
-/

namespace TenantGuard

open Store (State)
open Administration (Command Stamp Authorized LoggedIn)
open Api (Ledger Outcome)
open Http (Request Transport)

/-! ## Proxies -/

namespace Proxy

variable {σ : Type} {I : σ → Prop} {store : Plan.Oracle Store.Query Store.Query.Answer σ}

theorem prepareWith_invariant (hstep : ∀ q x, I x → I (store q x).2) (p : Proxy)
    (caller : Option Identity) (r : Request) {x : σ} (h : I x) :
    I (p.prepareWith store caller r x).2.2 := by
  have hauthorize : ∀ caller t, I (p.authorizeWith store caller t x).2.2 := by
    intro caller t
    have hrun := Plan.run_invariant hstep (Engine.check caller.userId .read t.scope).run h
    unfold authorizeWith
    split
    next heq =>
      rw [heq] at hrun
      exact hrun
    next heq =>
      rw [heq] at hrun
      exact hrun
  unfold prepareWith
  split
  · exact h
  next caller =>
  split
  · exact h
  next t _ =>
  have ht := hauthorize caller t
  split
  next heq =>
    rw [heq] at ht
    exact ht
  next heq =>
    rw [heq] at ht
    split
    · exact ht
    · exact ht

/-- **A proxy leaves the store as it is.** -/
theorem handle_store (p : Proxy) (transport : Transport) (now : Moment)
    (caller : Option Identity) (r : Request) (x : Execution) :
    (p.handle transport now caller r x).state.store = x.store := by
  have hprepare : (p.prepareWith (Execution.ask (p.limitsFrom x.clock) now) caller r x).2.2.store =
      x.store :=
    prepareWith_invariant (I := fun y : Execution => y.store = x.store) (fun _ _ h => h) p caller r
      rfl
  unfold handle handleWith
  split
  next heq =>
    rw [heq] at hprepare
    exact hprepare
  next heq =>
    rw [heq] at hprepare
    split
    · exact hprepare
    · exact hprepare

end Proxy

namespace Gateway

/-- The contents of the store. -/
def State.contents (s : Gateway.State) : Store.State := s.ledger.execution.store.committed

def State.store (s : Gateway.State) : Store := s.ledger.execution.store

theorem State.contents_eq (s : Gateway.State) : s.contents = s.store.committed := rfl

variable {g : Gateway} {transport : Transport} {stamp : Stamp} {r : Request}
  {s mid : Gateway.State} {caller : Identity}

/-! ## Callers -/

/-- **A login is recorded**, or nothing happens to the store. -/
theorem reconcile_cases (g : Gateway) (stamp : Stamp) (caller : Identity) (s : Gateway.State) :
    (g.reconcile stamp caller s).store = s.store ∨
    ∃ a after, Change.effect stamp.now
      (Administration.reconcileLogin stamp.now caller.userId caller.email) s.contents =
        .ok (a, after) ∧
      (g.reconcile stamp caller s).store = { s.store with committed := after } := by
  unfold reconcile
  split
  · exact .inl rfl
  next policy _ =>
  simp only
  split
  · exact .inl rfl
  let l : Limits := { deadline := some (s.ledger.execution.clock + loginTimeLimit) }
  have hafter : ∀ x, (s.ledger.execution.transact l stamp.now
      (Administration.reconcileLogin stamp.now caller.userId caller.email)).2 = x →
      x.store = s.store ∨ ∃ a after, Change.effect stamp.now
        (Administration.reconcileLogin stamp.now caller.userId caller.email) s.contents =
          .ok (a, after) ∧ x.store = { s.store with committed := after } := by
    rintro _ rfl
    rcases Command.transact_cases (.reconcileLogin caller.userId caller.email) stamp stamp.now
      l.pace (s.ledger.execution.store, s.ledger.execution.clock) with
      ⟨body, a, after, hbody, -, -, heffect, hstore⟩ | ⟨e, -, hstore⟩
    · cases hbody
      exact .inr ⟨a, after, heffect, hstore⟩
    · exact .inl hstore
  -- whether it succeeded only decides if the login is remembered
  split
  next x hrun => exact hafter x (congrArg Prod.snd hrun)
  next x hrun => exact hafter x (congrArg Prod.snd hrun)

/-- **Either a caller is let in**, whose login is looked after, or nothing happens to the store. -/
theorem authenticate_cases (g : Gateway) (stamp : Stamp) (r : Request) (s : Gateway.State) :
    (∃ caller es, g.authenticate stamp r s =
      (.ok (some caller), g.reconcile stamp caller (s.note es))) ∨
    (∀ caller, (g.authenticate stamp r s).1 ≠ .ok (some caller)) ∧
      (g.authenticate stamp r s).2.store = s.store := by
  unfold authenticate
  split
  · exact .inr ⟨nofun, rfl⟩
  split
  · exact .inr ⟨nofun, rfl⟩
  split
  · exact .inr ⟨nofun, rfl⟩
  next caller es _ => exact .inl ⟨caller, es, rfl⟩

/-- **Who is let in** has a login recorded, if anything happens to the contents. -/
theorem loggedIn_of_authenticate (h : g.authenticate stamp r s = (.ok (some caller), mid)) :
    LoggedIn stamp.now caller.userId caller.email s.contents mid.contents := by
  rcases authenticate_cases g stamp r s with ⟨caller', es, heq⟩ | ⟨hnobody, -⟩
  · cases heq.symm.trans h
    rw [State.contents_eq, State.contents_eq]
    rcases reconcile_cases g stamp caller (s.note es) with hsame | ⟨a, after, heffect, hstore⟩
    · rw [hsame]
      exact .refl _ _ _ _
    · rw [hstore]
      exact Administration.loggedIn_of_effect heffect
  · exact absurd (congrArg Prod.fst h) (hnobody caller)

theorem intact_authenticate (g : Gateway) (stamp : Stamp) (r : Request) (hs : s.contents.Intact) :
    (g.authenticate stamp r s).2.contents.Intact := by
  rw [State.contents_eq]
  rcases authenticate_cases g stamp r s with ⟨caller, es, heq⟩ | ⟨-, hsame⟩
  · rw [heq]
    rcases reconcile_cases g stamp caller (s.note es) with hsame | ⟨a, after, heffect, hstore⟩
    · rw [hsame]
      exact hs
    · rw [hstore]
      exact Command.intact_effect (c := .reconcileLogin caller.userId caller.email) rfl heffect hs
  · rw [hsame]
    exact hs

theorem isLocked_authenticate (g : Gateway) (stamp : Stamp) (r : Request) (s : Gateway.State) :
    (g.authenticate stamp r s).2.store.isLocked = s.store.isLocked := by
  rcases authenticate_cases g stamp r s with ⟨caller, es, heq⟩ | ⟨-, hsame⟩
  · rw [heq]
    rcases reconcile_cases g stamp caller (s.note es) with hsame | ⟨a, after, -, hstore⟩
    · rw [hsame]
      rfl
    · rw [hstore]
      rfl
  · rw [hsame]

/-! ## Serving -/

theorem status_lt (reply : Api.Reply) : reply.status < 400 := by
  unfold Api.Reply.status
  split
  · decide
  · decide
  · decide
  · split
    · decide
    · decide
  all_goals decide

/-- **A request to a place** comes to one operation that its caller may order, or to none. -/
theorem outcome_serveApi (stamp : Stamp) (caller : Identity) (place : Api.Place) (r : Request)
    (l : Ledger) :
    Outcome stamp caller.userId l.execution.store
      (400 ≤ (serveApi stamp (some caller) place r l).1.status)
      (serveApi stamp (some caller) place r l).2.execution.store := by
  unfold serveApi
  simp only
  split
  · exact .unchanged
  next call _ =>
  have hcall := Api.orderly_perform stamp caller call l
  unfold Api.Orderly at hcall
  split
  next reply l' heq =>
    rw [heq] at hcall
    refine hcall.imp fun hstatus => ?_
    exact absurd hstatus (Nat.not_le_of_lt (status_lt reply))
  next f l' heq =>
    rw [heq] at hcall
    exact hcall.imp fun _ => ⟨f, rfl⟩

/-- **A request that is served** for a caller comes to that, too. -/
theorem outcome_serve (g : Gateway) (transport : Transport) (stamp : Stamp) (target : Target)
    (caller : Identity) (r : Request) (s : Gateway.State) :
    Outcome stamp caller.userId s.ledger.execution.store
      (400 ≤ (g.serve transport stamp target (some caller) r s).1.response.status)
      (g.serve transport stamp target (some caller) r s).2.ledger.execution.store := by
  cases target with
  | health => exact .unchanged
  | readiness => exact .unchanged
  | metrics => exact .unchanged
  | api place => exact outcome_serveApi stamp caller place r s.ledger
  | proxy p =>
    simp only [serve, Proxy.handle_store]
    exact .unchanged
  | nowhere => exact .unchanged

/-- Without a caller nothing happens to the store. -/
theorem serve_nobody (g : Gateway) (transport : Transport) (stamp : Stamp) (target : Target)
    (r : Request) (s : Gateway.State) :
    (g.serve transport stamp target none r s).2.store = s.store := by
  cases target with
  | proxy p => simp only [serve, State.store, Proxy.handle_store]
  | _ => rfl

/-! ## Requests -/

theorem status_mark (c : Http.Cors) (r : Request) (response : Http.Response) :
    (c.mark r response).status = response.status := by
  have hfold : ∀ (hs : List Http.Header) (response : Http.Response),
      (hs.foldl Http.Response.withHeader response).status = response.status := by
    intro hs
    induction hs with
    | nil => exact fun _ => rfl
    | cons h hs ih => exact fun response => ih (response.withHeader h)
  exact hfold _ _

theorem status_finish (target : Target) (method : String) (response : Http.Response) :
    (finish target method response).status = response.status := by
  unfold finish
  split
  · rfl
  split
  · rfl
  split
  · rfl
  · rfl

/-- **A request whose caller was let in** comes to one operation that the caller may order, or to
none. -/
theorem outcome_handle (hmethod : r.method ≠ "OPTIONS")
    (hcaller : g.authenticate stamp r s = (.ok (some caller), mid)) (transport : Transport) :
    Outcome stamp caller.userId mid.ledger.execution.store
      (400 ≤ (g.handle transport stamp r s).1.response.status)
      (g.handle transport stamp r s).2.ledger.execution.store := by
  simp only [handle, guarded, if_neg hmethod, serveAuthenticated, hcaller, status_finish,
    status_mark]
  split
  · exact outcome_serve g transport stamp _ caller r mid
  · exact .unchanged

/-- A request without a caller leaves the store as it is. -/
theorem handle_nobody
    (h : r.method = "OPTIONS" ∨ ∀ caller, (g.authenticate stamp r s).1 ≠ .ok (some caller)) :
    (g.handle transport stamp r s).2.store = s.store := by
  by_cases hmethod : r.method = "OPTIONS"
  · simp only [handle, guarded, if_pos hmethod]
  · have hnobody := h.resolve_left hmethod
    rcases authenticate_cases g stamp r s with ⟨caller, es, heq⟩ | ⟨-, hsame⟩
    · exact absurd (congrArg Prod.fst heq) (hnobody caller)
    · simp only [handle, guarded, if_neg hmethod, serveAuthenticated]
      split
      next heq =>
        rw [heq] at hsame
        exact hsame
      next c mid heq =>
        rw [heq] at hsame hnobody
        cases c with
        | some caller => exact absurd rfl (hnobody caller)
        | none =>
          split
          · exact (serve_nobody g transport stamp _ r mid).trans hsame
          · exact hsame

/-! ## Whole runs -/

/-- A state some time later: the clock went on, and the store may fail or answer in another way. -/
def State.later (s : Gateway.State) (failing : List Store.FailPoint) (latency : Nat)
    (clock : Instant) : Gateway.State :=
  { s with ledger :=
    { s.ledger with execution := ⟨{ s.ledger.execution.store with failing, latency }, clock⟩ } }

/-- **The states that requests lead to** from a fresh store, of any kind and from anybody. -/
inductive Served : Gateway.State → Prop where
  | fresh (clock : Instant) : Served { ledger := { execution := ⟨.fresh, clock⟩ } }
  | later {s : Gateway.State} (failing : List Store.FailPoint) (latency : Nat) (clock : Instant) :
    Served s → Served (s.later failing latency clock)
  | handled {s : Gateway.State} (g : Gateway) (transport : Transport) (stamp : Stamp)
    (r : Request) : Served s → Served (g.handle transport stamp r s).2

/-- **The contents are in order whatever was requested.** -/
theorem Served.contents_intact (h : Served s) : s.contents.Intact := by
  induction h with
  | fresh clock => exact Store.State.intact_seeded
  | later failing latency clock _ ih => exact ih
  | @handled s g transport stamp r _ ih =>
    have hnobody : (g.handle transport stamp r s).2.store = s.store →
        (g.handle transport stamp r s).2.contents.Intact := fun hsame => by
      rw [State.contents_eq, hsame]
      exact ih
    by_cases hmethod : r.method = "OPTIONS"
    · exact hnobody (handle_nobody (.inl hmethod))
    rcases authenticate_cases g stamp r s with ⟨caller, es, heq⟩ | ⟨hcaller, -⟩
    · have hmid := intact_authenticate g stamp r ih
      rw [heq] at hmid
      exact (outcome_handle hmethod heq transport).committed_intact hmid
    · exact hnobody (handle_nobody (.inr hcaller))

/-- **No transaction is left open.** -/
theorem Served.free (h : Served s) : s.store.isLocked = false := by
  induction h with
  | fresh clock => rfl
  | later failing latency clock _ ih => exact ih
  | @handled s g transport stamp r _ ih =>
    by_cases hmethod : r.method = "OPTIONS"
    · rw [handle_nobody (.inl hmethod)]
      exact ih
    rcases authenticate_cases g stamp r s with ⟨caller, es, heq⟩ | ⟨hcaller, -⟩
    · have hmid := isLocked_authenticate g stamp r s
      rw [heq, ih] at hmid
      exact (outcome_handle hmethod heq transport).isLocked.trans hmid
    · rw [handle_nobody (.inr hcaller)]
      exact ih

/-- **No privilege changes without authority.**  In a state that requests lead to, a caller who is
let in has a login recorded at most; what the request changes after that, whatever its target and
its body, is what the caller may change, and a request that fails changes nothing.  Nobody is let in
by a request that asks what may be sent: `OPTIONS` is answered before. -/
theorem handle_authorized (hs : Served s) (hmethod : r.method ≠ "OPTIONS")
    (hcaller : g.authenticate stamp r s = (.ok (some caller), mid)) (transport : Transport) :
    LoggedIn stamp.now caller.userId caller.email s.contents mid.contents ∧
      Authorized stamp caller.userId mid.contents (g.handle transport stamp r s).2.contents ∧
      (400 ≤ (g.handle transport stamp r s).1.response.status →
        (g.handle transport stamp r s).2.contents = mid.contents) := by
  have hmid : mid.contents.Intact := by
    have hafter := intact_authenticate g stamp r hs.contents_intact
    rwa [hcaller] at hafter
  have houtcome := outcome_handle hmethod hcaller transport
  exact ⟨loggedIn_of_authenticate hcaller, houtcome.authorized hmid,
    fun hfailed => congrArg Store.committed (houtcome.eq_of_failed hfailed)⟩

/-! ## One run -/

/-- A server that knows two callers by their tokens. -/
def desk : Gateway :=
  { authenticator := .table [⟨"a", ⟨"ann", none⟩⟩, ⟨"b", ⟨"bob", some "bob@example.com"⟩⟩]
    logins := some {} }

/-- A request to the management interface. -/
def order (token method path body : String) : Request :=
  { method, path := Api.Place.mount ++ path
    headers := [.ofText "authorization" ("Bearer " ++ token),
      .ofText "content-type" "application/json"]
    body := Text.Utf8.bytes body }

/-- Nothing is reached. -/
def unreachable : Transport := fun _ => .failed "unreachable"

/-- The state after Ann created an organization and invited Bob to own it, too. -/
def invited : Gateway.State :=
  let s := (desk.handle unreachable ⟨⟨0, 0⟩, "o1", "a1"⟩
    (order "a" "POST" "/organizations" "\x7b\"name\":\"Acme\"\x7d")
    { ledger := { execution := ⟨.fresh, 0⟩ } }).2
  (desk.handle unreachable ⟨⟨1, 0⟩, "", "a2"⟩
    (order "a" "POST" "/scopes/organizations/o1/assignments"
      "\x7b\"user_id\":\" bob@example.com\",\"role\":\"owner\"\x7d") s).2

theorem served_invited : Served invited := .handled _ _ _ _ (.handled _ _ _ _ (.fresh 0))

/-- Bob asks to take Ann's grant away. -/
def takeover : Request := order "b" "DELETE" "/scopes/organizations/o1/assignments/ann/owner" ""

/-- Bob's invitation is claimed on the way, and Ann's grant is taken away by who may do so. -/
theorem handle_authorized_takeover :
    let stamp : Stamp := ⟨⟨2, 0⟩, "", ""⟩
    let mid := (desk.authenticate stamp takeover invited).2
    let after := (desk.handle unreachable stamp takeover invited).2
    Served invited ∧
      desk.authenticate stamp takeover invited =
        (.ok (some ⟨"bob", some "bob@example.com"⟩), mid) ∧
      LoggedIn stamp.now "bob" (some "bob@example.com") invited.contents mid.contents ∧
      Authorized stamp "bob" mid.contents after.contents ∧
      Store.State.keys invited.contents.assignments =
        [⟨"ann", "owner", .organization "o1"⟩, ⟨"bob@example.com", "owner", .organization "o1"⟩] ∧
      Store.State.keys after.contents.assignments = [⟨"bob", "owner", .organization "o1"⟩] := by
  have hidentified : (desk.authenticate ⟨⟨2, 0⟩, "", ""⟩ takeover invited).1 =
      .ok (some ⟨"bob", some "bob@example.com"⟩) := rfl
  have hcaller : desk.authenticate ⟨⟨2, 0⟩, "", ""⟩ takeover invited =
      (.ok (some ⟨"bob", some "bob@example.com"⟩),
        (desk.authenticate ⟨⟨2, 0⟩, "", ""⟩ takeover invited).2) := by
    rw [← hidentified]
  obtain ⟨hlogin, hauthorized, -⟩ :=
    handle_authorized served_invited (by decide) hcaller unreachable
  have hkeys : Store.State.keys (desk.handle unreachable ⟨⟨2, 0⟩, "", ""⟩ takeover
      invited).2.contents.assignments = [⟨"bob", "owner", .organization "o1"⟩] := by
    decide +kernel
  exact ⟨served_invited, hcaller, hlogin, hauthorized, by decide +kernel, hkeys⟩

end Gateway

end TenantGuard
