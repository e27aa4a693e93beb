import TenantGuard.Proofs.Api.Concealment
import TenantGuard.Proofs.Gateway

/-!
# What requests tell about a scope

Two requests that differ only in the scope that they name, where one of the scopes exists and the
other does not, are answered alike if the caller can do nothing to the scope.  One request does not
keep to that: the one for the actions at a scope.

* `Gateway.Renamed` requests differ in the scope that they name, in the path or in the body;
  `Renamed.calls` says what they have in common;
* `Same` answers have the same status and the same body;
* `handle_conceals` is the main statement, and `handle_reveals` an instance of the exception.
-/

namespace TenantGuard

open Http (Request Response Transport)
open Api (Call Concealed Ledger Place Rejection Reply ScopeName TimedOut)
open Administration (Stamp)
open Engine (Hidden)

/-! ## Requests that name a scope -/

namespace Api

variable {scope unknown : Scope}

/-- Reading the parameters of a place leaves it the methods that it takes. -/
theorem Place.methods_of_decode? {place named : Place} (h : place.decode? = some named) :
    named.methods = place.methods := by
  cases place with
  | me | authorize | organizations =>
    cases h
    rfl
  | projectsOf o | resourcesOf p =>
    obtain ⟨_, -, h⟩ := Option.bind_eq_some_iff.1 h
    cases h
    rfl
  | permissionsAt t i | assignmentsAt t i =>
    obtain ⟨_, -, h⟩ := Option.bind_eq_some_iff.1 h
    obtain ⟨_, -, h⟩ := Option.bind_eq_some_iff.1 h
    cases h
    rfl
  | assignment t i u role =>
    obtain ⟨_, -, h⟩ := Option.bind_eq_some_iff.1 h
    obtain ⟨_, -, h⟩ := Option.bind_eq_some_iff.1 h
    obtain ⟨_, -, h⟩ := Option.bind_eq_some_iff.1 h
    obtain ⟨_, -, h⟩ := Option.bind_eq_some_iff.1 h
    cases h
    rfl

/-- **Places that differ in the scope that they name**, with their parameters read. -/
inductive Place.Renamed (scope unknown : Scope) : Place → Place → Prop where
  | projectsOf {o o' : String}
    (h : ScopeName.Renamed scope unknown ⟨ScopeType.organization.name, o⟩
      ⟨ScopeType.organization.name, o'⟩) :
    Renamed scope unknown (.projectsOf o) (.projectsOf o')
  | resourcesOf {p p' : String}
    (h : ScopeName.Renamed scope unknown ⟨ScopeType.project.name, p⟩
      ⟨ScopeType.project.name, p'⟩) :
    Renamed scope unknown (.resourcesOf p) (.resourcesOf p')
  | permissionsAt {t i t' i' : String} (h : ScopeName.Renamed scope unknown ⟨t, i⟩ ⟨t', i'⟩) :
    Renamed scope unknown (.permissionsAt t i) (.permissionsAt t' i')
  | assignmentsAt {t i t' i' : String} (h : ScopeName.Renamed scope unknown ⟨t, i⟩ ⟨t', i'⟩) :
    Renamed scope unknown (.assignmentsAt t i) (.assignmentsAt t' i')
  | assignment {t i t' i' : String} (user role : String)
    (h : ScopeName.Renamed scope unknown ⟨t, i⟩ ⟨t', i'⟩) :
    Renamed scope unknown (.assignment t i user role) (.assignment t' i' user role)

theorem Place.Renamed.methods {place place' : Place} (h : place.Renamed scope unknown place') :
    place'.methods = place.methods := by
  cases h <;> rfl

/-- **Readings of two requests** that are rejected for one reason, or are calls that differ in the
scope that they name. -/
inductive Reads (scope unknown : Scope) : Except Rejection Call → Except Rejection Call → Prop where
  | rejected (e : Rejection) : Reads scope unknown (.error e) (.error e)
  | calls {c c' : Call} (h : c.Renamed scope unknown c') : Reads scope unknown (.ok c) (.ok c')

/-- What is read from one document differs at most in what it is read for. -/
theorem reads_withDocument {shape : Json.Shape} {r r' : Request} {call? call?' : Json → Option Call}
    (hheaders : r'.headers = r.headers) (hbody : r'.body = r.body)
    (h : ∀ j, call? j = none ∧ call?' j = none ∨
      ∃ c c', call? j = some c ∧ call?' j = some c' ∧ c.Renamed scope unknown c') :
    Reads scope unknown (withDocument shape r call?) (withDocument shape r' call?') := by
  have hdocument : document shape r' = document shape r := by
    unfold document
    rw [hheaders, hbody]
  unfold withDocument
  rw [hdocument]
  cases document shape r with
  | error e => exact .rejected e
  | ok j =>
    rcases h j with ⟨hnone, hnone'⟩ | ⟨c, c', hc, hc', hrenamed⟩
    · simp only [bind, Except.bind, hnone, hnone']
      exact .rejected _
    · simp only [bind, Except.bind, hc, hc']
      exact .calls hrenamed

/-- **Requests to places that differ in the scope that they name** are read alike. -/
theorem reads_atPlace {r r' : Request} (hmethod : r'.method = r.method)
    (hheaders : r'.headers = r.headers) (hbody : r'.body = r.body) {place place' : Place}
    (h : place.Renamed scope unknown place') :
    Reads scope unknown (Call.atPlace r place) (Call.atPlace r' place') := by
  cases h with
  | projectsOf h =>
    refine reads_withDocument hheaders hbody fun j => ?_
    unfold createProjectOf?
    cases textOf? "name" j with
    | none => exact .inl ⟨rfl, rfl⟩
    | some name => exact .inr ⟨_, _, rfl, rfl, .createProject name _ h⟩
  | resourcesOf h =>
    refine reads_withDocument hheaders hbody fun j => ?_
    unfold createResourceOf?
    cases textOf? "name" j with
    | none => exact .inl ⟨rfl, rfl⟩
    | some name =>
      cases textOf? "kind" j with
      | none => exact .inl ⟨rfl, rfl⟩
      | some kind => exact .inr ⟨_, _, rfl, rfl, .createResource name kind h⟩
  | permissionsAt h => exact .calls (.listPermissions h)
  | assignmentsAt h =>
    simp only [Call.atPlace, hmethod]
    split
    · refine reads_withDocument hheaders hbody fun j => ?_
      unfold assignRoleOf?
      cases textOf? "user_id" j with
      | none => exact .inl ⟨rfl, rfl⟩
      | some user =>
        cases textOf? "role" j with
        | none => exact .inl ⟨rfl, rfl⟩
        | some role => exact .inr ⟨_, _, rfl, rfl, .assignRole user role _ h⟩
    · exact .calls (.listAssignments h)
  | assignment user role h => exact .calls (.revokeRole user role h)

end Api

namespace Gateway

variable {g : Gateway} {scope unknown : Scope} {r r' : Request}

/-- **Requests that differ in the scope that they name**, in the path or in the list of a body.
The text of the body, its length and what else the headers say may differ, too. -/
inductive Renamed (g : Gateway) (scope unknown : Scope) : Request → Request → Prop where
  | inPath {r : Request} {path : String} {place place' named named' : Place}
    (hplace : Target.ofPath g.proxies r.path = .api place)
    (hplace' : Target.ofPath g.proxies path = .api place')
    (hnamed : place.decode? = some named) (hnamed' : place'.decode? = some named')
    (h : named.Renamed scope unknown named') : Renamed g scope unknown r { r with path }
  | inBody {r r' : Request} {a : Action} {names names' : List ScopeName}
    (hplace : Target.ofPath g.proxies r.path = .api .authorize)
    (hplace' : Target.ofPath g.proxies r'.path = .api .authorize)
    (hmethod : r'.method = r.method)
    (hread : Call.ofRequest .authorize r = .ok (.authorize a names))
    (hread' : Call.ofRequest .authorize r' = .ok (.authorize a names'))
    (h : List.Forall₂ (ScopeName.MayRename scope unknown) names names') :
    Renamed g scope unknown r r'

/-- **What such requests have in common.** -/
theorem Renamed.calls (h : g.Renamed scope unknown r r') :
    ∃ place place', Target.ofPath g.proxies r.path = .api place ∧
      Target.ofPath g.proxies r'.path = .api place' ∧ r'.method = r.method ∧
      place'.methods = place.methods ∧
      Api.Reads scope unknown (Call.ofRequest place r) (Call.ofRequest place' r') := by
  cases h with
  | inPath hplace hplace' hnamed hnamed' h =>
    refine ⟨_, _, hplace, hplace', rfl, ?_, ?_⟩
    · rw [← Place.methods_of_decode? hnamed, ← Place.methods_of_decode? hnamed', h.methods]
    · unfold Call.ofRequest
      rw [hnamed, hnamed']
      exact Api.reads_atPlace rfl rfl rfl h
  | inBody hplace hplace' hmethod hread hread' h =>
    refine ⟨.authorize, .authorize, hplace, hplace', hmethod, rfl, ?_⟩
    rw [hread, hread']
    exact .calls (.authorize _ h)

/-! ## Answers that look the same -/

/-- **Answers with the same status and the same body.** -/
structure Same (a a' : Response) : Prop where
  status : a.status = a'.status
  body : a.body = a'.body

theorem Same.refl (a : Response) : Same a a := ⟨rfl, rfl⟩

theorem body_mark (c : Http.Cors) (r : Request) (response : Response) :
    (c.mark r response).body = response.body := by
  have hfold : ∀ (hs : List Http.Header) (response : Response),
      (hs.foldl Response.withHeader response).body = response.body := by
    intro hs
    induction hs with
    | nil => exact fun _ => rfl
    | cons h hs ih => exact fun response => ih (response.withHeader h)
  exact hfold _ _

theorem body_finish (target : Target) (method : String) (response : Response) :
    (finish target method response).body =
      if method = "HEAD" ∧ target.methods?.any (·.contains method) then [] else response.body := by
  unfold finish
  cases target.methods? with
  | none => simp
  | some methods =>
    by_cases htaken : method ∈ methods
    · by_cases hhead : method = "HEAD"
      · subst hhead
        simp [htaken]
      · simp [htaken, hhead]
    · simp [htaken, Response.withHeader]

/-- What is put around answers that look the same leaves them so. -/
theorem Same.handled {place place' : Place} {a a' : Response} (h : Same a a')
    (hmethods : place'.methods = place.methods) (hmethod : r'.method = r.method) :
    Same (finish (.api place) r.method (g.cors.mark r a))
      (finish (.api place') r'.method (g.cors.mark r' a')) := by
  constructor
  · rw [status_finish, status_finish, status_mark, status_mark, h.status]
  · have hsome : (Target.api place').methods? = (Target.api place).methods? :=
      congrArg some hmethods
    rw [body_finish, body_finish, body_mark, body_mark, h.body, hmethod, hsome]

/-- The answer that reports a result. -/
def answerTo (now : Moment) : Except Fault Reply → Response
  | .ok reply => .success reply.status reply.toJson
  | .error f => .ofFault now f

theorem answerTo_of_alike {now : Moment} {result result' : Except Fault Reply}
    (h : Api.Alike result result') : answerTo now result = answerTo now result' := by
  cases h with
  | ok reply => rfl
  | error h => simp only [answerTo, Response.ofFault, Fault.status, h.code, h now]

theorem status_of_timedOut {now : Moment} {result : Except Fault Reply} (h : TimedOut result) :
    (answerTo now result).status = 504 := by
  obtain ⟨operation, rfl⟩ := h
  rfl

theorem serveApi_of_call {stamp : Stamp} {caller : Identity} {place : Place} {l : Ledger}
    {call : Call} (h : Call.ofRequest place r = .ok call) :
    (serveApi stamp (some caller) place r l).1 =
      answerTo stamp.now ((Api.perform stamp caller call).run l).1 := by
  simp only [serveApi, h]
  rcases (Api.perform stamp caller call).run l with ⟨e | reply, l'⟩
  · rfl
  · rfl

/-! ## What is told -/

/-- **What two answers tell** of the scopes that their requests name.  They look the same, but for
those to a request by which the scopes are `exposed`, where one reports a success and the other a
denial; and a `slow` store may leave no time for one of them. -/
def Tell (exposed slow : Prop) (a a' : Response) : Prop :=
  (¬ exposed → Same a a') ∧ (exposed → a.status = 200 ∧ a'.status = 403) ∨
    slow ∧ (a.status = 504 ∨ a'.status = 504)

theorem Tell.of_same {exposed slow : Prop} {a a' : Response} (hexposed : ¬ exposed)
    (h : Same a a') : Tell exposed slow a a' :=
  .inl ⟨fun _ => h, fun hexp => absurd hexp hexposed⟩

/-- What is put around two answers leaves what they tell. -/
theorem Tell.handled {exposed slow : Prop} {place place' : Place} {a a' : Response}
    (h : Tell exposed slow a a') (hmethods : place'.methods = place.methods)
    (hmethod : r'.method = r.method) :
    Tell exposed slow (finish (.api place) r.method (g.cors.mark r a))
      (finish (.api place') r'.method (g.cors.mark r' a')) := by
  rcases h with ⟨hsame, hstatus⟩ | hslow
  · refine .inl ⟨fun hexposed => (hsame hexposed).handled hmethods hmethod, fun hexposed => ?_⟩
    rw [status_finish, status_finish, status_mark, status_mark]
    exact hstatus hexposed
  · refine .inr ?_
    rw [status_finish, status_finish, status_mark, status_mark]
    exact hslow

section Hidden

variable {stamp : Stamp} {caller : Identity} {place place' : Place} {l : Ledger}

theorem tell_of_concealed {prompt exposed slow : Prop} {now : Moment}
    {result result' : Except Fault Reply} (h : Concealed prompt result result')
    (hexposed : ¬ exposed) (hslow : ¬ prompt → slow) :
    Tell exposed slow (answerTo now result) (answerTo now result') := by
  rcases h with halike | ⟨hprompt, htime⟩
  · refine .of_same hexposed ?_
    rw [answerTo_of_alike halike]
    exact .refl _
  · exact .inr ⟨hslow hprompt, htime.imp status_of_timedOut status_of_timedOut⟩

/-- **Only the call for the actions at a scope** tells whether the scope exists. -/
theorem tell_serveApi (hfree : l.execution.store.isLocked = false)
    (hs : l.execution.store.committed.Rooted)
    (h : Hidden l.execution.store.committed stamp.now caller.userId scope unknown)
    (hreads : Api.Reads scope unknown (Call.ofRequest place r) (Call.ofRequest place' r')) :
    Tell
      ((∃ n, Call.ofRequest place r = .ok (.listPermissions n)) ∧
        .reads ∉ l.execution.store.failing)
      (l.execution.store.latency ≠ 0)
      (serveApi stamp (some caller) place r l).1 (serveApi stamp (some caller) place' r' l).1 := by
  have hslow : ¬ l.execution.store.Prompt → l.execution.store.latency ≠ 0 :=
    fun hprompt hlatency => hprompt ⟨hlatency, hfree⟩
  generalize hc : Call.ofRequest place r = reading at hreads
  generalize hc' : Call.ofRequest place' r' = reading' at hreads
  cases hreads with
  | rejected e =>
    refine .of_same (by simp) ?_
    simp only [serveApi, hc, hc']
    exact .refl _
  | @calls c c' hcalls =>
    rw [serveApi_of_call hc, serveApi_of_call hc']
    by_cases hlist : ∃ n, c = .listPermissions n
    · obtain ⟨n, rfl⟩ := hlist
      cases hcalls with
      | listPermissions hn =>
        obtain ⟨harmed, hunarmed⟩ := Api.perform_listPermissions h hs hn
        by_cases hfailing : .reads ∈ l.execution.store.failing
        · exact tell_of_concealed (harmed hfailing) (fun hexp => hexp.2 hfailing) hslow
        · rcases hunarmed hfailing with ⟨hresult, hresult'⟩ | ⟨hprompt, htime⟩
          · rw [hresult, hresult']
            exact .inl ⟨fun hexp => absurd ⟨⟨n, rfl⟩, hfailing⟩ hexp, fun _ => ⟨rfl, rfl⟩⟩
          · exact .inr ⟨hslow hprompt, htime.imp status_of_timedOut status_of_timedOut⟩
    · have hother : ∀ n, c ≠ .listPermissions n := fun n heq => hlist ⟨n, heq⟩
      refine tell_of_concealed (Api.concealed_perform h hs hcalls hother) ?_ hslow
      rintro ⟨⟨n, heq⟩, -⟩
      cases heq
      exact hlist ⟨n, rfl⟩

end Hidden

/-! ## Requests -/

variable {stamp : Stamp} {caller : Identity} {s mid : Gateway.State}

/-- **A request for the actions at a scope.** -/
def AsksForActions (g : Gateway) (r : Request) : Prop :=
  ∃ place n, Target.ofPath g.proxies r.path = .api place ∧ place.methods.contains r.method ∧
    Call.ofRequest place r = .ok (.listPermissions n)

/-- The answer to a request whose caller was let in and whose target is a place. -/
theorem response_handle {place : Place} (hmethod : r.method ≠ "OPTIONS")
    (hcaller : g.authenticate stamp r s = (.ok (some caller), mid))
    (hplace : Target.ofPath g.proxies r.path = .api place) (transport : Transport) :
    (g.handle transport stamp r s).1.response =
      finish (.api place) r.method (g.cors.mark r
        (if place.methods.contains r.method then (serveApi stamp (some caller) place r mid.ledger).1
          else wrongMethod)) := by
  simp only [handle, guarded, if_neg hmethod, serveAuthenticated, hcaller, hplace, Target.takes,
    Target.methods?, Option.all]
  split
  · rfl
  · rfl

/-- **Callers cannot probe for existence**, but for one request.  In a state that requests lead to,
a caller who is let in and can do nothing to a scope gets the same status and the same body whether
a request names that scope or one that does not exist, in the path or in the body; only a store that
is slow may run out of time for one of them.  The exception is the request for the actions at a
scope where the store can be read: it succeeds for the scope that exists and is denied for the
other. -/
theorem handle_conceals (hs : Served s) (hmethod : r.method ≠ "OPTIONS")
    (hcaller : g.authenticate stamp r s = (.ok (some caller), mid))
    (hcaller' : g.authenticate stamp r' s = (.ok (some caller), mid))
    (hhidden : Hidden mid.contents stamp.now caller.userId scope unknown)
    (hr : g.Renamed scope unknown r r') (transport : Transport) :
    Tell (g.AsksForActions r ∧ .reads ∉ mid.store.failing) (mid.store.latency ≠ 0)
      (g.handle transport stamp r s).1.response (g.handle transport stamp r' s).1.response := by
  obtain ⟨place, place', hplace, hplace', hsame, hmethods, hreads⟩ := hr.calls
  have hmid : mid.contents.Intact := by
    have hafter := intact_authenticate g stamp r hs.contents_intact
    rwa [hcaller] at hafter
  have hfree : mid.store.isLocked = false := by
    have hafter := isLocked_authenticate g stamp r s
    rwa [hcaller, hs.free] at hafter
  have hasks : g.AsksForActions r ↔ place.methods.contains r.method = true ∧
      ∃ n, Call.ofRequest place r = .ok (.listPermissions n) := by
    constructor
    · rintro ⟨p, n, hp, htaken, hread⟩
      cases hplace.symm.trans hp
      exact ⟨htaken, n, hread⟩
    · rintro ⟨htaken, n, hread⟩
      exact ⟨place, n, hplace, htaken, hread⟩
  rw [response_handle hmethod hcaller hplace,
    response_handle (hsame ▸ hmethod) hcaller' hplace']
  refine Tell.handled ?_ hmethods hsame
  rw [hasks, hmethods, hsame]
  by_cases htaken : place.methods.contains r.method = true
  · simp only [htaken, if_true, true_and]
    exact tell_serveApi hfree hmid.tree hhidden hreads
  · simp only [htaken]
    exact .of_same (by simp) (.refl _)

/-! ## Two requests -/

/-- The state after Ann created an organization. -/
def founded : Gateway.State :=
  (desk.handle unreachable ⟨⟨0, 0⟩, "o1", "a1"⟩
    (order "a" "POST" "/organizations" "\x7b\"name\":\"Acme\"\x7d")
    { ledger := { execution := ⟨.fresh, 0⟩ } }).2

theorem served_founded : Served founded := .handled _ _ _ _ (.fresh 0)

/-- Bob looks at something of an organization. -/
def look (id what : String) : Request :=
  order "b" "GET" ("/scopes/organizations/" ++ id ++ "/" ++ what) ""

def lookStamp : Stamp := ⟨⟨1, 0⟩, "", ""⟩

def bob : Identity := ⟨"bob", some "bob@example.com"⟩

/-- The state in which Bob was let in. -/
def entered : Gateway.State := (desk.authenticate lookStamp (look "o1" "permissions") founded).2

/-- Bob can do nothing to Ann's organization, and there is no other. -/
theorem hidden_entered :
    Hidden entered.contents lookStamp.now bob.userId (.organization "o1") (.organization "o2") where
  known := by decide +kernel
  unknown := by decide +kernel
  powerless := by
    have hrows : ∀ row ∈ entered.contents.assignments, row.userId ≠ bob.userId := by
      decide +kernel
    rintro a ⟨row, h⟩
    exact hrows row h.mem h.user

theorem renamed_organizations :
    ScopeName.Renamed (.organization "o1") (.organization "o2") ⟨"organizations", "o1"⟩
      ⟨"organizations", "o2"⟩ where
  known := toOption_eq_some_iff.1 (by decide +kernel)
  unknown := toOption_eq_some_iff.1 (by decide +kernel)

/-- Bob does not learn from the assignments that Ann's organization exists. -/
theorem handle_conceals_assignments :
    let r := look "o1" "assignments"
    let r' := look "o2" "assignments"
    let a := (desk.handle unreachable lookStamp r founded).1.response
    Served founded ∧ desk.authenticate lookStamp r founded = (.ok (some bob), entered) ∧
      desk.authenticate lookStamp r' founded = (.ok (some bob), entered) ∧
      Hidden entered.contents lookStamp.now bob.userId (.organization "o1") (.organization "o2") ∧
      desk.Renamed (.organization "o1") (.organization "o2") r r' ∧
      a.status = 403 ∧ Same a (desk.handle unreachable lookStamp r' founded).1.response := by
  have hplace : Target.ofPath desk.proxies (look "o1" "assignments").path =
      .api (.assignmentsAt "organizations" "o1") := by decide +kernel
  have hplace' : Target.ofPath desk.proxies (look "o2" "assignments").path =
      .api (.assignmentsAt "organizations" "o2") := by decide +kernel
  have hrenamed : desk.Renamed (.organization "o1") (.organization "o2")
      (look "o1" "assignments") (look "o2" "assignments") :=
    .inPath hplace hplace' (by decide +kernel) (by decide +kernel)
      (.assignmentsAt renamed_organizations)
  have hstatus : (desk.handle unreachable lookStamp (look "o1" "assignments")
      founded).1.response.status = 403 := by decide +kernel
  refine ⟨served_founded, rfl, rfl, hidden_entered, hrenamed, hstatus, ?_⟩
  rcases handle_conceals served_founded (by decide)
    (rfl : desk.authenticate lookStamp (look "o1" "assignments") founded =
      (.ok (some bob), entered))
    rfl hidden_entered hrenamed unreachable with ⟨hsame, hexposed⟩ | ⟨hslow, -⟩
  · refine hsame fun hexp => ?_
    have hsuccess := (hexposed hexp).1
    rw [hstatus] at hsuccess
    exact absurd hsuccess (by decide)
  · have hlatency : entered.store.latency = 0 := by decide +kernel
    exact absurd hlatency hslow

/-- **Bob learns from the permissions that Ann's organization exists**, although he can do nothing
to it. -/
theorem handle_reveals :
    let r := look "o1" "permissions"
    let r' := look "o2" "permissions"
    Served founded ∧ desk.authenticate lookStamp r founded = (.ok (some bob), entered) ∧
      desk.authenticate lookStamp r' founded = (.ok (some bob), entered) ∧
      Hidden entered.contents lookStamp.now bob.userId (.organization "o1") (.organization "o2") ∧
      desk.Renamed (.organization "o1") (.organization "o2") r r' ∧
      (desk.handle unreachable lookStamp r founded).1.response.status = 200 ∧
      (desk.handle unreachable lookStamp r' founded).1.response.status = 403 := by
  have hplace : Target.ofPath desk.proxies (look "o1" "permissions").path =
      .api (.permissionsAt "organizations" "o1") := by decide +kernel
  have hplace' : Target.ofPath desk.proxies (look "o2" "permissions").path =
      .api (.permissionsAt "organizations" "o2") := by decide +kernel
  have hrenamed : desk.Renamed (.organization "o1") (.organization "o2")
      (look "o1" "permissions") (look "o2" "permissions") :=
    .inPath hplace hplace' (by decide +kernel) (by decide +kernel)
      (.permissionsAt renamed_organizations)
  exact ⟨served_founded, rfl, rfl, hidden_entered, hrenamed, by decide +kernel, by decide +kernel⟩

end Gateway

end TenantGuard
