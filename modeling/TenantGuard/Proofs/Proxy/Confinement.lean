import TenantGuard.Proofs.Engine.Decision
import TenantGuard.Proofs.Identifier
import TenantGuard.Proxy

/-!
# What the proxy sends

A request goes on to a backend only for one tenant: the one that its path names and whose project
the caller may read.

* `values_outboundHeaders`: the tenant header that goes out is the proxy's own, and there is just
  one; an identifier that a path names can always be the value of a header;
* `Proxy.Confined` says what a request that goes out looks like, and `confined_of_outbound` that
  each one does;
* `sent_iff_permitted`: one is sent exactly when all stages agree on one tenant, and nobody but the
  transport of that request is ever asked.
-/

namespace TenantGuard

open Http (Request Outbound Transport Header)
open Plan (Oracle)
open Store (Query)

/-! ## The tenant header -/

theorem Http.values_setHeader (h : Header) (hs : List Header) :
    Http.values h.name (Http.setHeader h hs) = [h.value] := by
  simp [Http.values, Http.setHeader, List.filter_append, List.filter_filter]

theorem isValueByte_ascii : ∀ n < 123, 45 ≤ n →
    (String.utf8EncodeChar (Char.ofNat n)).all Header.isValueByte = true := by
  decide

/-- **An accepted identifier can be the value of a header.** -/
theorem value?_of_validateId {id : String} (h : Scope.validateId id = .ok ()) :
    Header.value? id = some (Text.Utf8.bytes id) := by
  have hall : (Text.Utf8.bytes id).all Header.isValueByte = true := by
    simp only [Text.Utf8.bytes, Text.Utf8.encode, List.all_flatMap, List.all_eq_true]
    intro c hc
    have hn := Scope.toNat_of_isIdChar (Scope.isIdChar_of_validateId h hc)
    have := isValueByte_ascii c.toNat (Nat.lt_succ_of_le hn.2) hn.1
    rwa [Char.ofNat_toNat, List.all_eq_true] at this
  rw [Header.value?]
  exact if_pos hall

namespace Proxy

/-- The tenant header is set behind the client's headers that go on. -/
theorem outboundHeaders_eq (name : Http.HeaderName) {projectId : String}
    (h : Scope.validateId projectId = .ok ()) (hs : List Header) :
    outboundHeaders name.text projectId hs =
      Http.setHeader ⟨name.text, Text.Utf8.bytes projectId⟩ (forwardable name.text hs) := by
  have hread : Header.read? name.text projectId = some ⟨name.text, Text.Utf8.bytes projectId⟩ := by
    rw [Header.read?, name.isName, value?_of_validateId h]
  rw [outboundHeaders, hread]

/-- **The tenant header is set, and there is no other one.** -/
theorem values_outboundHeaders (name : Http.HeaderName) {projectId : String}
    (h : Scope.validateId projectId = .ok ()) (hs : List Header) :
    Http.values name.text (outboundHeaders name.text projectId hs) =
      [Text.Utf8.bytes projectId] := by
  rw [outboundHeaders_eq name h]
  exact Http.values_setHeader ⟨name.text, Text.Utf8.bytes projectId⟩ _

/-! ## The tenant -/

end Proxy

theorem TenantPath.validateId_of_expectId {kind id : String} {segment : Option (List Char)}
    (h : TenantPath.expectId kind segment = .ok id) : Scope.validateId id = .ok () := by
  unfold expectId at h
  split at h
  · simp at h
  split at h
  · simp at h
  split at h
  next hv =>
    cases h
    exact hv
  · simp at h

/-- **What a path holds that names a tenant**: the two identifiers, and the remainder in its last
piece. -/
theorem TenantPath.parse_eq_ok {path : String} {t : TenantPath} (h : TenantPath.parse path = .ok t) :
    ∃ pieces : List (List Char), expectId "project" pieces[1]? = .ok t.projectId ∧
      expectId "resource" pieces[3]? = .ok t.resourceId ∧ t.remainder = remainderOf pieces[4]? := by
  unfold parse at h
  obtain ⟨_, -, h⟩ := bind_eq_ok.1 h
  obtain ⟨project, hproject, h⟩ := bind_eq_ok.1 h
  obtain ⟨_, -, h⟩ := bind_eq_ok.1 h
  obtain ⟨resource, hresource, h⟩ := bind_eq_ok.1 h
  cases h
  exact ⟨_, hproject, hresource, rfl⟩

/-- The identifiers that a path names are accepted ones. -/
theorem TenantPath.validateId_of_parse {path : String} {t : TenantPath}
    (h : TenantPath.parse path = .ok t) :
    Scope.validateId t.projectId = .ok () ∧ Scope.validateId t.resourceId = .ok () := by
  obtain ⟨_, hproject, hresource, -⟩ := TenantPath.parse_eq_ok h
  exact ⟨validateId_of_expectId hproject, validateId_of_expectId hresource⟩

namespace Proxy

variable {σ : Type}

theorem tenant_eq_ok_iff {p : Proxy} {r : Request} {t : TenantPath} :
    p.tenant r = .ok t ↔ TenantPath.parse (p.belowMount r.path) = .ok t := by
  unfold tenant
  split <;> simp_all

/-! ## The request that goes out -/

/-- **A request that is confined to a tenant**: the project is in the tenant header, and the
resource in every parameter of the address and of a form. -/
structure Confined (p : Proxy) (t : TenantPath) (r : Request) (out : Outbound) : Prop where
  tenant : Http.values p.tenantHeader.text out.headers = [Text.Utf8.bytes t.projectId]
  url : ∃ query,
    p.dialect.restrictPairs (Form.parse (r.query.getD "")) t.resourceId = .ok query ∧
      out.url = p.base ++ (TenantPath.dropEndSlashes p.nativePrefix ++ t.remainder) ++ "?" ++
        Form.encode query
  form : Http.isForm r.headers = true → ∃ pairs,
    p.dialect.restrictPairs (Form.parse (Text.Utf8.lossy r.body)) t.resourceId = .ok pairs ∧
      out.body = Text.Utf8.bytes (Form.encode pairs)
  plain : Http.isForm r.headers = false → out.body = r.body

/-- A body that goes out is that of the request, or its form restricted to the resource. -/
theorem body_of_outboundBody {p : Proxy} {t : TenantPath} {r : Request} {body : List UInt8}
    (h : p.outboundBody t r = .ok body) :
    (Http.isForm r.headers = true → ∃ pairs,
      p.dialect.restrictPairs (Form.parse (Text.Utf8.lossy r.body)) t.resourceId = .ok pairs ∧
        body = Text.Utf8.bytes (Form.encode pairs)) ∧
    (Http.isForm r.headers = false → body = r.body) := by
  unfold outboundBody at h
  split at h
  · simp at h
  split at h
  next hform =>
    split at h
    next pairs hpairs =>
      cases h
      exact ⟨fun _ => ⟨pairs, hpairs, rfl⟩, fun hf => by simp [hform] at hf⟩
    · simp at h
  next hform =>
    cases h
    exact ⟨fun hf => absurd hf hform, fun _ => rfl⟩

/-- What goes out for a tenant, and what it is made of. -/
theorem outbound_eq_ok {p : Proxy} {t : TenantPath} {r : Request} {out : Outbound}
    (h : p.outbound t r = .ok out) : ∃ query body,
      p.dialect.restrictPairs (Form.parse (r.query.getD "")) t.resourceId = .ok query ∧
        p.outboundBody t r = .ok body ∧
        out =
          { method := r.method, url := p.outboundUrl t query
            headers := outboundHeaders p.tenantHeader.text t.projectId r.headers, body } := by
  unfold outbound at h
  obtain ⟨query, hquery, h⟩ := bind_eq_ok.1 h
  obtain ⟨body, hbody, h⟩ := bind_eq_ok.1 h
  refine ⟨query, body, ?_, hbody, (Except.ok.inj h).symm⟩
  cases hres : p.dialect.restrictPairs (Form.parse (r.query.getD "")) t.resourceId with
  | error e =>
    rw [hres] at hquery
    cases hquery
  | ok q =>
    rw [hres] at hquery
    cases hquery
    rfl

/-- **What goes out for a tenant is confined to it.** -/
theorem confined_of_outbound {p : Proxy} {t : TenantPath} {r : Request} {out : Outbound}
    (ht : Scope.validateId t.projectId = .ok ()) (h : p.outbound t r = .ok out) :
    p.Confined t r out := by
  obtain ⟨query, body, hquery, hbody, rfl⟩ := outbound_eq_ok h
  obtain ⟨hform, hplain⟩ := body_of_outboundBody hbody
  exact
    { tenant := values_outboundHeaders p.tenantHeader ht r.headers
      url := ⟨query, hquery, rfl⟩
      form := hform
      plain := hplain }

/-! ## The stages -/

/-- The permission check lets a request through only with a yes. -/
theorem authorizeWith_ok_iff (p : Proxy) (store : Oracle Query Query.Answer σ)
    (caller : Identity) (t : TenantPath) (x : σ) :
    (p.authorizeWith store caller t x).1 = .ok () ↔
      ((Engine.check caller.userId .read t.scope).run.run store x).1 = .ok true := by
  unfold authorizeWith
  split
  next h => simp [h]
  next answer es y hne h =>
    simp only [h, reduceCtorEq, false_iff]
    exact hne

/-- **A request is made ready only if every stage lets it through**, and all on one tenant. -/
theorem prepareWith_ok_iff {p : Proxy} {store : Oracle Query Query.Answer σ}
    {caller : Option Identity} {r : Request} {x : σ} {out : Outbound} :
    (p.prepareWith store caller r x).1 = .ok out ↔
      ∃ c t, caller = some c ∧ TenantPath.parse (p.belowMount r.path) = .ok t ∧
        ((Engine.check c.userId .read t.scope).run.run store x).1 = .ok true ∧
        p.outbound t r = .ok out := by
  cases caller with
  | none => simp [prepareWith]
  | some c =>
    cases ht : p.tenant r with
    | error d =>
      have hno : ∀ t, TenantPath.parse (p.belowMount r.path) ≠ .ok t := fun t h => by
        rw [← tenant_eq_ok_iff, ht] at h
        simp at h
      simp [prepareWith, ht, hno]
    | ok t =>
      have hparse := tenant_eq_ok_iff.1 ht
      have hauth := authorizeWith_ok_iff p store c t x
      simp only [prepareWith, ht, hparse]
      constructor
      · intro h
        refine ⟨c, t, rfl, rfl, ?_⟩
        split at h
        · simp at h
        next es y ha =>
        refine ⟨hauth.1 (by rw [ha]), ?_⟩
        split at h
        next hout => simp_all
        · simp at h
      · rintro ⟨c', t', hc, heq, hcheck, hout⟩
        cases hc
        cases heq
        have ha := hauth.2 hcheck
        split
        next hd => simp [hd] at ha
        next hd => simp [hout]

theorem handleWith_sent {p : Proxy} {store : Oracle Query Query.Answer σ} {transport : Transport}
    {now : Moment} {caller : Option Identity} {r : Request} {x : σ} :
    (p.handleWith store transport now caller r x).sent =
      (p.prepareWith store caller r x).1.toOption := by
  unfold handleWith
  split
  next h => simp [h, Except.toOption]
  next h => split <;> simp [h, Except.toOption]

/-- **Only what is sent is ever put to the transport.** -/
theorem handleWith_congr {p : Proxy} {store : Oracle Query Query.Answer σ}
    {transport other : Transport} {now : Moment} {caller : Option Identity} {r : Request} {x : σ}
    (h : ∀ out ∈ (p.handleWith store transport now caller r x).sent, other out = transport out) :
    p.handleWith store other now caller r x = p.handleWith store transport now caller r x := by
  rw [handleWith_sent] at h
  unfold handleWith
  split
  · rfl
  next out es y hp =>
    rw [h out (by simp [hp, Except.toOption])]

/-- **The tenant gate.**  A request is sent exactly when it has a caller, its path names a tenant,
the store lets the caller read that tenant's project, and its parameters can be restricted to that
tenant's resource; what is sent is then confined to this tenant, and nothing else is ever put to the
transport.  The store may hold anything, and answer or fail in any way. -/
theorem sent_iff_permitted (p : Proxy) (store : Oracle Query Query.Answer σ)
    (transport : Transport) (now : Moment) (caller : Option Identity) (r : Request) (x : σ) :
    (∀ out, (p.handleWith store transport now caller r x).sent = some out ↔
      ∃ c t, caller = some c ∧ TenantPath.parse (p.belowMount r.path) = .ok t ∧
        ((Engine.check c.userId .read (.project t.projectId)).run.run store x).1 = .ok true ∧
        p.outbound t r = .ok out ∧ p.Confined t r out) ∧
    ∀ other : Transport,
      (∀ out ∈ (p.handleWith store transport now caller r x).sent, other out = transport out) →
        p.handleWith store other now caller r x = p.handleWith store transport now caller r x := by
  refine ⟨fun out => ?_, fun other h => handleWith_congr h⟩
  have hsent : (p.handleWith store transport now caller r x).sent = some out ↔
      (p.prepareWith store caller r x).1 = .ok out := by
    rw [handleWith_sent]
    cases (p.prepareWith store caller r x).1 <;> simp [Except.toOption]
  rw [hsent, prepareWith_ok_iff]
  constructor
  · rintro ⟨c, t, hc, ht, hcheck, hout⟩
    have hid := (TenantPath.validateId_of_parse ht).1
    exact ⟨c, t, hc, ht, hcheck, hout, confined_of_outbound hid hout⟩
  · rintro ⟨c, t, hc, ht, hcheck, hout, -⟩
    exact ⟨c, t, hc, ht, hcheck, hout⟩

/-! ## One backend -/

/-- A backend for logs, with the names that its dialect gives. -/
def logsProxy : Proxy :=
  { name := "logs", dialect := .logs, mount := "/logs", base := "http://logs:9428"
    nativePrefix := "/select/logsql", tenantHeader := ⟨"accountid", by decide⟩
    authzTimeout := 2000 }

/-- A path below its mount, given what follows the tenant. -/
def logsPath (remainder : String) : String := "/logs/projects/p1/resources/r1" ++ remainder

/-- A transport that reaches nobody. -/
def down : Transport := fun _ => .failed "connection refused"

/-- What goes out for a request of Ann's, who may read the project. -/
def sentBy (r : Request) : Option Outbound :=
  (logsProxy.handle down ⟨9, 0⟩ (some ⟨"ann", none⟩) r ⟨Engine.sampleStore, 0⟩).sent

end Proxy

end TenantGuard
