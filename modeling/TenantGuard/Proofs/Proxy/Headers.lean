import TenantGuard.Proofs.Proxy.Confinement

/-!
# Which headers go out

A client's header goes on to the backend unless its name is withheld: because it concerns the
connection or the caller's credentials, or because a `Connection` header lists it.  The tenant
header is the proxy's own, also where a `Connection` header lists it.

* `Lists` says what a text lists, `Listed` what the `Connection` headers of a request do, and
  `mem_connectionNames_iff` that the proxy reads just that;
* `IsHopByHop` and `IsStripped` are the names that are never forwarded, and `mem_hopByHop_iff` and
  `mem_stripped_iff` say that they are those on the proxy's two lists;
* `Forwards` says of every name what goes out under it, and `forwards_of_sent` that every request
  that is sent has such headers;
* `Forwards.values_congr`: what is withheld makes no difference to what goes out;
* `permitted_headers_go_out` has both, and `connection_as_tenant_header` the one tenant header whose
  values the proxy reads all the same.
-/

namespace TenantGuard

open Http (Header HeaderName)

/-! ## Values of a name -/

namespace Http

variable {name : String}

/-- What a filter does to the values of a name, if it treats all headers of that name alike. -/
theorem values_filter {p : Header → Bool} {b : Bool} (hp : ∀ h, h.name = name → p h = b)
    (hs : List Header) : values name (hs.filter p) = if b then values name hs else [] := by
  have hfilter : (hs.filter p).filter (·.name == name) =
      hs.filter fun h => (h.name == name) && b := by
    rw [List.filter_filter]
    refine List.filter_congr fun h _ => ?_
    by_cases hname : h.name = name
    · rw [hp h hname]
    · rw [beq_false_of_ne hname, Bool.false_and, Bool.false_and]
  rw [values, hfilter]
  cases b with
  | true => simp only [Bool.and_true, if_true, values]
  | false => simp

theorem values_setHeader_of_ne {h : Header} (hne : name ≠ h.name) (hs : List Header) :
    values name (setHeader h hs) = values name hs := by
  have hkept := values_filter (p := (·.name != h.name)) (b := true)
    (fun h' hname => bne_iff_ne.2 (hname ▸ hne)) hs
  have hlast : values name [h] = [] := by simp [values, Ne.symm hne]
  rw [setHeader, values, List.filter_append, List.map_append]
  exact (congrArg₂ (· ++ ·) hkept hlast).trans (List.append_nil _)

end Http

namespace Proxy

variable {hs hs' out out' : List Header} {tenantHeader projectId name : String}

/-! ## What the `Connection` headers list -/

/-- **A text lists a name**: a piece between two commas is the name, in any case and with blanks
around it. -/
def Lists (text : List Char) (name : String) : Prop :=
  ∃ piece word, Text.IsPiece ',' text piece ∧ Text.IsCore piece word ∧ word ≠ [] ∧
    word.map Char.toLower = name.toList

/-- **The client's headers list a name**: a `Connection` header that is a text does. -/
def Listed (hs : List Header) (name : String) : Prop :=
  ∃ value ∈ Http.values "connection" hs, ∃ text, Http.visible? value = some text ∧ Lists text name

theorem mem_namesIn_iff {text : List Char} : name ∈ namesIn text ↔ Lists text name := by
  simp only [namesIn, List.mem_map, List.mem_filter]
  constructor
  · rintro ⟨_, ⟨⟨piece, hpiece, rfl⟩, hne⟩, rfl⟩
    refine ⟨piece, Text.trim piece, Text.mem_splitOn_iff.1 hpiece, Text.trim_eq_iff.1 rfl, ?_, ?_⟩
    · rintro hnil
      simp [hnil] at hne
    · exact String.toList_ofList.symm
  · rintro ⟨piece, word, hpiece, hcore, hne, hname⟩
    refine ⟨name.toList, ⟨⟨piece, Text.mem_splitOn_iff.2 hpiece, ?_⟩, ?_⟩, String.ofList_toList⟩
    · rw [Text.trim_eq_iff.2 hcore, hname]
    · rw [← hname]
      simpa using hne

/-- **The proxy reads what the `Connection` headers list.** -/
theorem mem_connectionNames_iff : name ∈ connectionNames hs ↔ Listed hs name := by
  simp only [connectionNames, List.mem_flatMap, List.mem_filterMap, mem_namesIn_iff, Listed]
  constructor
  · rintro ⟨text, ⟨value, hvalue, htext⟩, hlists⟩
    exact ⟨value, hvalue, text, htext, hlists⟩
  · rintro ⟨value, hvalue, text, htext, hlists⟩
    exact ⟨text, ⟨value, hvalue, htext⟩, hlists⟩

/-! ## Names that are never forwarded -/

/-- **The name of a hop-by-hop header**, which concerns one connection only. -/
def IsHopByHop (name : String) : Prop :=
  name = "connection" ∨ name = "keep-alive" ∨ name = "proxy-authenticate" ∨
    name = "proxy-authorization" ∨ name = "te" ∨ name = "trailer" ∨ name = "transfer-encoding" ∨
      name = "upgrade"

/-- **The name of the caller's credentials**, or of what is set anew for the backend. -/
def IsStripped (name : String) : Prop :=
  name = "authorization" ∨ name = "cookie" ∨ name = "host" ∨ name = "content-length"

theorem mem_hopByHop_iff : name ∈ hopByHop ↔ IsHopByHop name := by
  simp only [hopByHop, IsHopByHop, List.mem_cons, List.not_mem_nil, or_false]

theorem mem_stripped_iff : name ∈ stripped ↔ IsStripped name := by
  simp only [stripped, IsStripped, List.mem_cons, List.not_mem_nil, or_false]

/-! ## What goes out -/

/-- **A name whose headers do not go on**, whatever the tenant header is. -/
def Withheld (hs : List Header) (name : String) : Prop :=
  IsHopByHop name ∨ IsStripped name ∨ Listed hs name

/-- **What goes out, name by name**: the tenant header once, nothing that is withheld, and of
everything else what the client sent, in its order. -/
structure Forwards (tenantHeader projectId : String) (hs out : List Header) : Prop where
  tenant : Http.values tenantHeader out = [Text.Utf8.bytes projectId]
  withheld : ∀ name, name ≠ tenantHeader → Withheld hs name → Http.values name out = []
  kept : ∀ name, name ≠ tenantHeader → ¬ Withheld hs name →
    Http.values name out = Http.values name hs

theorem mayForward_iff {h : Header} : mayForward tenantHeader (connectionNames hs) h = true ↔
    h.name ≠ tenantHeader ∧ ¬ Withheld hs h.name := by
  simp only [mayForward, Withheld, Bool.and_eq_true, Bool.not_eq_true', bne_iff_ne, ne_eq,
    ← Bool.not_eq_true, List.contains_iff_mem, mem_connectionNames_iff, mem_hopByHop_iff,
    mem_stripped_iff, not_or]
  rw [and_right_comm, and_comm, and_assoc]

/-- The client's headers of a name go on or do not, all of them. -/
theorem values_forwardable (hne : name ≠ tenantHeader) :
    (Withheld hs name → Http.values name (forwardable tenantHeader hs) = []) ∧
      (¬ Withheld hs name →
        Http.values name (forwardable tenantHeader hs) = Http.values name hs) := by
  constructor
  · intro hwithheld
    refine Http.values_filter (b := false) (fun h hname => ?_) hs
    rw [← Bool.not_eq_true, mayForward_iff, hname]
    exact fun h => h.2 hwithheld
  · intro hkept
    refine Http.values_filter (b := true) (fun h hname => ?_) hs
    rw [mayForward_iff, hname]
    exact ⟨hne, hkept⟩

/-- **The headers that go out** are the client's that are not withheld, and the tenant. -/
theorem forwards_outboundHeaders (tenantHeader : HeaderName)
    (hid : Scope.validateId projectId = .ok ()) (hs : List Header) :
    Forwards tenantHeader.text projectId hs (outboundHeaders tenantHeader.text projectId hs) := by
  refine ⟨values_outboundHeaders tenantHeader hid hs, fun name hne h => ?_, fun name hne h => ?_⟩
  · rw [outboundHeaders_eq tenantHeader hid, Http.values_setHeader_of_ne hne,
      (values_forwardable hne).1 h]
  · rw [outboundHeaders_eq tenantHeader hid, Http.values_setHeader_of_ne hne,
      (values_forwardable hne).2 h]

/-- **Every request that is sent** carries the permitted headers, for the tenant that its path
names. -/
theorem forwards_of_sent {σ : Type} {p : Proxy}
    {store : Plan.Oracle Store.Query Store.Query.Answer σ} {transport : Http.Transport}
    {now : Moment} {caller : Option Identity} {r : Http.Request} {x : σ} {out : Http.Outbound}
    (hsent : (p.handleWith store transport now caller r x).sent = some out) :
    ∃ t, TenantPath.parse (p.belowMount r.path) = .ok t ∧
      Forwards p.tenantHeader.text t.projectId r.headers out.headers := by
  rw [handleWith_sent] at hsent
  obtain ⟨-, t, -, ht, -, hout⟩ := prepareWith_ok_iff.1 (toOption_eq_some_iff.1 hsent)
  obtain ⟨_, _, -, -, rfl⟩ := outbound_eq_ok hout
  exact ⟨t, ht, forwards_outboundHeaders p.tenantHeader (TenantPath.validateId_of_parse ht).1 _⟩

/-! ## What makes no difference -/

theorem listed_congr (h : Http.values "connection" hs = Http.values "connection" hs') :
    Listed hs name ↔ Listed hs' name := by
  rw [Listed, Listed, h]

/-- **Credentials and the client's tenant headers make no difference** to what goes out. -/
theorem Forwards.values_congr (hout : Forwards tenantHeader projectId hs out)
    (hout' : Forwards tenantHeader projectId hs' out')
    (hsame : ∀ name, ¬ IsStripped name → name ≠ tenantHeader →
      Http.values name hs = Http.values name hs')
    (hlisted : tenantHeader = "connection" → ∀ name, Listed hs name ↔ Listed hs' name)
    (name : String) : Http.values name out = Http.values name out' := by
  by_cases htenant : name = tenantHeader
  · rw [htenant, hout.tenant, hout'.tenant]
  have hlist : Listed hs name ↔ Listed hs' name := by
    by_cases hconnection : tenantHeader = "connection"
    · exact hlisted hconnection name
    · exact listed_congr (hsame _ (by simp [IsStripped]) (Ne.symm hconnection))
  have hiff : Withheld hs name ↔ Withheld hs' name := or_congr Iff.rfl (or_congr Iff.rfl hlist)
  by_cases hwithheld : Withheld hs name
  · rw [hout.withheld name htenant hwithheld, hout'.withheld name htenant (hiff.1 hwithheld)]
  · rw [hout.kept name htenant hwithheld, hout'.kept name htenant fun h => hwithheld (hiff.2 h)]
    exact hsame name (fun h => hwithheld (.inr (.inl h))) htenant

/-- **The permitted headers go out, and nothing else.**  Of every name the client's values go on in
their order, unless it is one of the names that are never forwarded or a `Connection` header lists
it; the tenant header goes out once and with the project, whether it is listed or not.  What the
client sends as credentials or as the tenant header makes no difference.  Should the tenant header
be `Connection` itself, its values count for what they list, as those of any `Connection` header. -/
theorem permitted_headers_go_out (tenantHeader : HeaderName) {projectId : String}
    (hid : Scope.validateId projectId = .ok ()) (hs : List Header) :
    Forwards tenantHeader.text projectId hs (outboundHeaders tenantHeader.text projectId hs) ∧
    ∀ hs' : List Header,
      (∀ name, ¬ IsStripped name → name ≠ tenantHeader.text →
        Http.values name hs = Http.values name hs') →
      (tenantHeader.text = "connection" → ∀ name, Listed hs name ↔ Listed hs' name) →
      ∀ name, Http.values name (outboundHeaders tenantHeader.text projectId hs) =
        Http.values name (outboundHeaders tenantHeader.text projectId hs') := by
  have hout := forwards_outboundHeaders tenantHeader hid
  exact ⟨hout hs, fun hs' hsame hlisted => (hout hs).values_congr (hout hs') hsame hlisted⟩

/-- A client that lists the tenant header and sends one of its own. -/
theorem permitted_headers_go_out_listed :
    let hs : List Header :=
      [.ofText "authorization" "Bearer t", .ofText "accountid" "other", .ofText "accept" "text/csv",
        .ofText "connection" "keep-alive, X-Private", .ofText "x-private" "1",
        .ofText "connection" " AccountID ,", .ofText "accept" "*/*"]
    Scope.validateId "prj-1" = .ok () ∧
    outboundHeaders "accountid" "prj-1" hs =
      [.ofText "accept" "text/csv", .ofText "accept" "*/*", .ofText "accountid" "prj-1"] ∧
    Forwards "accountid" "prj-1" hs (outboundHeaders "accountid" "prj-1" hs) := by
  intro hs
  have hid : Scope.validateId "prj-1" = .ok () := rfl
  exact ⟨hid, by decide +kernel,
    (permitted_headers_go_out ⟨"accountid", by decide⟩ hid hs).1⟩

/-- **A tenant header that is read.**  Two clients send the same headers, but for the tenant header,
which is `Connection`.  One of them lists its other header there, and that one does not go out. -/
theorem connection_as_tenant_header :
    let tenantHeader : HeaderName := ⟨"connection", by decide⟩
    let hs : List Header := [.ofText "connection" "x-trace", .ofText "x-trace" "1"]
    let hs' : List Header := [.ofText "x-trace" "1"]
    Scope.validateId "prj-1" = .ok () ∧
    (∀ name, ¬ IsStripped name → name ≠ tenantHeader.text →
      Http.values name hs = Http.values name hs') ∧
    Http.values "x-trace" (outboundHeaders tenantHeader.text "prj-1" hs) ≠
      Http.values "x-trace" (outboundHeaders tenantHeader.text "prj-1" hs') := by
  intro tenantHeader hs hs'
  refine ⟨rfl, fun name _ hne => ?_, by decide +kernel⟩
  have hother : ¬ ("connection" == name) = true := fun h => hne (beq_iff_eq.1 h).symm
  have hfilter : hs.filter (·.name == name) = hs'.filter (·.name == name) :=
    List.filter_cons_of_neg hother
  rw [Http.values, Http.values, hfilter]

end Proxy

end TenantGuard
