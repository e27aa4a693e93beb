import TenantGuard.Proofs.Proxy.Confinement
import TenantGuard.Proofs.Url.Extension

/-!
# The address that is asked for

A backend is meant to be asked for paths below its endpoint, which is the directory that its address
and its native prefix name.  What a request's path has behind the tenant is put behind the endpoint
as it came, and whoever reads the address resolves it from there.

* `asked`: the segments that the remainder of a path holds for a reader of URLs;
* `endpoint_of_native`: behind an address without dots the endpoint ends with the native prefix;
* `outbound_path_leads`: where a request goes.  It stays at the host, and below the endpoint unless
  its segments climb above where they start without going down the same names again;
* `outbound_path_escapes`: nothing keeps them from climbing.
-/

namespace TenantGuard

open Url (isKept isMark pathText)
open Url.Path (segments isSeparator isDot Below Leads)

/-! ## Remainders -/

/-- The remainder of a path is empty or starts with a slash. -/
theorem TenantPath.remainder_of_parse {path : String} {t : TenantPath}
    (h : TenantPath.parse path = .ok t) :
    t.remainder = "" ∨ ∃ cs, t.remainder = String.ofList ('/' :: cs) := by
  have hshape : ∀ piece : Option (List Char),
      remainderOf piece = "" ∨ ∃ cs, remainderOf piece = String.ofList ('/' :: cs) := by
    rintro (_ | _ | ⟨c, cs⟩)
    · exact .inl rfl
    · exact .inl rfl
    · exact .inr ⟨c :: cs, rfl⟩
  obtain ⟨_, -, -, hremainder⟩ := TenantPath.parse_eq_ok h
  exact hremainder ▸ hshape _

/-- **The segments of a remainder**, for a reader of URLs: tabs and line breaks do not count, and a
mark ends the path. -/
def TenantPath.asked (t : TenantPath) : List (List Char) :=
  segments (isSeparator true) (((t.remainder.toList.drop 1).filter isKept).takeWhile (!isMark ·))

namespace Proxy

/-! ## Endpoints -/

/-- The address and the native prefix of a backend, without slashes at the end. -/
def endpoint (p : Proxy) : String := p.base ++ TenantPath.dropEndSlashes p.nativePrefix

/-- **A native prefix that names a place below the backend's address**: it is empty or starts with a
slash, and it has no dot segments. -/
structure IsNative (p : Proxy) (root : Url) : Prop where
  parses : Url.parse? (p.base ++ "/") = some root
  web : root.IsWeb
  slash : ∀ c ∈ (TenantPath.dropEndSlashes p.nativePrefix).toList.head?, c = '/'
  names : ∀ s ∈ segments (isSeparator true)
    ((TenantPath.dropEndSlashes p.nativePrefix).toList.filter isKept), isDot s = false

variable {p : Proxy} {d root : Url}

theorem endpoint_of_native (hd : Url.parse? (p.endpoint ++ "/") = some d)
    (hplain : ∀ c ∈ p.endpoint.toList, isMark c = false) (hnative : p.IsNative root) :
    d.path = root.path.dropLast ++
      Url.asWritten (TenantPath.dropEndSlashes p.nativePrefix).toList ++ ['/'] := by
  have hparts : p.endpoint.toList =
      p.base.toList ++ (TenantPath.dropEndSlashes p.nativePrefix).toList := String.toList_append
  have hend : (p.base ++ "/").toList = p.base.toList ++ ['/'] := String.toList_append
  have hslash := hnative.slash
  have hnames := hnative.names
  cases hstart : (TenantPath.dropEndSlashes p.nativePrefix).toList with
  | nil =>
    have hsame : p.endpoint = p.base := by
      rw [endpoint, String.toList_eq_nil_iff.1 hstart, String.append_empty]
    obtain ⟨dirs, -, hroot, -⟩ := Url.exists_directory hend hnative.parses hnative.web
      (by rwa [hsame] at hplain)
    rw [hsame, hnative.parses] at hd
    cases hd
    rw [hroot, List.dropLast_concat]
    exact (congrArg (· ++ ['/']) (List.append_nil _)).symm
  | cons c cs =>
    rw [hstart] at hparts hslash hnames
    cases hslash c rfl
    have hbase : ∀ c ∈ p.base.toList, isMark c = false := fun c hc =>
      hplain c (hparts ▸ List.mem_append_left _ hc)
    have hcs : ∀ c ∈ cs, isMark c = false := fun c hc =>
      hplain c (hparts ▸ List.mem_append_right _ (List.mem_cons_of_mem _ hc))
    refine Url.path_of_subdirectory hend hnative.parses hnative.web hbase hcs ?_ hd fun s hs =>
      hnames s (List.mem_cons_of_mem _ hs)
    rw [String.toList_append, hparts, List.append_assoc]
    rfl

/-! ## Where a request goes -/

theorem toList_outboundUrl (p : Proxy) (t : TenantPath) (query : List Form.Pair) :
    (p.outboundUrl t query).toList =
      p.endpoint.toList ++ (t.remainder.toList ++ '?' :: (Form.encode query).toList) := by
  simp [outboundUrl, TenantPath.backendPath, endpoint]

section Address

variable (p : Proxy) {path : String} {t : TenantPath} (query : List Form.Pair) {d : Url}
  (ht : TenantPath.parse path = .ok t) (hd : Url.parse? (p.endpoint ++ "/") = some d)
  (hweb : d.IsWeb)
include ht hd hweb

/-- An endpoint with a mark is asked for as it is. -/
theorem outbound_path_of_marked (hmark : ∃ c ∈ p.endpoint.toList, isMark c = true) :
    ∃ u, Url.parse? (p.outboundUrl t query) = some u ∧ u.SameHost d ∧ u.path = d.path := by
  have hend : (p.endpoint ++ "/").toList = p.endpoint.toList ++ ['/'] := String.toList_append
  have hurl := p.toList_outboundUrl t query
  rcases TenantPath.remainder_of_parse ht with hempty | ⟨cs, hcs⟩
  · rw [hempty] at hurl
    exact Url.path_of_marked_directory hend hd hweb hmark (by decide) hurl
  · rw [hcs, String.toList_ofList, List.cons_append] at hurl
    exact Url.path_of_marked_directory hend hd hweb hmark (by decide) hurl

/-- From any other endpoint a request goes where the segments behind the tenant lead. -/
theorem outbound_path_of_plain (hplain : ∀ c ∈ p.endpoint.toList, isMark c = false) :
    ∃ u top, Url.parse? (p.outboundUrl t query) = some u ∧ u.SameHost d ∧
      d.path = top ++ ['/'] ∧ (t.remainder = "" → Below top u.path) ∧
      (t.remainder ≠ "" → Leads top t.asked u.path) := by
  have hend : (p.endpoint ++ "/").toList = p.endpoint.toList ++ ['/'] := String.toList_append
  have hurl := p.toList_outboundUrl t query
  obtain ⟨dirs, hdirs, htop, hslash, hquestion⟩ := Url.exists_directory hend hd hweb hplain
  rcases TenantPath.remainder_of_parse ht with hempty | ⟨cs, hcs⟩
  · rw [hempty] at hurl
    obtain ⟨u, hu, hhost, hbelow⟩ := hquestion _ _ hurl
    exact ⟨u, Url.Path.text dirs, hu, hhost, htop, fun _ => hbelow, fun hne => absurd hempty hne⟩
  · have hne : t.remainder ≠ "" := fun h => by
      rw [hcs] at h
      simpa using congrArg String.toList h
    have hasked : t.asked = segments (isSeparator true)
        (pathText (cs ++ '?' :: (Form.encode query).toList)) := by
      rw [TenantPath.asked, hcs, String.toList_ofList, Url.pathText_append]
      rfl
    rw [hcs, String.toList_ofList, List.cons_append] at hurl
    obtain ⟨u, hu, hhost, hpath⟩ := hslash _ _ hurl
    refine ⟨u, Url.Path.text dirs, hu, hhost, htop, fun hempty => absurd hempty hne, fun _ => ?_⟩
    rw [hpath, ← hasked]
    refine Url.Path.leads_resolveFrom hdirs fun s hs hmem => ?_
    have := Url.Path.eq_false_of_mem_segments hs '/' hmem
    simp [isSeparator] at this

end Address

/-- **Where a request goes.**  For every path that names a tenant, the address that is asked for is
one of the endpoint's host.  If the endpoint holds a mark, its path is the endpoint's.  If not, it
is the endpoint's or lies where the segments behind the tenant lead from there: below the endpoint
exactly if they go down the names again that they climb, and so whenever there is no double dot
among them.  And the endpoint ends with the native prefix, if that has no dot segments. -/
theorem outbound_path_leads (p : Proxy) (path : String) (t : TenantPath) (query : List Form.Pair)
    (d : Url) (ht : TenantPath.parse path = .ok t)
    (hd : Url.parse? (p.endpoint ++ "/") = some d) (hweb : d.IsWeb) :
    ∃ u, Url.parse? (p.outboundUrl t query) = some u ∧ u.SameHost d ∧
      ((∃ c ∈ p.endpoint.toList, isMark c = true) → u.path = d.path) ∧
      ((∀ c ∈ p.endpoint.toList, isMark c = false) → ∃ top, d.path = top ++ ['/'] ∧
        (t.remainder = "" → Below top u.path) ∧
        (t.remainder ≠ "" → Leads top t.asked u.path) ∧
        ∀ root, p.IsNative root → top =
          root.path.dropLast ++ Url.asWritten (TenantPath.dropEndSlashes p.nativePrefix).toList) := by
  by_cases hmark : ∃ c ∈ p.endpoint.toList, isMark c = true
  · obtain ⟨u, hu, hhost, hpath⟩ := p.outbound_path_of_marked query ht hd hweb hmark
    refine ⟨u, hu, hhost, fun _ => hpath, fun hplain => ?_⟩
    obtain ⟨c, hc, hc'⟩ := hmark
    rw [hplain c hc] at hc'
    cases hc'
  · have hplain : ∀ c ∈ p.endpoint.toList, isMark c = false := by simpa using hmark
    obtain ⟨u, top, hu, hhost, htop, hempty, hleads⟩ :=
      p.outbound_path_of_plain query ht hd hweb hplain
    refine ⟨u, hu, hhost, fun h => absurd h hmark, fun _ => ⟨top, htop, hempty, hleads, ?_⟩⟩
    intro root hnative
    exact List.append_cancel_right (htop.symm.trans (endpoint_of_native hd hplain hnative))

/-- A path at the address of the logs. -/
def logsUrl (path : String) : Url :=
  { scheme := "http".toList, host := some (.domain "logs".toList), portNumber := some 9428
    path := path.toList, query := none }

theorem isNative_logsProxy : logsProxy.IsNative (logsUrl "/") where
  parses := by decide +kernel
  web := ⟨by decide, by decide⟩
  slash := by
    have hhead : (TenantPath.dropEndSlashes logsProxy.nativePrefix).toList.head? = some '/' := by
      decide +kernel
    intro c hc
    rw [hhead] at hc
    exact (Option.mem_some.1 hc).symm
  names := by decide +kernel

/-- Segments may climb out of the endpoint and go back into it. -/
theorem outbound_path_leads_back :
    TenantPath.parse "/projects/p1/resources/r1/../logsql/query" =
        .ok ⟨"p1", "r1", "/../logsql/query"⟩ ∧
      Url.parse? (logsProxy.endpoint ++ "/") = some (logsUrl "/select/logsql/") ∧
      (logsUrl "/select/logsql/").IsWeb ∧
      ∃ u, Url.parse? (logsProxy.outboundUrl ⟨"p1", "r1", "/../logsql/query"⟩ []) = some u ∧
        Below "/select/logsql".toList u.path := by
  have hparse : TenantPath.parse "/projects/p1/resources/r1/../logsql/query" =
      .ok ⟨"p1", "r1", "/../logsql/query"⟩ := toOption_eq_some_iff.1 (by decide +kernel)
  have hend : Url.parse? (logsProxy.endpoint ++ "/") = some (logsUrl "/select/logsql/") := by
    decide +kernel
  have hweb : (logsUrl "/select/logsql/").IsWeb := ⟨by decide, by decide⟩
  obtain ⟨u, hu, -, -, hplain⟩ := outbound_path_leads logsProxy
    "/projects/p1/resources/r1/../logsql/query" ⟨"p1", "r1", "/../logsql/query"⟩ []
    (logsUrl "/select/logsql/") hparse hend hweb
  have hunmarked : logsProxy.endpoint.toList.all (!isMark ·) = true := by decide +kernel
  obtain ⟨top, -, -, hleads, htop⟩ := hplain fun c hc => by
    simpa using List.all_eq_true.1 hunmarked c hc
  have hplainText : "/select/logsql".toList.all
      (fun c => !Url.Path.isEncoded c && c != '\\') = true := by decide +kernel
  have hnative : (TenantPath.dropEndSlashes logsProxy.nativePrefix).toList =
      "/select/logsql".toList := by decide +kernel
  have hsame : top = "/select/logsql".toList := by
    rw [htop _ isNative_logsProxy, hnative, Url.asWritten_eq_self fun c hc => by
      simpa using List.all_eq_true.1 hplainText c hc]
    rfl
  rw [hsame] at hleads
  exact ⟨hparse, hend, hweb, u, hu, (hleads (by decide)).below.2 (by decide +kernel)⟩

/-- **A request that climbs out of the endpoint**, with its dots as they are or written in triples.
It goes out. -/
theorem outbound_path_escapes :
    logsProxy.endpoint = "http://logs:9428" ++ "/select/logsql" ∧
      ∀ remainder ∈ ["/../../admin", "/%2e%2e/.%2E/admin"],
        ∃ out, sentBy { method := "GET", path := logsPath remainder } = some out ∧
          out.path? = some "/admin".toList ∧
          ¬ Below "/select/logsql".toList "/admin".toList := by
  refine ⟨by decide +kernel, fun remainder hremainder => ?_⟩
  have hgoes : ∀ remainder ∈ ["/../../admin", "/%2e%2e/.%2E/admin"],
      (sentBy { method := "GET", path := logsPath remainder }).isSome := by decide +kernel
  have hpath : ∀ remainder ∈ ["/../../admin", "/%2e%2e/.%2E/admin"],
      ∀ out ∈ sentBy { method := "GET", path := logsPath remainder },
        out.path? = some "/admin".toList := by
    decide +kernel
  obtain ⟨out, hout⟩ := Option.isSome_iff_exists.1 (hgoes remainder hremainder)
  refine ⟨out, hout, hpath remainder hremainder out hout, ?_⟩
  rintro ⟨more, hmore, -⟩
  have hstart : "/select/logsql".toList <+: "/admin".toList := ⟨more, hmore.symm⟩
  revert hstart
  decide

end Proxy

end TenantGuard
