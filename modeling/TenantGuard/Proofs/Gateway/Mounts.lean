import Mathlib.Data.List.TakeWhile
import TenantGuard.Gateway
import TenantGuard.Proofs.Query.Restriction

/-!
# Where backends are mounted

Settings are accepted only if their backends can be mounted side by side, and next to what the
server has of its own.

* `dropEndSlashes_append` and `getLast?_dropEndSlashes`: a mount is the route of its backend without
  the slashes at its end;
* `Backend.Admissible` says what is asked of one backend, and `validate_eq_ok_iff` that settings are
  accepted just if their backends are admissible and no two of them have the same mount;
* `mount_of_ofSettings`: a server's proxies are mounted where the settings say;
* `Target.isOwn_below`: nothing of the server's own is found below an admissible mount, and
  `Backend.Admissible.eq_ready`: at the mount itself there may be one probe;
* `accepted_mounts_apart` puts them together, and in `mount_equals_probe` that probe is met.
-/

namespace TenantGuard

/-! ## Slashes at the end -/

namespace TenantPath

/-- What is dropped are slashes. -/
theorem dropEndSlashes_append (s : String) :
    ∃ n, s.toList = (dropEndSlashes s).toList ++ List.replicate n '/' := by
  have hslashes : s.toList.reverse.takeWhile (· == '/') =
      List.replicate (s.toList.reverse.takeWhile (· == '/')).length '/' :=
    List.eq_replicate_of_mem fun c hc => by
      have hslash := List.mem_takeWhile_imp hc
      exact beq_iff_eq.1 hslash
  refine ⟨(s.toList.reverse.takeWhile (· == '/')).length, ?_⟩
  calc s.toList
    _ = (s.toList.reverse.takeWhile (· == '/') ++
          s.toList.reverse.dropWhile (· == '/')).reverse := by
      rw [List.takeWhile_append_dropWhile, List.reverse_reverse]
    _ = _ := by
      rw [List.reverse_append, dropEndSlashes, String.toList_ofList, hslashes,
        List.reverse_replicate, List.length_replicate]

/-- No slash is left. -/
theorem getLast?_dropEndSlashes (s : String) : (dropEndSlashes s).toList.getLast? ≠ some '/' := by
  rw [dropEndSlashes, String.toList_ofList, List.getLast?_reverse]
  intro h
  have hhead := List.head?_dropWhile_not (· == '/') s.toList.reverse
  rw [h] at hhead
  exact absurd hhead (by decide)

end TenantPath

/-! ## Admissible backends -/

/-- **A mount names a path**: there is something behind its slash, and no slash at its end. -/
def NamesPath (mount : String) : Prop :=
  ∃ name, mount.toList = '/' :: name ∧ name ≠ [] ∧ name.getLast? ≠ some '/'

/-- **A path lies under another one**: it is that one, or goes on from it with a slash. -/
def LiesUnder (base path : String) : Prop := path = base ∨ ∃ rest, path = base ++ "/" ++ rest

theorem prefix_of_liesUnder {base path : String} (h : LiesUnder base path) :
    base.toList <+: path.toList := by
  rcases h with rfl | ⟨rest, rfl⟩
  · exact List.prefix_rfl
  · rw [String.toList_append, String.toList_append, List.append_assoc]
    exact List.prefix_append _ _

/-- **What is asked of a backend**, whatever the other ones are. -/
structure Backend.Admissible (b : Backend) : Prop where
  path : NamesPath b.mount
  notHealth : b.mount ≠ "/health"
  notMetrics : b.mount ≠ "/metrics"
  notApi : ¬"/api".toList <+: b.mount.toList
  url : ∃ u, Url.parse? b.url = some u

theorem Backend.Admissible.eq_ready_of_public {b : Backend} (h : b.Admissible)
    (hprobe : b.mount ∈ publicPaths) : b.mount = "/ready" := by
  simp only [publicPaths, List.mem_cons, List.not_mem_nil, or_false] at hprobe
  rcases hprobe with hhealth | hready | hmetrics
  · exact absurd hhealth h.notHealth
  · exact hready
  · exact absurd hmetrics h.notMetrics

namespace Settings

variable {b : Backend} {bs : List Backend} {taken : List String}

theorem namesPath_iff : namesPath b.mount = true ↔ NamesPath b.mount := by
  have hlast := TenantPath.getLast?_dropEndSlashes b.route
  rw [← Backend.mount] at hlast
  constructor
  · intro h
    unfold namesPath at h
    split at h
    next c cs hmount =>
      refine ⟨c :: cs, hmount, List.cons_ne_nil _ _, fun hslash => hlast ?_⟩
      rw [hmount, List.getLast?_cons_cons, hslash]
    · cases h
  · rintro ⟨name, hmount, hne, -⟩
    obtain ⟨c, cs, rfl⟩ := List.exists_cons_of_ne_nil hne
    rw [namesPath, hmount]
    rfl

theorem isReserved_eq_false_iff {mount : String} : isReserved mount = false ↔
    ¬"/api".toList <+: mount.toList ∧ mount ≠ "/health" ∧ mount ≠ "/metrics" := by
  rw [isReserved, Bool.or_eq_false_iff, Bool.or_eq_false_iff, and_assoc, beq_eq_false_iff_ne,
    beq_eq_false_iff_ne, ← List.isPrefixOf_iff_prefix, Bool.not_eq_true]

theorem validateBackend_eq_ok_iff :
    validateBackend taken b = .ok () ↔ b.Admissible ∧ b.mount ∉ taken := by
  unfold validateBackend
  dsimp only
  split
  next hpath =>
    refine ⟨nofun, fun h => ?_⟩
    rw [namesPath_iff.2 h.1.path] at hpath
    cases hpath
  next hpath =>
  split
  next hreserved =>
    refine ⟨nofun, fun h => ?_⟩
    rw [isReserved_eq_false_iff.2 ⟨h.1.notApi, h.1.notHealth, h.1.notMetrics⟩] at hreserved
    cases hreserved
  next hreserved =>
  split
  next htaken => exact ⟨nofun, fun h => absurd (List.contains_iff_mem.1 htaken) h.2⟩
  next htaken =>
  split
  next hurl =>
    refine ⟨nofun, fun h => ?_⟩
    obtain ⟨u, hu⟩ := h.1.url
    rw [hu] at hurl
    cases hurl
  next hurl =>
    rw [Bool.not_eq_true, Bool.not_eq_eq_eq_not, Bool.not_false] at hpath
    obtain ⟨hapi, hhealth, hmetrics⟩ := isReserved_eq_false_iff.1 (Bool.not_eq_true _ ▸ hreserved)
    refine ⟨fun _ => ⟨⟨namesPath_iff.1 hpath, hhealth, hmetrics, hapi, ?_⟩, ?_⟩, fun _ => rfl⟩
    · exact Option.ne_none_iff_exists'.1 fun hnone => hurl (by rw [hnone]; rfl)
    · exact fun hmem => htaken (List.contains_iff_mem.2 hmem)

/-- **Backends are accepted one by one**, given the mounts that are taken. -/
theorem validateBackends_eq_ok_iff : validateBackends taken bs = .ok () ↔
    (∀ b ∈ bs, b.Admissible ∧ b.mount ∉ taken) ∧ (bs.map Backend.mount).Nodup := by
  induction bs generalizing taken with
  | nil => simp [validateBackends]
  | cons b bs ih =>
    have hstep : validateBackends taken (b :: bs) = .ok () ↔
        (b.Admissible ∧ b.mount ∉ taken) ∧ validateBackends (b.mount :: taken) bs = .ok () := by
      rw [validateBackends, bind_eq_ok, ← validateBackend_eq_ok_iff]
      exact ⟨fun ⟨_, h⟩ => h, fun h => ⟨(), h⟩⟩
    rw [hstep, ih, List.map_cons, List.nodup_cons, List.forall_mem_cons, List.mem_map]
    constructor
    · rintro ⟨hb, hbs, hnodup⟩
      refine ⟨⟨hb, fun b' hb' => ⟨(hbs b' hb').1, ?_⟩⟩, ?_, hnodup⟩
      · exact List.not_mem_of_not_mem_cons (hbs b' hb').2
      · rintro ⟨b', hb', heq⟩
        exact (hbs b' hb').2 (heq ▸ List.mem_cons_self)
    · rintro ⟨⟨hb, hbs⟩, hne, hnodup⟩
      refine ⟨hb, fun b' hb' => ⟨(hbs b' hb').1, ?_⟩, hnodup⟩
      exact List.not_mem_cons_of_ne_of_not_mem (fun heq => hne ⟨b', hb', heq⟩) (hbs b' hb').2

/-- **Which settings are accepted.** -/
theorem validate_eq_ok_iff {s : Settings} : s.validate = .ok () ↔
    validateAuth s.auth = .ok () ∧ (s.proxy.backends.map Backend.mount).Nodup ∧
      ∀ b ∈ s.proxy.backends, b.Admissible := by
  rw [validate, bind_eq_ok]
  simp only [validateBackends_eq_ok_iff, List.not_mem_nil, not_false_eq_true, and_true]
  exact ⟨fun ⟨_, hauth, hbs, hnodup⟩ => ⟨hauth, hnodup, hbs⟩,
    fun ⟨hauth, hnodup, hbs⟩ => ⟨(), hauth, hbs, hnodup⟩⟩

end Settings

/-! ## What the server has of its own -/

namespace Target

/-- **Whether a target is the server's own**: a probe or a place of the management interface. -/
def isOwn : Target → Bool
  | health | readiness | metrics | api _ => true
  | proxy _ | nowhere => false

/-- What is the server's own is found at the probes' paths and under `/api`. -/
theorem FoundAt.path_of_isOwn {proxies : List Proxy} {t : Target} {cs : List Char}
    (h : FoundAt proxies t cs) (hown : t.isOwn = true) :
    (∃ path ∈ publicPaths, cs = path.toList) ∨ "/api".toList <+: cs := by
  cases h with
  | health => exact .inl ⟨"/health", by decide, rfl⟩
  | readiness => exact .inl ⟨"/ready", by decide, rfl⟩
  | metrics => exact .inl ⟨"/metrics", by decide, rfl⟩
  | api =>
    have hmount : "/api".toList <+: Api.Place.mount.toList := by decide
    exact .inr (hmount.trans (List.prefix_append _ _))
  | proxy => cases hown
  | nowhere => cases hown

/-- **Below a mount that names a path there is nothing of the server's own**, unless the mount
starts with `/api`. -/
theorem isOwn_below {mount : String} (hpath : NamesPath mount)
    (hapi : ¬"/api".toList <+: mount.toList) (proxies : List Proxy) (rest : String) :
    (ofPath proxies (mount ++ "/" ++ rest)).isOwn = false := by
  obtain ⟨name, hmount, -⟩ := hpath
  have hbelow : (mount ++ "/" ++ rest).toList = mount.toList ++ '/' :: rest.toList := by
    simp
  rw [Bool.eq_false_iff]
  intro hown
  have hfound := foundAt_ofPath proxies (mount ++ "/" ++ rest)
  rw [hbelow] at hfound
  rcases hfound.path_of_isOwn hown with ⟨path, hprobe, heq⟩ | hprefix
  · -- A probe's path has a slash at its start only.
    have hslash : ∀ path ∈ publicPaths, '/' ∉ path.toList.tail := by decide
    refine hslash path hprobe ?_
    rw [← heq, hmount, List.cons_append, List.tail_cons]
    exact List.mem_append_right _ List.mem_cons_self
  · -- `/api` would end in the mount, or hold the slash behind it.
    rcases Nat.lt_or_ge mount.toList.length "/api".toList.length with hlt | hle
    · have hbehind : mount.toList ++ ['/'] <+: "/api".toList := by
        refine List.prefix_of_prefix_length_le ?_ hprefix ?_
        · rw [List.prefix_append_right_inj, List.cons_prefix_cons]
          exact ⟨rfl, List.nil_prefix⟩
        · rw [List.length_append]
          exact hlt
      rw [hmount] at hbehind
      have hname : name ++ ['/'] <+: "api".toList := (List.cons_prefix_cons.1 hbehind).2
      exact absurd (hname.mem (List.mem_append_right _ List.mem_cons_self)) (by decide)
    · exact hapi (List.prefix_of_prefix_length_le hprefix (List.prefix_append _ _) hle)

end Target

/-- **At an admissible mount the server has one thing of its own at most**, and then the mount is
`/ready`. -/
theorem Backend.Admissible.eq_ready {b : Backend} (h : b.Admissible) {proxies : List Proxy}
    (hown : (Target.ofPath proxies b.mount).isOwn = true) : b.mount = "/ready" := by
  rcases (Target.foundAt_ofPath proxies b.mount).path_of_isOwn hown with ⟨path, hprobe, heq⟩ | hapi
  · rw [← String.toList_inj.1 heq] at hprobe
    exact h.eq_ready_of_public hprobe
  · exact absurd hapi h.notApi

/-! ## Mounted proxies -/

namespace Proxy

theorem mount_of_ofBackend {n : Nat} {b : Backend} {p : Proxy} (h : ofBackend n b = .ok p) :
    p.mount = b.mount := by
  unfold ofBackend at h
  split at h
  · cases h
  · cases h
    rfl

theorem map_mount_of_ofBackend {n : Nat} {bs : List Backend} {ps : List Proxy}
    (h : List.Forall₂ (fun b p => ofBackend n b = .ok p) bs ps) :
    ps.map Proxy.mount = bs.map Backend.mount := by
  induction h with
  | nil => rfl
  | cons hb _ ih => rw [List.map_cons, List.map_cons, ih, mount_of_ofBackend hb]

end Proxy

namespace Gateway

/-- **A server's proxies are mounted where the settings say.** -/
theorem mount_of_ofSettings {s : Settings} {database : DatabaseHealth} {g : Gateway}
    (h : ofSettings s database = .ok g) :
    g.proxies.map Proxy.mount = s.proxy.backends.map Backend.mount := by
  obtain ⟨authenticator, -, h⟩ := bind_eq_ok.1 h
  obtain ⟨proxies, hproxies, h⟩ := bind_eq_ok.1 h
  cases h
  exact Proxy.map_mount_of_ofBackend ((mapM_eq_ok_iff _).1 hproxies)

/-! ## Side by side -/

/-- **Where accepted settings mount their backends.**  Settings are accepted just if their tokens
can be checked, their backends are admissible and their mounts differ.  Then every mount is its
route without the slashes at its end, names a path, does not lie under `/api` and is not the path of
a probe, unless it is `/ready`.  A server with these settings has its proxies at these mounts; below
them it has nothing of its own, and at them nothing but the probe `/ready`. -/
theorem accepted_mounts_apart (s : Settings) :
    (s.validate = .ok () ↔ Settings.validateAuth s.auth = .ok () ∧
      (s.proxy.backends.map Backend.mount).Nodup ∧ ∀ b ∈ s.proxy.backends, b.Admissible) ∧
    (s.validate = .ok () →
      (s.proxy.backends.map Backend.mount).Nodup ∧
      (∀ b ∈ s.proxy.backends,
        (∃ n, b.route.toList = b.mount.toList ++ List.replicate n '/') ∧ NamesPath b.mount ∧
          ¬LiesUnder "/api" b.mount ∧ (b.mount ∈ publicPaths → b.mount = "/ready")) ∧
      ∀ database g, ofSettings s database = .ok g →
        g.proxies.map Proxy.mount = s.proxy.backends.map Backend.mount ∧
        ∀ p ∈ g.proxies,
          ((Target.ofPath g.proxies p.mount).isOwn = true → p.mount = "/ready") ∧
          ∀ rest, (Target.ofPath g.proxies (p.mount ++ "/" ++ rest)).isOwn = false) := by
  refine ⟨Settings.validate_eq_ok_iff, fun h => ?_⟩
  obtain ⟨-, hnodup, hbackends⟩ := Settings.validate_eq_ok_iff.1 h
  refine ⟨hnodup, fun b hb => ?_, fun database g hg => ?_⟩
  · have hb := hbackends b hb
    exact ⟨TenantPath.dropEndSlashes_append b.route, hb.path,
      fun hunder => hb.notApi (prefix_of_liesUnder hunder), hb.eq_ready_of_public⟩
  · have hmounts := mount_of_ofSettings hg
    refine ⟨hmounts, fun p hp => ?_⟩
    have hmount : p.mount ∈ s.proxy.backends.map Backend.mount :=
      hmounts ▸ List.mem_map_of_mem hp
    obtain ⟨b, hb, heq⟩ := List.mem_map.1 hmount
    have hb := hbackends b hb
    rw [← heq]
    exact ⟨hb.eq_ready, Target.isOwn_below hb.path hb.notApi g.proxies⟩

/-- Two backends, of which the second one is mounted at the path of a probe. -/
def twoMounts : Settings where
  database := { url := "postgres://localhost/tenants" }
  auth := { token := { secret := some "s" } }
  proxy := { backends :=
    [{ name := "logs", dialect := .logs, route := "/logs//", url := "http://logs:9428" },
     { name := "metrics", dialect := .metrics, route := "/ready/", url := "http://metrics:8428" }] }

theorem accepted_mounts_apart_two :
    twoMounts.validate = .ok () ∧ twoMounts.proxy.backends.map Backend.mount = ["/logs", "/ready"] ∧
      ∃ g, ofSettings twoMounts .notConfigured = .ok g ∧ ∀ p ∈ g.proxies,
        ((Target.ofPath g.proxies p.mount).isOwn = true → p.mount = "/ready") ∧
        ∀ rest, (Target.ofPath g.proxies (p.mount ++ "/" ++ rest)).isOwn = false := by
  have hvalid : twoMounts.validate = .ok () := toOption_eq_some_iff.1 (by decide +kernel)
  obtain ⟨-, -, hserver⟩ := (accepted_mounts_apart twoMounts).2 hvalid
  exact ⟨hvalid, by decide +kernel, _, rfl, (hserver .notConfigured _ rfl).2⟩

/-- **A mount that is the path of a probe** is accepted, and the server has its probe there. -/
theorem mount_equals_probe :
    ∃ g, twoMounts.validate = .ok () ∧ ofSettings twoMounts .notConfigured = .ok g ∧
      ∃ p ∈ g.proxies, p.mount = "/ready" ∧ p.mount ∈ publicPaths ∧
        Target.ofPath g.proxies p.mount = .readiness := by
  refine ⟨_, toOption_eq_some_iff.1 (by decide +kernel), rfl, ?_⟩
  decide +kernel

end Gateway

end TenantGuard
