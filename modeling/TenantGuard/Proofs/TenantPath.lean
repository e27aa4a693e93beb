import Mathlib.Data.List.TakeWhile
import Mathlib.Data.Set.Function
import TenantGuard.Proofs.Identifier
import TenantGuard.Proofs.Plan
import TenantGuard.TenantPath

/-!
# Which paths name a tenant

A path names a tenant if it is the tenant's own path, with any number of slashes in front of it, and
perhaps one more slash behind it if nothing else follows the resource.

* `Scope.IsId` is the form of an identifier, and `validateId_eq_ok_iff` says that this is what is
  accepted;
* `TenantPath.text` is a tenant's own path, and `TenantPath.Names` says which paths name a tenant;
* `pieces_of_names` and `names_of_pieces`: a path names a tenant just if its pieces between slashes
  do;
* `parse_iff_names`: reading a path finds the tenant that it names, and refuses every other path.
  So the path of a tenant is read back, and no two tenants share one.
-/

namespace TenantGuard

/-! ## Identifiers -/

namespace Scope

/-- **The form of an identifier**: a letter or digit of ASCII, then such letters and digits, `_` and
`-`, in at most 128 bytes. -/
structure IsId (id : String) : Prop where
  text : ∃ c cs, id.toList = c :: cs ∧ c.isAlphanum = true ∧
    ∀ d ∈ cs, d.isAlphanum = true ∨ d = '_' ∨ d = '-'
  size : id.utf8ByteSize ≤ 128

theorem isIdText_iff {cs : List Char} : isIdText cs = true ↔
    ∃ d ds, cs = d :: ds ∧ d.isAlphanum = true ∧
      ∀ e ∈ ds, e.isAlphanum = true ∨ e = '_' ∨ e = '-' := by
  cases cs with
  | nil => simp [isIdText]
  | cons d ds =>
    have hchar : ∀ e, isIdChar e = true ↔ e.isAlphanum = true ∨ e = '_' ∨ e = '-' := by
      simp [isIdChar, or_assoc]
    simp only [isIdText, Bool.and_eq_true, List.all_eq_true, hchar, List.cons.injEq]
    constructor
    · rintro ⟨hd, hds⟩
      exact ⟨d, ds, ⟨rfl, rfl⟩, hd, hds⟩
    · rintro ⟨_, _, ⟨rfl, rfl⟩, hd, hds⟩
      exact ⟨hd, hds⟩

/-- **What has the form of an identifier is accepted**, and nothing else. -/
theorem validateId_eq_ok_iff {id : String} : validateId id = .ok () ↔ IsId id := by
  constructor
  · intro h
    refine ⟨isIdText_iff.1 (isIdText_of_validateId h), ?_⟩
    unfold validateId at h
    split at h
    · cases h
    split at h
    · cases h
    next hsize => exact Nat.le_of_not_lt hsize
  · rintro ⟨htext, hsize⟩
    have hne : ¬ id.isEmpty = true := by
      obtain ⟨c, cs, hcs, -⟩ := htext
      rw [String.isEmpty_iff]
      rintro rfl
      cases hcs
    have hfits : ¬ maxIdLength < id.utf8ByteSize := Nat.not_lt.2 hsize
    rw [validateId, if_neg hne, if_neg hfits, if_pos (isIdText_iff.2 htext)]

/-- An identifier holds no slash. -/
theorem IsId.slash_not_mem {id : String} (h : IsId id) : '/' ∉ id.toList := by
  intro hmem
  have hchar := isIdChar_of_validateId (validateId_eq_ok_iff.2 h) hmem
  revert hchar
  decide

theorem IsId.ne_nil {id : String} (h : IsId id) : id.toList ≠ [] := by
  obtain ⟨c, cs, hcs, -⟩ := h.text
  simp [hcs]

end Scope

/-! ## Paths -/

namespace TenantPath

open Text (splitAtMost joinWith)

variable {path kind word id : String} {t : TenantPath}

/-- **Coordinates of a tenant**, with what a path may hold behind them: nothing, or a slash and more
than that. -/
structure IsTenant (t : TenantPath) : Prop where
  project : Scope.IsId t.projectId
  resource : Scope.IsId t.resourceId
  remainder : t.remainder = "" ∨ ∃ c cs, t.remainder.toList = '/' :: c :: cs

/-- **The path of a tenant**, without a slash in front. -/
def text (t : TenantPath) : String :=
  "projects/" ++ t.projectId ++ "/resources/" ++ t.resourceId ++ t.remainder

/-- **A path that names a tenant.** -/
structure Names (path : String) (t : TenantPath) : Prop where
  tenant : t.IsTenant
  form : ∃ n ending, path.toList = List.replicate n '/' ++ t.text.toList ++ ending ∧
    (ending = [] ∨ t.remainder = "" ∧ ending = ['/'])

/-! ### Pieces -/

theorem expectWord_eq_ok_iff {segment : Option (List Char)} :
    expectWord word segment = .ok () ↔ segment = some word.toList := by
  cases segment with
  | none => simp [expectWord]
  | some s =>
    simp only [expectWord, Option.some.injEq]
    split
    next h => simp [h]
    next h => split <;> simp [h]

theorem expectId_eq_ok_iff {segment : Option (List Char)} :
    expectId kind segment = .ok id ↔ segment = some id.toList ∧ Scope.IsId id := by
  cases segment with
  | none => simp [expectId]
  | some s =>
    rw [Option.some.injEq]
    constructor
    · intro h
      rw [expectId] at h
      split at h
      · cases h
      split at h
      next hv =>
        cases h
        exact ⟨String.toList_ofList.symm, Scope.validateId_eq_ok_iff.1 hv⟩
      · cases h
    · rintro ⟨rfl, hid⟩
      have hne : ¬ id.toList.isEmpty = true := by simpa using hid.ne_nil
      rw [expectId, if_neg hne, String.ofList_toList, Scope.validateId_eq_ok_iff.2 hid]

/-- **The pieces of a path that names a tenant.** -/
structure Pieces (pieces : List (List Char)) (t : TenantPath) : Prop where
  projects : pieces[0]? = some "projects".toList
  project : pieces[1]? = some t.projectId.toList ∧ Scope.IsId t.projectId
  resources : pieces[2]? = some "resources".toList
  resource : pieces[3]? = some t.resourceId.toList ∧ Scope.IsId t.resourceId
  remainder : t.remainder = remainderOf pieces[4]?

/-- A path without the slashes in front of it, cut at the first slashes. -/
def pieces (path : String) : List (List Char) :=
  splitAtMost '/' 4 (path.toList.dropWhile (· == '/'))

theorem parse_iff_pieces : parse path = .ok t ↔ Pieces (pieces path) t := by
  constructor
  · intro h
    obtain ⟨_, hprojects, h⟩ := bind_eq_ok.1 h
    obtain ⟨project, hproject, h⟩ := bind_eq_ok.1 h
    obtain ⟨_, hresources, h⟩ := bind_eq_ok.1 h
    obtain ⟨resource, hresource, h⟩ := bind_eq_ok.1 h
    cases h
    exact ⟨expectWord_eq_ok_iff.1 hprojects, expectId_eq_ok_iff.1 hproject,
      expectWord_eq_ok_iff.1 hresources, expectId_eq_ok_iff.1 hresource, rfl⟩
  · intro h
    have hparse : parse path =
        (do
          expectWord "projects" (pieces path)[0]?
          let projectId ← expectId "project" (pieces path)[1]?
          expectWord "resources" (pieces path)[2]?
          let resourceId ← expectId "resource" (pieces path)[3]?
          return { projectId, resourceId, remainder := remainderOf (pieces path)[4]? }) := rfl
    rw [hparse, expectWord_eq_ok_iff.2 h.projects, expectId_eq_ok_iff.2 h.project,
      expectWord_eq_ok_iff.2 h.resources, expectId_eq_ok_iff.2 h.resource, ← h.remainder]
    rfl

/-- A path starts with slashes, and then comes what its pieces are cut from. -/
theorem exists_slashes (cs : List Char) :
    ∃ n, cs = List.replicate n '/' ++ cs.dropWhile (· == '/') := by
  refine ⟨(cs.takeWhile (· == '/')).length, ?_⟩
  have hall : cs.takeWhile (· == '/') = List.replicate (cs.takeWhile (· == '/')).length '/' := by
    refine List.eq_replicate_of_mem fun c hc => ?_
    simpa using List.mem_takeWhile_imp hc
  rw [← hall, List.takeWhile_append_dropWhile]

theorem toList_text (t : TenantPath) : t.text.toList =
    "projects".toList ++ '/' :: (t.projectId.toList ++ '/' ::
      ("resources".toList ++ '/' :: (t.resourceId.toList ++ t.remainder.toList))) := by
  simp [text]

/-- **A path that names a tenant is cut into its pieces.** -/
theorem pieces_of_names (h : Names path t) : Pieces (pieces path) t := by
  obtain ⟨n, ending, hpath, hending⟩ := h.form
  have hproject := h.tenant.project.slash_not_mem
  have hresource := h.tenant.resource.slash_not_mem
  have hdrop : path.toList.dropWhile (· == '/') = t.text.toList ++ ending := by
    rw [hpath, List.append_assoc, List.dropWhile_append_of_pos (by simp), toList_text]
    rfl
  -- the first three pieces are the same whatever follows the resource
  have hcut : ∀ rest, t.remainder.toList ++ ending = rest → pieces path =
      "projects".toList :: t.projectId.toList :: "resources".toList ::
        splitAtMost '/' 1 (t.resourceId.toList ++ rest) := by
    rintro rest rfl
    rw [pieces, hdrop, toList_text]
    simp only [List.append_assoc, List.cons_append]
    rw [Text.splitAtMost_append 3 (by decide), Text.splitAtMost_append 2 hproject,
      Text.splitAtMost_append 1 (by decide)]
  have hpieces : ∀ last, pieces path = ["projects".toList, t.projectId.toList, "resources".toList,
      t.resourceId.toList] ++ last → t.remainder = remainderOf last[0]? →
      Pieces (pieces path) t := by
    intro last hlast hremainder
    rw [hlast]
    exact ⟨rfl, ⟨rfl, h.tenant.project⟩, rfl, ⟨rfl, h.tenant.resource⟩, hremainder⟩
  rcases h.tenant.remainder with hempty | ⟨c, cs, hcs⟩
  · rcases hending with rfl | ⟨-, rfl⟩
    · refine hpieces [] ?_ hempty
      rw [hcut [] (by simp [hempty]), List.append_nil, Text.splitAtMost_of_not_mem 1 hresource]
      rfl
    · refine hpieces [[]] ?_ hempty
      rw [hcut ['/'] (by simp [hempty]), Text.splitAtMost_append 0 hresource]
      rfl
  · obtain rfl : ending = [] := by
      rcases hending with rfl | ⟨hempty, -⟩
      · rfl
      · simp [hempty] at hcs
    refine hpieces [c :: cs] ?_ ?_
    · rw [hcut ('/' :: c :: cs) (by simp [hcs]), Text.splitAtMost_append 0 hresource]
      rfl
    · rw [← String.ofList_toList (s := t.remainder), hcs]
      rfl

/-- There are four pieces, and perhaps one more behind the resource. -/
theorem Pieces.eq_or {ps : List (List Char)} (h : Pieces ps t) (hlength : ps.length ≤ 5) :
    ps = ["projects".toList, t.projectId.toList, "resources".toList, t.resourceId.toList] ∧
      t.remainder = "" ∨
    ∃ rest, ps = ["projects".toList, t.projectId.toList, "resources".toList, t.resourceId.toList,
      rest] ∧ t.remainder = remainderOf (some rest) := by
  obtain ⟨h0, ⟨h1, -⟩, h2, ⟨h3, -⟩, h4⟩ := h
  rcases ps with _ | ⟨a, _ | ⟨b, _ | ⟨c, _ | ⟨d, _ | ⟨e, _ | ⟨f, fs⟩⟩⟩⟩⟩⟩
  · cases h0
  · cases h1
  · cases h2
  · cases h3
  · cases h0
    cases h1
    cases h2
    cases h3
    exact .inl ⟨rfl, h4⟩
  · cases h0
    cases h1
    cases h2
    cases h3
    exact .inr ⟨e, rfl, h4⟩
  · simp only [List.length_cons] at hlength
    omega

/-- **A path with the pieces of a tenant names it.** -/
theorem names_of_pieces (h : Pieces (pieces path) t) : Names path t := by
  obtain ⟨n, hn⟩ := exists_slashes path.toList
  have hjoin : joinWith '/' (pieces path) = path.toList.dropWhile (· == '/') :=
    Text.joinWith_splitAtMost '/' 4 _
  rw [← hjoin] at hn
  rcases h.eq_or (Text.length_splitAtMost_le '/' 4 _) with
    ⟨hpieces, hempty⟩ | ⟨rest, hpieces, hrest⟩
  · refine ⟨⟨h.project.2, h.resource.2, .inl hempty⟩, n, [], ?_, .inl rfl⟩
    rw [hn, hpieces, toList_text, hempty]
    simp [joinWith]
  · cases rest with
    | nil =>
      refine ⟨⟨h.project.2, h.resource.2, .inl hrest⟩, n, ['/'], ?_, .inr ⟨hrest, rfl⟩⟩
      rw [hn, hpieces, toList_text, hrest]
      simp [joinWith, remainderOf]
    | cons c cs =>
      have hremainder : t.remainder.toList = '/' :: c :: cs := by
        rw [hrest]
        exact String.toList_ofList
      refine ⟨⟨h.project.2, h.resource.2, .inr ⟨c, cs, hremainder⟩⟩, n, [], ?_, .inl rfl⟩
      rw [hn, hpieces, toList_text, hremainder]
      simp [joinWith]

theorem parse_eq_ok_iff_names : parse path = .ok t ↔ Names path t :=
  parse_iff_pieces.trans ⟨names_of_pieces, pieces_of_names⟩

/-- **The path of a tenant is read back.** -/
theorem names_text (h : t.IsTenant) : Names ("/" ++ t.text) t :=
  ⟨h, 1, [], by simp, .inl rfl⟩

/-! ## Reading -/

/-- **Reading a path finds the tenant that it names**, and refuses a path that names none.  What is
written for a tenant is read back, so no two tenants share a path. -/
theorem parse_iff_names :
    (∀ path t, parse path = .ok t ↔ Names path t) ∧
    (∀ path, (∀ t, ¬ Names path t) →
      ∃ d, parse path = .error d ∧ d.toFault.code = .invalidFormat) ∧
    (∀ t, parse ("/" ++ t.text) = .ok t ↔ t.IsTenant) ∧
    Set.InjOn (fun t => "/" ++ text t) {t | t.IsTenant} := by
  refine ⟨fun path t => parse_eq_ok_iff_names, fun path hnone => ?_, fun t => ?_, ?_⟩
  · cases hparse : parse path with
    | ok t => exact absurd (parse_eq_ok_iff_names.1 hparse) (hnone t)
    | error d => exact ⟨d, rfl, rfl⟩
  · rw [parse_eq_ok_iff_names]
    exact ⟨Names.tenant, names_text⟩
  · intro t ht u hu htext
    have hreadt := parse_eq_ok_iff_names.2 (names_text ht)
    have hreadu := parse_eq_ok_iff_names.2 (names_text hu)
    have hsame : "/" ++ t.text = "/" ++ u.text := htext
    rw [hsame, hreadu] at hreadt
    exact (Except.ok.inj hreadt).symm

/-- What stands behind a tenant may look like another one. -/
example : (parse "//projects/p1/resources/r1/projects/p2").toOption =
    some ⟨"p1", "r1", "/projects/p2"⟩ := by
  decide +kernel

end TenantPath

end TenantGuard
