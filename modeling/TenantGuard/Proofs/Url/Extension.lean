import TenantGuard.Url
import TenantGuard.Proofs.Url.Path
import Mathlib.Data.List.TakeWhile

/-!
# URLs that start alike

The first character that can end the host of a URL settles the scheme, the host and the port: what
follows it changes only the path and the query.

* `tidy_append`, `scheme?_append` and `withAuthority?_append` say this of the steps of the reader,
  for any text in front of such a character;
* `opening?` is what the text in front settles, and `parse?_append` the reader in terms of it;
* `exists_directory`: whatever is put behind the address of a directory is read as an address of the
  same host, and its path is resolved from this directory;
* `path_of_subdirectory`: names that are put behind it are added to its path.
-/

namespace TenantGuard.Url

/-! ## Runs of characters -/

section Runs

variable {α : Type} {p : α → Bool} {c : α}

theorem dropWhile_append_cons (hc : p c = false) (as bs : List α) :
    (as ++ c :: bs).dropWhile p = as.dropWhile p ++ c :: bs := by
  induction as with
  | nil => simp [hc]
  | cons a as ih =>
    rw [List.cons_append, List.dropWhile_cons, List.dropWhile_cons, ih]
    split <;> rfl

theorem takeWhile_append_cons (hc : p c = false) (as bs : List α) :
    (as ++ c :: bs).takeWhile p = as.takeWhile p := by
  induction as with
  | nil => simp [hc]
  | cons a as ih =>
    rw [List.cons_append, List.takeWhile_cons, List.takeWhile_cons, ih]

/-- What fails the test is never dropped. -/
theorem mem_dropWhile {a : α} {as : List α} (ha : a ∈ as) (hp : p a = false) :
    a ∈ as.dropWhile p := by
  rw [← List.takeWhile_append_dropWhile (p := p) (l := as)] at ha
  rcases List.mem_append.1 ha with ha | ha
  · have := List.mem_takeWhile_imp ha
    rw [hp] at this
    cases this
  · exact ha

end Runs

/-! ## Texts in front of a mark -/

/-- Blanks and controls, which do not count at the ends of a URL. -/
def isEdge (c : Char) : Bool := c.toNat ≤ 0x20

/-- Characters that count everywhere. -/
def isKept (c : Char) : Bool := c != '\t' && c != '\n' && c != '\r'

/-- The start of a URL without what does not count in it. -/
def tidyStart (cs : List Char) : List Char := (cs.dropWhile isEdge).filter isKept

/-- The end of a URL without what does not count in it. -/
def tidyEnd (cs : List Char) : List Char := (cs.reverse.dropWhile isEdge).reverse.filter isKept

theorem isKept_of_isEdge {c : Char} (h : isEdge c = false) : isKept c = true := by
  have hne : ∀ d : Char, isEdge d = true → c ≠ d := fun d hd hcd => by
    rw [hcd, hd] at h
    cases h
  simp [isKept, hne '\t' (by decide), hne '\n' (by decide), hne '\r' (by decide)]

theorem tidy_append {c : Char} (hc : isEdge c = false) (as bs : List Char) :
    tidy (as ++ c :: bs) = tidyStart as ++ c :: tidyEnd bs := by
  change (((as ++ c :: bs).dropWhile isEdge).reverse.dropWhile isEdge).reverse.filter isKept = _
  rw [dropWhile_append_cons hc, List.reverse_append, List.reverse_cons, List.append_assoc,
    List.singleton_append, dropWhile_append_cons hc, List.reverse_append, List.reverse_cons,
    List.reverse_reverse, List.append_assoc, List.singleton_append, List.filter_append,
    List.filter_cons_of_pos (isKept_of_isEdge hc)]
  rfl

theorem tidyEnd_append {c : Char} (hc : isEdge c = false) (as bs : List Char) :
    tidyEnd (as ++ c :: bs) = as.filter isKept ++ c :: tidyEnd bs := by
  rw [tidyEnd, List.reverse_append, List.reverse_cons, List.append_assoc, List.singleton_append,
    dropWhile_append_cons hc, List.reverse_append, List.reverse_cons, List.reverse_reverse,
    List.append_assoc, List.singleton_append, List.filter_append,
    List.filter_cons_of_pos (isKept_of_isEdge hc)]
  rfl

/-! ## The scheme -/

theorem cut_append {mark c : Char} (hc : c ≠ mark) (as bs : List Char) :
    Text.cut mark (as ++ c :: bs) =
      match Text.cut mark as with
      | (before, some after) => (before, some (after ++ c :: bs))
      | (before, none) => (before ++ c :: (Text.cut mark bs).1, (Text.cut mark bs).2) := by
  induction as with
  | nil => simp [Text.cut, hc]
  | cons a as ih =>
    by_cases ha : a = mark
    · simp [Text.cut, ha]
    · simp only [List.cons_append, Text.cut, if_neg ha, ih]
      cases Text.cut mark as with
      | mk before after => cases after <;> rfl

/-- A character that is not in any scheme and ends none. -/
def isBehindScheme (c : Char) : Bool := !c.isAlpha && !isSchemeChar c && c != ':'

theorem scheme?_append {c : Char} (hc : isBehindScheme c = true) (as bs : List Char) :
    scheme? (as ++ c :: bs) =
      (scheme? as).map fun (scheme, rest) => (scheme, rest ++ c :: bs) := by
  simp only [isBehindScheme, Bool.and_eq_true, Bool.not_eq_true', bne_iff_ne] at hc
  obtain ⟨⟨halpha, hchar⟩, hcolon⟩ := hc
  rw [scheme?, scheme?, cut_append hcolon]
  rcases hcut : Text.cut ':' as with ⟨before, _ | after⟩
  · -- Without a colon the character is part of what stands before the next one.
    cases before with
    | nil => cases (Text.cut ':' bs).2 <;> simp [halpha]
    | cons d name => cases (Text.cut ':' bs).2 <;> simp [hchar]
  · cases before with
    | nil => rfl
    | cons d name =>
      dsimp only
      split <;> rfl

/-- The scheme is read off the start of the text, and nothing of the rest is lost. -/
theorem mem_rest_of_scheme? {as scheme rest : List Char} (h : scheme? as = some (scheme, rest)) :
    (∀ c ∈ rest, c ∈ as) ∧ ∀ c ∈ as, isBehindScheme c = true → c ∈ rest := by
  unfold scheme? at h
  split at h
  next d name after hcut =>
    split at h
    next hname =>
      cases h
      have happend := Text.cut_append ':' as
      rw [hcut] at happend
      simp only [Option.elim_some] at happend
      refine ⟨fun c hc => ?_, fun c hc hbehind => ?_⟩
      · rw [← happend]
        simp [hc]
      · simp only [isBehindScheme, Bool.and_eq_true, Bool.not_eq_true', bne_iff_ne] at hbehind
        obtain ⟨⟨halpha, hchar⟩, hcolon⟩ := hbehind
        rw [← happend] at hc
        simp only [List.cons_append, List.mem_cons, List.mem_append] at hc
        rcases hc with rfl | hc | rfl | hc
        · rw [hname.1] at halpha
          cases halpha
        · rw [List.all_eq_true.1 hname.2 c hc] at hchar
          cases hchar
        · exact absurd rfl hcolon
        · exact hc
    · cases h
  · cases h

/-! ## The host -/

theorem mem_of_cutHost : ∀ (inside : Bool) (cs : List Char),
    ∀ c ∈ (cutHost inside cs).2.getD [], c ∈ cs
  | _, [], c, hc => by simp [cutHost] at hc
  | inside, d :: cs, c, hc => by
    unfold cutHost at hc
    split at hc
    · exact List.mem_cons_of_mem d hc
    · exact List.mem_cons_of_mem d (mem_of_cutHost _ cs c hc)

theorem mem_of_cutLast {mark : Char} {cs before after : List Char}
    (h : Text.cutLast mark cs = some (before, after)) : ∀ c ∈ after, c ∈ cs := by
  unfold Text.cutLast at h
  split at h
  next back front hcut =>
    cases h
    have happend := Text.cut_append mark cs.reverse
    rw [hcut] at happend
    intro c hc
    rw [← List.mem_reverse, ← happend]
    exact List.mem_append_left _ (List.mem_reverse.1 hc)
  · cases h

theorem mem_of_dropCredentials? {authority rest : List Char} {isEnd : Bool}
    (h : dropCredentials? authority isEnd = some rest) : ∀ c ∈ rest, c ∈ authority := by
  unfold dropCredentials? at h
  split at h
  · cases h
    exact fun _ hc => hc
  next hcut =>
    split at h
    · cases h
    · cases h
      exact mem_of_cutLast hcut

theorem mem_of_host? {special : Bool} {cs behind : List Char} {host : Host}
    (h : host? special cs = some (host, behind)) : ∀ c ∈ behind, c ∈ cs := by
  rcases hcut : cutHost false cs with ⟨front, after⟩
  have hmem := mem_of_cutHost false cs
  rw [hcut] at hmem
  simp only [host?, hcut] at h
  split at h
  · cases h
  split at h
  · obtain ⟨_, -, h⟩ := Option.bind_eq_some_iff.1 h
    cases h
    exact hmem
  · obtain ⟨_, -, h⟩ := Option.bind_eq_some_iff.1 h
    cases h
    exact hmem

/-- **What the text in front of the path settles.** -/
structure Opening where
  scheme : List Char
  host : Host
  portNumber : Option Nat
  /-- What it holds of the path. -/
  path : List Char

/-- The host and the port, from what follows the slashes behind a scheme of the web. -/
def openingFrom? (scheme cs : List Char) : Option Opening := do
  let (authority, path) := breakAt (endsAuthority true) cs
  let (host, digits) ← host? true (← dropCredentials? authority false)
  return { scheme, host, portNumber := ← portNumber? digits, path }

/-- What the start of a URL of the web settles. -/
def opening? (cs : List Char) : Option Opening := do
  let (scheme, rest) ← scheme? cs
  openingFrom? scheme (rest.dropWhile (Path.isSeparator true))

/-- The URL that an opening begins. -/
def Opening.url (o : Opening) (cs : List Char) : Url :=
  { scheme := o.scheme, host := some o.host, portNumber := o.portNumber
    path := (pathAndQuery true (o.path ++ cs)).1, query := (pathAndQuery true (o.path ++ cs)).2 }

/-- **A character that ends the host settles it.** -/
theorem withAuthority?_append {scheme : List Char} {c : Char} (hscheme : isSpecial scheme = true)
    (hc : endsAuthority true c = true) (as bs : List Char) :
    withAuthority? scheme (as ++ c :: bs) =
      (openingFrom? scheme as).map (·.url (c :: bs)) := by
  have hbreak : breakAt (endsAuthority true) (as ++ c :: bs) =
      ((breakAt (endsAuthority true) as).1, (breakAt (endsAuthority true) as).2 ++ c :: bs) := by
    rw [breakAt, takeWhile_append_cons (by simp [hc]), dropWhile_append_cons (by simp [hc])]
    rfl
  simp only [withAuthority?, openingFrom?, hscheme, hbreak]
  have hend : ((breakAt (endsAuthority true) as).2 ++ c :: bs).isEmpty = false := by simp
  rw [hend]
  cases hcred : dropCredentials? (breakAt (endsAuthority true) as).1 false with
  | none => rfl
  | some named =>
    simp only [Option.bind_eq_bind, Option.bind_some]
    cases hhost : host? true named with
    | none => rfl
    | some found =>
      obtain ⟨host, behind⟩ := found
      -- A backslash ends the host as well, so none is left behind it.
      have hnone : ∀ d ∈ behind, (d == '\\') = false := by
        intro d hd
        have hauthority := mem_of_dropCredentials? hcred d (mem_of_host? hhost d hd)
        have hends := List.mem_takeWhile_imp hauthority
        rw [beq_eq_false_iff_ne]
        rintro rfl
        revert hends
        decide
      have hdigits : breakAt (· == '\\') behind = (behind, []) := by
        have hall : ∀ d ∈ behind, (!(d == '\\')) = true := fun d hd => by rw [hnone d hd]; rfl
        rw [breakAt, List.takeWhile_eq_self_iff.2 hall, List.dropWhile_eq_nil_iff.2 hall]
      simp only [Option.bind_some, hdigits, List.nil_append]
      cases portNumber? behind <;> rfl

theorem scheme_of_openingFrom? {scheme cs : List Char} {o : Opening}
    (h : openingFrom? scheme cs = some o) :
    o.scheme = scheme ∧ o.path = (breakAt (endsAuthority true) cs).2 := by
  simp only [openingFrom?, Option.bind_eq_bind, Option.bind_eq_some_iff] at h
  obtain ⟨_, -, _, -, _, -, h⟩ := h
  cases h
  exact ⟨rfl, rfl⟩

theorem openingFrom?_nil (scheme : List Char) : openingFrom? scheme [] = none := by
  simp [openingFrom?, breakAt, dropCredentials?, Text.cutLast, Text.cut, host?, cutHost]

/-! ## Reading -/

/-- **A URL of the web**, which names a host. -/
structure IsWeb (u : Url) : Prop where
  special : isSpecial u.scheme = true
  notFile : u.scheme ≠ "file".toList

theorem of_endsAuthority {c : Char} (h : endsAuthority true c = true) :
    isEdge c = false ∧ isBehindScheme c = true := by
  simp only [endsAuthority, Path.isSeparator, Bool.true_and, Bool.or_eq_true, beq_iff_eq] at h
  rcases h with ((rfl | rfl) | rfl) | rfl <;> decide

/-- **What extends an opening is read as an address of its host.** -/
theorem parse?_append {as : List Char} {c : Char} {o : Opening}
    (hopen : opening? (tidyStart as) = some o) (hspecial : isSpecial o.scheme = true)
    (hfile : o.scheme ≠ "file".toList) (hc : endsAuthority true c = true) {s : String}
    {bs : List Char} (hs : s.toList = as ++ c :: bs) :
    parse? s = some (o.url (c :: tidyEnd bs)) := by
  obtain ⟨hedge, hbehind⟩ := of_endsAuthority hc
  simp only [opening?, Option.bind_eq_bind, Option.bind_eq_some_iff] at hopen
  obtain ⟨⟨scheme, rest⟩, hscheme, hfrom⟩ := hopen
  dsimp only at hfrom
  obtain ⟨rfl, -⟩ := scheme_of_openingFrom? hfrom
  have hne : (rest.dropWhile (Path.isSeparator true)).isEmpty = false := by
    cases hrest : rest.dropWhile (Path.isSeparator true) with
    | nil =>
      rw [hrest, openingFrom?_nil] at hfrom
      cases hfrom
    | cons d ds => rfl
  have hdrop : (rest ++ c :: tidyEnd bs).dropWhile (Path.isSeparator true) =
      rest.dropWhile (Path.isSeparator true) ++ c :: tidyEnd bs := by
    rw [List.dropWhile_append, hne, if_neg Bool.false_ne_true]
  rw [parse?, hs, tidy_append hedge, scheme?_append hbehind, hscheme]
  simp only [Option.map_some, Option.bind_eq_bind, Option.bind_some, if_neg hfile, hspecial,
    if_true, hdrop, withAuthority?_append hspecial hc, hfrom]

theorem scheme_of_file? {cs : List Char} {u : Url} (h : file? cs = some u) :
    u.scheme = "file".toList := by
  unfold file? at h
  dsimp only at h
  split at h
  · split at h
    · split at h
      · cases h
        rfl
      split at h
      · cases h
        rfl
      · obtain ⟨_, -, h⟩ := Option.map_eq_some_iff.1 h
        cases h
        rfl
    · cases h
      rfl
  · cases h
    rfl

theorem scheme_of_withAuthority? {scheme cs : List Char} {u : Url}
    (h : withAuthority? scheme cs = some u) : u.scheme = scheme := by
  simp only [withAuthority?, Option.bind_eq_bind, Option.bind_eq_some_iff] at h
  obtain ⟨_, -, _, -, _, -, h⟩ := h
  cases h
  rfl

/-- **A directory on the web has an opening.** -/
theorem exists_opening {as : List Char} {s : String} {u : Url} (hs : s.toList = as ++ ['/'])
    (hparse : parse? s = some u) (hweb : u.IsWeb) :
    ∃ o, opening? (tidyStart as) = some o ∧ u = o.url ['/'] := by
  rw [parse?, hs, tidy_append (by decide), scheme?_append (by decide)] at hparse
  cases hscheme : scheme? (tidyStart as) with
  | none => simp [hscheme] at hparse
  | some found =>
    obtain ⟨scheme, rest⟩ := found
    simp only [hscheme, Option.map_some, Option.bind_eq_bind, Option.bind_some] at hparse
    split at hparse
    · exact absurd (scheme_of_file? hparse) hweb.notFile
    split at hparse
    next hspecial =>
      rw [List.dropWhile_append] at hparse
      split at hparse
      · -- Slashes alone name no host.
        rw [show ('/' :: tidyEnd []).dropWhile (Path.isSeparator true) = [] ++ [] from rfl] at hparse
        simp [withAuthority?, breakAt, dropCredentials?, Text.cutLast, Text.cut, host?, cutHost,
          hspecial] at hparse
      · rw [withAuthority?_append hspecial (by decide)] at hparse
        obtain ⟨o, hfrom, rfl⟩ := Option.map_eq_some_iff.1 hparse
        refine ⟨o, ?_, rfl⟩
        simp only [opening?, hscheme, Option.bind_eq_bind, Option.bind_some, hfrom]
    next hspecial =>
      have hother : u.scheme = scheme := by
        split at hparse
        · exact scheme_of_withAuthority? hparse
        · cases hparse
          rfl
        · cases hparse
          rfl
      rw [← hother] at hspecial
      exact absurd hweb.special hspecial

/-! ## Paths -/

/-- A character that ends the path of a URL. -/
def isMark (c : Char) : Bool := c == '?' || c == '#'

theorem endsAuthority_of_isMark {c : Char} (h : isMark c = true) : endsAuthority true c = true := by
  simp only [isMark, Bool.or_eq_true, beq_iff_eq] at h
  rcases h with rfl | rfl <;> decide

/-- What an opening holds of the path begins behind the host, and nothing that ends a path is lost
before it. -/
theorem path_of_opening? {as : List Char} {o : Opening} (h : opening? (tidyStart as) = some o) :
    (∀ c ∈ o.path, c ∈ as) ∧ (∀ c ∈ as, isMark c = true → c ∈ o.path) ∧
      ∀ c ∈ o.path.head?, endsAuthority true c = true := by
  simp only [opening?, Option.bind_eq_bind, Option.bind_eq_some_iff] at h
  obtain ⟨⟨scheme, rest⟩, hscheme, hfrom⟩ := h
  obtain ⟨-, hpath⟩ := scheme_of_openingFrom? hfrom
  obtain ⟨hback, hforth⟩ := mem_rest_of_scheme? hscheme
  rw [hpath, breakAt]
  refine ⟨fun c hc => ?_, fun c hc hmark => ?_, fun c hc => ?_⟩
  · have hrest := (List.dropWhile_sublist _).subset ((List.dropWhile_sublist _).subset hc)
    exact (List.dropWhile_sublist _).subset (List.mem_filter.1 (hback c hrest)).1
  · obtain ⟨hedge, hbehind⟩ := of_endsAuthority (endsAuthority_of_isMark hmark)
    have htidy : c ∈ tidyStart as :=
      List.mem_filter.2 ⟨mem_dropWhile hc hedge, isKept_of_isEdge hedge⟩
    have hseparator : Path.isSeparator true c = false := by
      simp only [isMark, Bool.or_eq_true, beq_iff_eq] at hmark
      rcases hmark with rfl | rfl <;> decide
    exact mem_dropWhile (mem_dropWhile (hforth c htidy hbehind) hseparator)
      (by simp [endsAuthority_of_isMark hmark])
  · have hhead := List.head?_dropWhile_not (fun c => !endsAuthority true c)
      (rest.dropWhile (Path.isSeparator true))
    rw [Option.mem_def.1 hc] at hhead
    simpa using hhead

/-- What a text says of the path that it goes on with. -/
def pathText (cs : List Char) : List Char := (tidyEnd cs).takeWhile (!isMark ·)

theorem pathText_append (as bs : List Char) :
    pathText (as ++ '?' :: bs) = (as.filter isKept).takeWhile (!isMark ·) := by
  rw [pathText, tidyEnd_append (by decide), takeWhile_append_cons (by decide)]

theorem fst_pathAndQuery (special : Bool) (cs : List Char) :
    (pathAndQuery special cs).1 = Path.normalize special (cs.takeWhile (!isMark ·)) := rfl

/-- The segments behind a host. -/
def frontSegments : List Char → List (List Char)
  | [] => []
  | _ :: cs => Path.segments (Path.isSeparator true) cs

/-- **The directory that a path begins with.** -/
def directory (front : List Char) : List (List Char) := (Path.way (frontSegments front)).down.reverse

theorem foldl_enter_frontSegments (front : List Char) :
    (frontSegments front).foldl Path.enter [] = (directory front).reverse := by
  have honto := Path.Way.onto_foldl (frontSegments front) ⟨0, []⟩ []
  simp only [Path.Way.onto, List.drop_nil, List.append_nil] at honto
  rw [← honto, directory, List.reverse_reverse]
  rfl

theorem slash_not_mem_directory {front n : List Char} (h : n ∈ directory front) : '/' ∉ n := by
  rcases Path.Way.mem_down_foldl _ (List.mem_reverse.1 h) with h | h
  · intro hslash
    cases front with
    | nil => simp [frontSegments] at h
    | cons c cs =>
      have := Path.eq_false_of_mem_segments h '/' hslash
      simp [Path.isSeparator] at this
  · simp at h

section Front

variable {front : List Char} (hplain : ∀ c ∈ front, isMark c = false)
  (hhead : ∀ c ∈ front.head?, Path.isSeparator true c = true)
include hplain hhead

/-- **Behind a directory** the path is resolved from it. -/
theorem path_behind_slash (cs : List Char) : (pathAndQuery true (front ++ '/' :: cs)).1 =
    Path.text (Path.resolveFrom (directory front).reverse
      (Path.segments (Path.isSeparator true) (cs.takeWhile (!isMark ·)))) := by
  have hall : ∀ c ∈ front, (!isMark c) = true := fun c hc => by rw [hplain c hc]; rfl
  have htake : (front ++ '/' :: cs).takeWhile (!isMark ·) =
      front ++ '/' :: cs.takeWhile (!isMark ·) := by
    rw [List.takeWhile_append_of_pos hall, List.takeWhile_cons_of_pos (by decide)]
  rw [fst_pathAndQuery, htake, ← foldl_enter_frontSegments]
  cases front with
  | nil => rfl
  | cons c rest =>
    rw [List.cons_append, Path.normalize, if_pos (hhead c rfl),
      Path.segments_append (by decide), Path.resolve,
      Path.resolveFrom_append _ _ (Path.segments_ne_nil _ _)]
    rfl

/-- Where the path ends with a directory, it is that directory's. -/
theorem path_before_mark {c : Char} (hc : isMark c = true) (cs : List Char) :
    Path.Below (Path.text (directory front)) (pathAndQuery true (front ++ c :: cs)).1 := by
  have htake : (front ++ c :: cs).takeWhile (!isMark ·) = front := by
    have hall : ∀ c ∈ front, (!isMark c) = true := fun c hc => by rw [hplain c hc]; rfl
    rw [List.takeWhile_append_of_pos hall, List.takeWhile_cons_of_neg (by simp [hc]),
      List.append_nil]
  rw [fst_pathAndQuery, htake]
  cases front with
  | nil => exact ⟨['/'], rfl, .inr ⟨[], rfl⟩⟩
  | cons d rest =>
    have hresolve : Path.normalize true (d :: rest) =
        Path.text (directory (d :: rest) ++ Path.ending (frontSegments (d :: rest))) := by
      rw [Path.normalize, if_pos (hhead d rfl), Path.resolve, Path.resolveFrom_eq]
      change Path.text (((frontSegments (d :: rest)).foldl Path.enter []).reverse ++ _) = _
      rw [foldl_enter_frontSegments, List.reverse_reverse]
      rfl
    rw [hresolve, Path.text_eq, Path.text_eq, List.map_append, Path.joined_append]
    exact ⟨_, rfl, Path.joined_eq_nil_or _⟩

end Front

/-- Behind a mark nothing counts for the path. -/
theorem path_of_mark {front : List Char} (hmark : ∃ c ∈ front, isMark c = true)
    (cs ds : List Char) :
    (pathAndQuery true (front ++ cs)).1 = (pathAndQuery true (front ++ ds)).1 := by
  have hshort : (front.takeWhile (!isMark ·)).length ≠ front.length := by
    intro heq
    obtain ⟨c, hc, hmark⟩ := hmark
    have hall := List.takeWhile_eq_self_iff.1
      ((List.takeWhile_prefix (!isMark ·)).eq_of_length heq) c hc
    simp [hmark] at hall
  rw [fst_pathAndQuery, fst_pathAndQuery, List.takeWhile_append, List.takeWhile_append,
    if_neg hshort, if_neg hshort]

/-! ## Extensions -/

/-- A text as it stands in a path, its segments left as they are. -/
def asWritten (cs : List Char) : List Char :=
  (cs.filter isKept).flatMap fun c => if Path.isSeparator true c then ['/'] else Path.encodeChar c

/-- A text of the path's own characters stands in it as it is. -/
theorem asWritten_eq_self {cs : List Char}
    (h : ∀ c ∈ cs, Path.isEncoded c = false ∧ c ≠ '\\') : asWritten cs = cs := by
  have hkept : cs.filter isKept = cs := List.filter_eq_self.2 fun c hc => by
    have hencoded := (h c hc).1
    simp only [Path.isEncoded, Bool.or_eq_false_iff] at hencoded
    exact isKept_of_isEdge hencoded.1.1.1.1.1.1.1.1.1.1
  have hwritten : ∀ c ∈ cs, (if Path.isSeparator true c then ['/'] else Path.encodeChar c) = [c] := by
    intro c hc
    obtain ⟨hencoded, hback⟩ := h c hc
    by_cases hslash : c = '/'
    · rw [hslash]
      rfl
    · simp [Path.isSeparator, hslash, hback, Path.encodeChar, hencoded]
  rw [asWritten, hkept, List.flatMap_congr hwritten, List.flatMap_singleton']

/-- Two URLs of one host. -/
structure SameHost (u v : Url) : Prop where
  scheme : u.scheme = v.scheme
  host : u.host = v.host
  portNumber : u.portNumber = v.portNumber

/-- **What extends the address of a directory.**  It is an address of the same host, and its path is
resolved from the directory; a path that ends in front of the directory's slash ends below
it, too. -/
theorem exists_directory {as : List Char} {s : String} {d : Url} (hs : s.toList = as ++ ['/'])
    (hparse : parse? s = some d) (hweb : d.IsWeb) (hplain : ∀ c ∈ as, isMark c = false) :
    ∃ dirs : List (List Char), (∀ n ∈ dirs, '/' ∉ n) ∧ d.path = Path.text dirs ++ ['/'] ∧
      (∀ (s' : String) (bs : List Char), s'.toList = as ++ '/' :: bs → ∃ u, parse? s' = some u ∧
        u.SameHost d ∧ u.path = Path.text (Path.resolveFrom dirs.reverse
          (Path.segments (Path.isSeparator true) (pathText bs)))) ∧
      ∀ (s' : String) (bs : List Char), s'.toList = as ++ '?' :: bs → ∃ u, parse? s' = some u ∧
        u.SameHost d ∧ Path.Below (Path.text dirs) u.path := by
  obtain ⟨o, hopen, rfl⟩ := exists_opening hs hparse hweb
  obtain ⟨hmem, -, hhead⟩ := path_of_opening? hopen
  have hfront : ∀ c ∈ o.path, isMark c = false := fun c hc => hplain c (hmem c hc)
  have hseparator : ∀ c ∈ o.path.head?, Path.isSeparator true c = true := fun c hc => by
    have hends := hhead c hc
    have hmark := hfront c (List.mem_of_mem_head? hc)
    simp only [isMark, Bool.or_eq_false_iff] at hmark
    simpa only [endsAuthority, hmark.1, hmark.2, Bool.or_false] using hends
  refine ⟨directory o.path, fun n hn => slash_not_mem_directory hn, ?_, fun s' bs hs' => ?_,
    fun s' bs hs' => ?_⟩
  · have hpath := path_behind_slash hfront hseparator []
    have hhere : Path.text (Path.resolveFrom (directory o.path).reverse ([] ++ [[]])) =
        Path.text (directory o.path) ++ [] ++ ['/'] :=
      Path.text_resolveFrom_of_names _ (List.forall_mem_nil _)
    rw [List.append_nil] at hhere
    exact hpath.trans hhere
  · exact ⟨_, parse?_append hopen hweb.special hweb.notFile (by decide) hs', ⟨rfl, rfl, rfl⟩,
      path_behind_slash hfront hseparator (tidyEnd bs)⟩
  · exact ⟨_, parse?_append hopen hweb.special hweb.notFile (by decide) hs', ⟨rfl, rfl, rfl⟩,
      path_before_mark hfront hseparator (by decide) (tidyEnd bs)⟩

/-- **Names behind a directory** name a directory below it. -/
theorem path_of_subdirectory {as cs : List Char} {s s' : String} {root d : Url}
    (hs : s.toList = as ++ ['/']) (hroot : parse? s = some root) (hweb : root.IsWeb)
    (hplain : ∀ c ∈ as, isMark c = false) (hcs : ∀ c ∈ cs, isMark c = false)
    (hs' : s'.toList = as ++ '/' :: (cs ++ ['/'])) (hd : parse? s' = some d)
    (hnames : ∀ n ∈ Path.segments (Path.isSeparator true) (cs.filter isKept),
      Path.isDot n = false) :
    d.path = root.path.dropLast ++ asWritten ('/' :: cs) ++ ['/'] := by
  obtain ⟨dirs, -, hdir, hbehind, -⟩ := exists_directory hs hroot hweb hplain
  obtain ⟨u, hu, -, hpath⟩ := hbehind s' (cs ++ ['/']) hs'
  rw [hd] at hu
  cases hu
  have hkept : ∀ c ∈ cs.filter isKept, (!isMark c) = true := fun c hc => by
    rw [hcs c (List.mem_filter.1 hc).1]
    rfl
  have htext : pathText (cs ++ ['/']) = cs.filter isKept ++ ['/'] := by
    rw [pathText, tidyEnd_append (by decide), List.takeWhile_append_of_pos hkept]
    rfl
  have hsegments : Path.segments (Path.isSeparator true) (cs.filter isKept ++ ['/']) =
      Path.segments (Path.isSeparator true) (cs.filter isKept) ++ [[]] :=
    Path.segments_append (by decide) _ _
  have hwritten : Path.text (Path.segments (Path.isSeparator true) (cs.filter isKept)) =
      asWritten ('/' :: cs) := Path.flatMap_segments _ _ _
  rw [hpath, htext, hsegments, Path.text_resolveFrom_of_names dirs hnames, hwritten, hdir,
    List.dropLast_concat]

/-- **A directory's address that holds a mark has one path only**, whatever extends it. -/
theorem path_of_marked_directory {as : List Char} {s : String} {d : Url}
    (hs : s.toList = as ++ ['/']) (hparse : parse? s = some d) (hweb : d.IsWeb)
    (hmark : ∃ c ∈ as, isMark c = true) {c : Char} (hc : endsAuthority true c = true) {s' : String}
    {bs : List Char} (hs' : s'.toList = as ++ c :: bs) :
    ∃ u, parse? s' = some u ∧ u.SameHost d ∧ u.path = d.path := by
  obtain ⟨o, hopen, rfl⟩ := exists_opening hs hparse hweb
  obtain ⟨-, hkept, -⟩ := path_of_opening? hopen
  obtain ⟨m, hm, hmark⟩ := hmark
  exact ⟨_, parse?_append hopen hweb.special hweb.notFile hc hs', ⟨rfl, rfl, rfl⟩,
    path_of_mark ⟨m, hkept m hm hmark, hmark⟩ _ _⟩

end TenantGuard.Url
