import TenantGuard.Url.Path
import Mathlib.Data.List.Basic

/-!
# Where a path leads

Resolving dot segments is walking along the segments: a name goes down, a double dot up.  Seen from
where a walk starts, all that matters is how far it ever climbs above that place and what it goes
down to afterwards, and neither depends on the place.

* `enter` takes one segment, and `resolveFrom_eq` says that resolving is taking them one by one;
* `way` walks without knowing the place; `ascent` and `descent` are what it comes to, and
  `resolveFrom_reverse` puts them on top of any place;
* `joined` writes names as a path and `names` reads them back; `Below` is the relation of a path to
  a directory above it;
* `leads_resolveFrom`: a walk ends below the place where it started exactly if it goes down the
  names again that it climbed.
-/

namespace TenantGuard.Url.Path

/-! ## Segments -/

variable {p : Char → Bool} {c : Char} {s : List Char} {ss dirs : List (List Char)}

theorem segments_ne_nil (p : Char → Bool) (cs : List Char) : segments p cs ≠ [] := by
  cases cs with
  | nil => simp [segments]
  | cons c cs =>
    simp only [segments]
    split
    · simp
    · split <;> simp

/-- A separator divides the segments before it from those behind it. -/
theorem segments_append (hc : p c = true) (cs ds : List Char) :
    segments p (cs ++ c :: ds) = segments p cs ++ segments p ds := by
  induction cs with
  | nil => simp [segments, hc]
  | cons b cs ih =>
    simp only [List.cons_append, segments, ih]
    split
    · rfl
    · cases hs : segments p cs with
      | nil => exact absurd hs (segments_ne_nil p cs)
      | cons s rest => rfl

theorem segments_of_forall {cs : List Char} (h : ∀ c ∈ cs, p c = false) : segments p cs = [cs] := by
  induction cs with
  | nil => rfl
  | cons c cs ih =>
    have hc := h c List.mem_cons_self
    simp [segments, hc, ih fun d hd => h d (List.mem_cons_of_mem c hd)]

/-- No segment holds a separator. -/
theorem eq_false_of_mem_segments {cs : List Char} (hs : s ∈ segments p cs) :
    ∀ c ∈ s, p c = false := by
  induction cs generalizing s with
  | nil => simp_all [segments]
  | cons b cs ih =>
    simp only [segments] at hs
    split at hs
    · rcases List.mem_cons.1 hs with rfl | hs
      · simp
      · exact ih hs
    next hb =>
      split at hs
      next hnil => exact absurd hnil (segments_ne_nil p cs)
      next first rest hcons =>
        rcases List.mem_cons.1 hs with rfl | hs
        · have hfirst := ih (hcons ▸ List.mem_cons_self)
          simpa [hb] using hfirst
        · exact ih (hcons ▸ List.mem_cons_of_mem _ hs)

/-- Segments that are written one by one are the text written character by character. -/
theorem flatMap_segments (p : Char → Bool) (f : Char → List Char) (cs : List Char) :
    (segments p cs).flatMap (fun s => '/' :: s.flatMap f) =
      '/' :: cs.flatMap fun c => if p c then ['/'] else f c := by
  induction cs with
  | nil => rfl
  | cons c cs ih =>
    simp only [segments, List.flatMap_cons]
    split
    next hc => simp [ih]
    next hc =>
      cases hs : segments p cs with
      | nil => exact absurd hs (segments_ne_nil p cs)
      | cons s rest =>
        rw [hs, List.flatMap_cons, List.cons_append] at ih
        simp [List.cons.inj ih]

/-! ## Walking -/

/-- A segment that is no name. -/
def isDot (s : List Char) : Bool := isUp s || isHere s

/-- **Takes one segment**, from the segments before it, the last one first. -/
def enter (above : List (List Char)) (s : List Char) : List (List Char) :=
  if isUp s then above.tail else if isHere s then above else s :: above

/-- What is left of the last segment if it is no name. -/
def ending (ss : List (List Char)) : List (List Char) :=
  if ss.getLast?.any isDot then [[]] else []

/-- **Resolving is taking segment by segment.** -/
theorem resolveFrom_eq (above ss : List (List Char)) :
    resolveFrom above ss = (ss.foldl enter above).reverse ++ ending ss := by
  fun_induction resolveFrom above ss with
  | case1 above => simp [ending]
  | case2 above s hup => simp [ending, enter, isDot, hup]
  | case3 above s hup hhere => simp [ending, enter, isDot, hup, hhere]
  | case4 above s hup hhere => simp [ending, enter, isDot, hup, hhere]
  | case5 above s rest hne hup ih =>
    cases rest with
    | nil => simp at hne
    | cons r rest => simpa [ending, enter, hup] using ih
  | case6 above s rest hne hup hhere ih =>
    cases rest with
    | nil => simp at hne
    | cons r rest => simpa [ending, enter, hup, hhere] using ih
  | case7 above s rest hne hup hhere ih =>
    cases rest with
    | nil => simp at hne
    | cons r rest => simpa [ending, enter, hup, hhere] using ih

theorem ending_append (ss : List (List Char)) {tt : List (List Char)} (h : tt ≠ []) :
    ending (ss ++ tt) = ending tt := by
  rw [ending, ending, List.getLast?_append_of_ne_nil ss h]

theorem resolveFrom_append (above ss : List (List Char)) {tt : List (List Char)} (h : tt ≠ []) :
    resolveFrom above (ss ++ tt) = resolveFrom (ss.foldl enter above) tt := by
  rw [resolveFrom_eq, resolveFrom_eq, List.foldl_append, ending_append ss h]

/-- Names alone are just put on top. -/
theorem foldl_enter_of_names (above : List (List Char)) (h : ∀ s ∈ ss, isDot s = false) :
    ss.foldl enter above = ss.reverse ++ above := by
  induction ss generalizing above with
  | nil => rfl
  | cons s ss ih =>
    have hs := h s List.mem_cons_self
    simp only [isDot, Bool.or_eq_false_iff] at hs
    have henter : enter above s = s :: above := by simp [enter, hs]
    rw [List.foldl_cons, henter, ih _ fun t ht => h t (List.mem_cons_of_mem s ht)]
    simp

/-- **A walk**, seen from where it started. -/
structure Way where
  /-- How far it climbed above that place. -/
  ups : Nat
  /-- The names that it went down since, the last one first. -/
  down : List (List Char)

namespace Way

/-- Takes one segment. -/
def enter (w : Way) (s : List Char) : Way :=
  if isUp s then
    match w.down with
    | [] => ⟨w.ups + 1, []⟩
    | _ :: down => ⟨w.ups, down⟩
  else if isHere s then w
  else ⟨w.ups, s :: w.down⟩

/-- The segments before the next one, given those before the place. -/
def onto (w : Way) (place : List (List Char)) : List (List Char) := w.down ++ place.drop w.ups

theorem onto_enter (w : Way) (place : List (List Char)) (s : List Char) :
    (w.enter s).onto place = Path.enter (w.onto place) s := by
  unfold enter Path.enter
  split
  · split
    next hnil => simp [onto, hnil]
    next hcons => simp [onto, hcons]
  split
  · rfl
  · rfl

theorem onto_foldl (ss : List (List Char)) (w : Way) (place : List (List Char)) :
    (ss.foldl enter w).onto place = ss.foldl Path.enter (w.onto place) := by
  induction ss generalizing w with
  | nil => rfl
  | cons s ss ih => rw [List.foldl_cons, List.foldl_cons, ih, onto_enter]

/-- A walk is only ever at names that it was given. -/
theorem mem_down_enter {w : Way} {s t : List Char} (h : t ∈ (w.enter s).down) :
    t = s ∨ t ∈ w.down := by
  unfold enter at h
  split at h
  · split at h
    · simp at h
    next hcons => exact .inr (hcons ▸ List.mem_cons_of_mem _ h)
  split at h
  · exact .inr h
  · exact List.mem_cons.1 h

theorem mem_down_foldl {t : List Char} (ss : List (List Char)) {w : Way}
    (h : t ∈ (ss.foldl enter w).down) : t ∈ ss ∨ t ∈ w.down := by
  induction ss generalizing w with
  | nil => exact .inr h
  | cons s ss ih =>
    rcases ih h with h | h
    · exact .inl (List.mem_cons_of_mem s h)
    · rcases mem_down_enter h with rfl | h
      · exact .inl List.mem_cons_self
      · exact .inr h

theorem ups_foldl {w : Way} (h : ∀ s ∈ ss, isUp s = false) : (ss.foldl enter w).ups = w.ups := by
  induction ss generalizing w with
  | nil => rfl
  | cons s ss ih =>
    have hs : (w.enter s).ups = w.ups := by
      rw [enter, if_neg (by simp [h s List.mem_cons_self])]
      split <;> rfl
    rw [List.foldl_cons, ih fun t ht => h t (List.mem_cons_of_mem s ht), hs]

end Way

/-- **Where segments lead.** -/
def way (ss : List (List Char)) : Way := ss.foldl Way.enter ⟨0, []⟩

/-- How far segments climb above the place where they start. -/
def ascent (ss : List (List Char)) : Nat := (way ss).ups

/-- What they go down to from there. -/
def descent (ss : List (List Char)) : List (List Char) := (way ss).down.reverse ++ ending ss

/-- **Where segments lead from a directory.** -/
theorem resolveFrom_reverse (dirs ss : List (List Char)) :
    resolveFrom dirs.reverse ss = dirs.take (dirs.length - ascent ss) ++ descent ss := by
  have honto := Way.onto_foldl ss ⟨0, []⟩ dirs.reverse
  rw [Way.onto, Way.onto, List.drop_zero, List.nil_append] at honto
  rw [resolveFrom_eq, ← honto, List.reverse_append, List.drop_reverse, List.reverse_reverse,
    List.append_assoc]
  rfl

/-- Without double dots nothing is climbed. -/
theorem ascent_eq_zero (h : ∀ s ∈ ss, isUp s = false) : ascent ss = 0 := Way.ups_foldl h

theorem mem_descent (h : s ∈ descent ss) : s ∈ ss ∨ s = [] := by
  rcases List.mem_append.1 h with h | h
  · rcases Way.mem_down_foldl ss (List.mem_reverse.1 h) with h | h
    · exact .inl h
    · simp at h
  · unfold ending at h
    split at h
    · exact .inr (List.mem_singleton.1 h)
    · simp at h

/-! ## Names -/

/-- Names as a path: a slash in front of each. -/
def joined (ns : List (List Char)) : List Char := ns.flatMap ('/' :: ·)

/-- The names of a path that is empty or starts with a slash. -/
def names (path : List Char) : List (List Char) := (segments (· == '/') path).tail

/-- A segment in its written form. -/
def written (s : List Char) : List Char := s.flatMap encodeChar

theorem text_eq (ss : List (List Char)) : text ss = joined (ss.map written) := by
  rw [text, joined, List.flatMap_map]
  rfl

@[simp] theorem joined_nil : joined [] = [] := rfl

theorem joined_cons (n : List Char) (ns : List (List Char)) :
    joined (n :: ns) = '/' :: (n ++ joined ns) := by
  simp [joined]

theorem joined_append (ms ns : List (List Char)) : joined (ms ++ ns) = joined ms ++ joined ns :=
  List.flatMap_append

theorem joined_eq_nil_or (ns : List (List Char)) :
    joined ns = [] ∨ ∃ rest, joined ns = '/' :: rest := by
  cases ns with
  | nil => exact .inl rfl
  | cons n ns => exact .inr ⟨_, joined_cons n ns⟩

theorem text_append (ss tt : List (List Char)) : text (ss ++ tt) = text ss ++ text tt :=
  List.flatMap_append

/-- Names and a slash lead from a directory to the one that they name. -/
theorem text_resolveFrom_of_names (dirs : List (List Char)) (h : ∀ s ∈ ss, isDot s = false) :
    text (resolveFrom dirs.reverse (ss ++ [[]])) = text dirs ++ text ss ++ ['/'] := by
  have hall : ∀ s ∈ ss ++ [[]], isDot s = false := fun s hs => by
    rcases List.mem_append.1 hs with hs | hs
    · exact h s hs
    · rw [List.mem_singleton.1 hs]
      rfl
  have hending : ending (ss ++ [[]]) = [] := by
    rw [ending_append ss (by simp)]
    rfl
  rw [resolveFrom_eq, foldl_enter_of_names _ hall, hending, List.append_nil, List.reverse_append,
    List.reverse_reverse, List.reverse_reverse, text_append, text_append, List.append_assoc]
  rfl

theorem segments_append_joined {n : List Char} {ns : List (List Char)} (hn : '/' ∉ n)
    (hns : ∀ m ∈ ns, '/' ∉ m) : segments (· == '/') (n ++ joined ns) = n :: ns := by
  have hplain : ∀ {m : List Char}, '/' ∉ m → ∀ c ∈ m, (c == '/') = false := fun hm c hc =>
    beq_eq_false_iff_ne.2 fun h => hm (h ▸ hc)
  induction ns generalizing n with
  | nil => rw [joined_nil, List.append_nil, segments_of_forall (hplain hn)]
  | cons m ns ih =>
    rw [joined_cons, segments_append (by decide), segments_of_forall (hplain hn),
      ih (hns m List.mem_cons_self) fun k hk => hns k (List.mem_cons_of_mem m hk)]
    rfl

/-- **The names of a path are read back.** -/
theorem names_joined {ns : List (List Char)} (h : ∀ n ∈ ns, '/' ∉ n) : names (joined ns) = ns := by
  rw [names, ← List.nil_append (joined ns), segments_append_joined (by simp) h, List.tail_cons]

theorem joined_names_cons (cs : List Char) : joined (names ('/' :: cs)) = '/' :: cs := by
  have hjoined := flatMap_segments (· == '/') (fun c => [c]) cs
  simp only [List.flatMap_singleton'] at hjoined
  have hsame : (fun c => if (c == '/') = true then ['/'] else [c]) = fun c : Char => [c] := by
    funext c
    by_cases hc : c = '/'
    · simp [hc]
    · simp [hc]
  rw [hsame, List.flatMap_singleton'] at hjoined
  simpa [names, segments, joined] using hjoined

/-- **A path lies below a directory**: nothing follows the directory in it, or a slash does. -/
def Below (top path : List Char) : Prop :=
  ∃ more, path = top ++ more ∧ (more = [] ∨ ∃ rest, more = '/' :: rest)

theorem below_joined_iff {ms ns : List (List Char)} (hms : ∀ m ∈ ms, '/' ∉ m)
    (hns : ∀ n ∈ ns, '/' ∉ n) : Below (joined ms) (joined ns) ↔ ms <+: ns := by
  constructor
  · rintro ⟨more, heq, hmore⟩
    have hread : more = joined (names more) := by
      rcases hmore with rfl | ⟨rest, rfl⟩
      · rfl
      · exact (joined_names_cons rest).symm
    have hnames : ∀ n ∈ names more, '/' ∉ n := fun n hn hslash => by
      have := eq_false_of_mem_segments (List.mem_of_mem_tail hn) '/' hslash
      simp at this
    rw [hread, ← joined_append] at heq
    have hlist := congrArg names heq
    rw [names_joined hns, names_joined] at hlist
    · exact ⟨names more, hlist.symm⟩
    · intro n hn
      exact (List.mem_append.1 hn).elim (hms n) (hnames n)
  · rintro ⟨ls, rfl⟩
    exact ⟨joined ls, joined_append ms ls, joined_eq_nil_or ls⟩

/-! ## Written forms -/

theorem upperDigit_ne_slash : ∀ {n : Nat}, n < 16 → Text.Percent.upperDigit n ≠ '/' := by
  decide

theorem slash_not_mem_triple (b : UInt8) : '/' ∉ Text.Percent.triple b := by
  have hb := b.toNat_lt
  have hhigh := upperDigit_ne_slash (show b.toNat / 16 < 16 by omega)
  have hlow := upperDigit_ne_slash (show b.toNat % 16 < 16 by omega)
  simp [Text.Percent.triple, hhigh.symm, hlow.symm]

/-- Writing brings in no slash. -/
theorem slash_not_mem_written (h : '/' ∉ s) : '/' ∉ written s := by
  intro hslash
  obtain ⟨c, hc, hmem⟩ := List.mem_flatMap.1 hslash
  unfold encodeChar at hmem
  split at hmem
  · obtain ⟨b, -, hb⟩ := List.mem_flatMap.1 hmem
    exact slash_not_mem_triple b hb
  · exact h (List.mem_singleton.1 hmem ▸ hc)

/-- **Where segments lead from a directory**, as it is written. -/
structure Leads (top : List Char) (ss : List (List Char)) (path : List Char) : Prop where
  ends : path = joined ((names top).take ((names top).length - ascent ss) ++
    (descent ss).map written)
  /-- They lead below it exactly if they go down again what they climbed. -/
  below : Below top path ↔
    (names top).drop ((names top).length - ascent ss) <+: (descent ss).map written
  stays : (∀ s ∈ ss, isUp s = false) → Below top path

/-- **A walk ends below the place where it started** exactly if it goes down the names again that it
climbed. -/
theorem leads_resolveFrom (hdirs : ∀ d ∈ dirs, '/' ∉ d) (hss : ∀ s ∈ ss, '/' ∉ s) :
    Leads (text dirs) ss (text (resolveFrom dirs.reverse ss)) := by
  have hplain : ∀ {ts : List (List Char)}, (∀ t ∈ ts, '/' ∉ t) → ∀ n ∈ ts.map written, '/' ∉ n := by
    intro ts hts n hn
    obtain ⟨t, ht, rfl⟩ := List.mem_map.1 hn
    exact slash_not_mem_written (hts t ht)
  have hdescent : ∀ t ∈ descent ss, '/' ∉ t := fun t ht => by
    rcases mem_descent ht with ht | rfl
    · exact hss t ht
    · simp
  have hnames : names (text dirs) = dirs.map written := by
    rw [text_eq, names_joined (hplain hdirs)]
  have htext : text (resolveFrom dirs.reverse ss) =
      joined ((dirs.map written).take (dirs.length - ascent ss) ++ (descent ss).map written) := by
    rw [resolveFrom_reverse, text_eq, List.map_append, List.map_take]
  have hbelow : Below (text dirs) (text (resolveFrom dirs.reverse ss)) ↔
      (dirs.map written).drop (dirs.length - ascent ss) <+: (descent ss).map written := by
    rw [htext, text_eq, below_joined_iff (hplain hdirs)]
    · have hsplit := List.take_append_drop (dirs.length - ascent ss) (dirs.map written)
      exact (iff_of_eq (congrArg (· <+: _) hsplit.symm)).trans (List.prefix_append_right_inj _)
    · intro n hn
      rcases List.mem_append.1 hn with hn | hn
      · exact hplain hdirs n (List.mem_of_mem_take hn)
      · exact hplain hdescent n hn
  refine
    { ends := by rw [hnames, List.length_map, htext]
      below := by rw [hnames, List.length_map, hbelow]
      stays := fun hup => ?_ }
  rw [hbelow, ascent_eq_zero hup, Nat.sub_zero, List.drop_of_length_le (by simp)]
  exact List.nil_prefix

end TenantGuard.Url.Path
