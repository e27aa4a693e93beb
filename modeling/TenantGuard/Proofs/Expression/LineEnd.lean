import TenantGuard.Proofs.Expression.Containment

/-!
# Where a comment ends

The scanner of expressions takes a comment to go up to the next line feed.  A backend that ends
comments at a carriage return, too, reads the rest of such a line as code, and nobody has looked at
the brackets there.

* `promql` are the lexical rules of that backend;
* `Lexes.of_append`: the lexemes at the front of a text are those of a text of its own, and
  `Lexes.of_feed` takes a line feed off the end;
* `Lexes.transfer`: two languages read a text alike if they end its comments alike;
* `ClosesBehind` says where the parenthesis at the front of a text is closed, and
  `closesBehind_iff` that a text stays inside if it is balanced in itself;
* `injectFilter_closes_iff`: the filter closes its parenthesis itself if the client's text is
  balanced as the backend reads it, in particular if there is no carriage return in a comment;
* `injectFilter_closed_early` is a text that closes the parenthesis before.
-/

namespace TenantGuard

/-- **The lexical rules of PromQL** as its backend has them: a comment goes up to the end of its
line, which is a line feed or a carriage return. -/
def promql : Lexicon where
  escapes := Dialect.metrics.hasEscapes
  comments := true
  endsComment c := c == '\n' || c == '\r'

namespace Expression

open Text (trim)

variable {x y : Lexicon} {cs ds : List Char} {ls ms : List Lexeme}

/-! ## Parts of a text -/

/-- The front of a list whose last item is behind another one. -/
theorem exists_of_append_eq_concat {α : Type} {front back whole : List α} {a : α}
    (h : front ++ back = whole ++ [a]) (hne : back ≠ []) :
    ∃ rest, back = rest ++ [a] ∧ whole = front ++ rest := by
  obtain ⟨rest, b, rfl⟩ := (List.eq_nil_or_concat back).resolve_left hne
  rw [List.concat_eq_append, ← List.append_assoc] at h
  obtain ⟨hwhole, hlast⟩ := List.append_inj' h rfl
  exact ⟨rest, by rw [List.concat_eq_append, hlast], hwhole.symm⟩

/-- **The lexemes at the front** are those of a text of its own. -/
theorem Lexes.of_append : ∀ {ls : List Lexeme} {cs : List Char}, Lexes x cs (ls ++ ms) →
    ∃ ds es, cs = ds ++ es ∧ Lexes x ds ls ∧ Lexes x es ms
  | [], cs, h => ⟨[], cs, rfl, .nil, h⟩
  | l :: ls, cs, h => by
    rw [List.cons_append] at h
    cases h with
    | code hq hc h =>
      obtain ⟨ds, es, rfl, hds, hes⟩ := h.of_append
      exact ⟨_ :: ds, es, rfl, .code hq hc hds, hes⟩
    | literal hq hbody h =>
      obtain ⟨ds, es, rfl, hds, hes⟩ := h.of_append
      exact ⟨_, es, by simp, .literal hq hbody hds, hes⟩
    | @comment text _ _ hx ht hr h =>
      obtain ⟨ds, es, rfl, hds, hes⟩ := h.of_append
      refine ⟨'#' :: (text ++ ds), es, by simp, .comment hx ht (fun c hc => hr c ?_) hds, hes⟩
      cases ds with
      | nil => simp at hc
      | cons d ds => exact hc

/-- **A line feed at the end** is code, and what stands before it is a text of its own. -/
theorem Lexes.of_feed (hfeed : x.endsComment '\n' = true) (h : Lexes x (cs ++ ['\n']) ls) :
    ∃ ms, ls = ms ++ [.code '\n'] ∧ Lexes x cs ms := by
  generalize htext : cs ++ ['\n'] = text at h
  induction h generalizing cs with
  | nil => simp at htext
  | @code c rest ls hq hc h ih =>
    cases cs with
    | nil =>
      obtain ⟨rfl, rfl⟩ := List.cons.inj htext
      cases h
      exact ⟨[], rfl, .nil⟩
    | cons d cs =>
      obtain ⟨rfl, htail⟩ := List.cons.inj htext
      obtain ⟨ms, rfl, hms⟩ := ih htail
      exact ⟨.code d :: ms, rfl, .code hq hc hms⟩
  | @literal q body rest ls hq hbody h ih =>
    have htext' : (q :: (body ++ [q])) ++ rest = cs ++ ['\n'] := by simpa using htext.symm
    by_cases hrest : rest = []
    · -- the closing quote would be the line feed
      subst hrest
      rw [List.append_nil, ← List.cons_append] at htext'
      cases List.singleton_inj.1 (List.append_inj' htext' rfl).2
      exact absurd hq (by decide)
    · obtain ⟨rest', rfl, rfl⟩ := exists_of_append_eq_concat htext' hrest
      obtain ⟨ms, rfl, hms⟩ := ih rfl
      exact ⟨.literal q body :: ms, rfl, by simpa using Lexes.literal hq hbody hms⟩
  | @comment body rest ls hx ht hr h ih =>
    have htext' : ('#' :: body) ++ rest = cs ++ ['\n'] := by simpa using htext.symm
    by_cases hrest : rest = []
    · -- the line feed would be part of the comment
      subst hrest
      have hmem : '\n' ∈ '#' :: body := by
        rw [← List.append_nil ('#' :: body), htext']
        simp
      rw [ht '\n' ((List.mem_cons.1 hmem).resolve_left (by decide))] at hfeed
      cases hfeed
    · obtain ⟨rest', rfl, rfl⟩ := exists_of_append_eq_concat htext' hrest
      obtain ⟨ms, rfl, hms⟩ := ih rfl
      refine ⟨.comment body :: ms, rfl, .comment hx ht (fun c hc => hr c ?_) hms⟩
      cases rest' with
      | nil => simp at hc
      | cons d rest' => exact hc

/-- **Two languages read a text alike** if their literals are alike and what ends a comment in one
of them ends it in the other. -/
theorem Lexes.transfer (h : Lexes x cs ls) (hescapes : x.escapes = y.escapes)
    (hcomments : x.comments = true → y.comments = true)
    (hends : ∀ c, x.endsComment c = true → y.endsComment c = true)
    (hlater : ∀ text, .comment text ∈ ls → ∀ c ∈ text, y.endsComment c = true →
      x.endsComment c = true) : Lexes y cs ls := by
  induction h with
  | nil => exact .nil
  | code hq hc _ ih => exact .code hq hc (ih fun text ht => hlater text (by simp [ht]))
  | literal hq hbody _ ih =>
    exact .literal hq (hescapes ▸ hbody) (ih fun text ht => hlater text (by simp [ht]))
  | @comment text cs ls hx ht hr _ ih =>
    refine .comment (hcomments hx) (fun c hc => ?_) (fun c hc => hends c (hr c hc))
      (ih fun text ht => hlater text (by simp [ht]))
    rw [Bool.eq_false_iff]
    intro hy
    cases (ht c hc).symm.trans (hlater text (by simp) c hc hy)

/-! ## Where a parenthesis is closed -/

/-- **A text that is balanced** as a language reads it. -/
def Balanced (x : Lexicon) (cs : List Char) : Prop :=
  ∃ ls, Lexes x cs ls ∧ nesting [] ls = some []

/-- **The parenthesis at the front of a text is closed** right behind a part of it, and not
before. -/
def ClosesBehind (x : Lexicon) (text inside : List Char) : Prop :=
  ∃ ls rest, Lexes x text (.code '(' :: (ls ++ .code ')' :: rest)) ∧
    ls.flatMap Lexeme.chars = inside ∧
    cutAtClosing ['('] (ls ++ .code ')' :: rest) = some (ls, .code ')' :: rest)

/-- There is one such part. -/
theorem ClosesBehind.unique {text inside inside' : List Char} (h : ClosesBehind x text inside)
    (h' : ClosesBehind x text inside') : inside = inside' := by
  obtain ⟨ls, rest, hlexes, rfl, hcut⟩ := h
  obtain ⟨ls', rest', hlexes', rfl, hcut'⟩ := h'
  rw [(List.cons.inj (hlexes.unique hlexes')).2] at hcut
  cases hcut.symm.trans hcut'
  rfl

/-- Above an open bracket a lexeme does what it does alone, unless it closes that bracket. -/
theorem Lexeme.nest_concat_cases {l : Lexeme} {opened stack : List Char} {o : Char}
    (h : l.nest (opened ++ [o]) = some stack) :
    (opened = [] ∧ stack = []) ∨
      ∃ opened', l.nest opened = some opened' ∧ stack = opened' ++ [o] := by
  cases l with
  | literal q body => exact .inr ⟨opened, rfl, by simpa [nest] using h.symm⟩
  | comment text => exact .inr ⟨opened, rfl, by simpa [nest] using h.symm⟩
  | code c =>
    simp only [nest] at h ⊢
    split at h
    next hc => exact .inr ⟨c :: opened, by simp [hc], by simpa using h.symm⟩
    next hc =>
    cases hp : partner? c with
    | none => exact .inr ⟨opened, by simp [hc], by simpa [hp] using h.symm⟩
    | some p =>
      cases opened with
      | nil =>
        simp only [hp, List.nil_append] at h
        split at h
        · exact .inl ⟨rfl, (Option.some.inj h).symm⟩
        · cases h
      | cons b opened =>
        simp only [hp, List.cons_append] at h
        split at h
        next hb => exact .inr ⟨opened, by simp [hc, hb], (Option.some.inj h).symm⟩
        · cases h

/-- **What stands before the closing of a bracket is balanced.** -/
theorem nesting_of_cutAtClosing {opened : List Char} {o : Char} {rest : List Lexeme}
    (h : cutAtClosing (opened ++ [o]) ls = some (ms, rest)) : nesting opened ms = some [] := by
  induction ls generalizing opened ms with
  | nil => simp [cutAtClosing] at h
  | cons l ls ih =>
    rw [cutAtClosing] at h
    cases hnest : l.nest (opened ++ [o]) with
    | none => simp [hnest] at h
    | some stack =>
      rw [hnest] at h
      rcases Lexeme.nest_concat_cases hnest with ⟨rfl, rfl⟩ | ⟨opened', hopened', rfl⟩
      · cases h
        rfl
      · -- the bracket is still open, and the rest is cut
        have hopen : ∃ b stack, opened' ++ [o] = b :: stack := by
          cases opened' with
          | nil => exact ⟨o, [], rfl⟩
          | cons b opened' => exact ⟨b, opened' ++ [o], rfl⟩
        obtain ⟨b, stack, hstack⟩ := hopen
        simp only [hstack] at h
        obtain ⟨⟨before, rest'⟩, hcut, heq⟩ := Option.map_eq_some_iff.1 h
        cases heq
        rw [← hstack] at hcut
        rw [nesting, hopened']
        exact ih hcut

/-! ## Texts between parentheses -/

variable {tail : List Char}

/-- **A text stays inside its parentheses** if it is balanced in itself, and only then.  What is put
behind a text with a comment starts on a new line. -/
theorem closesBehind_iff (hfeed : x.endsComment '\n' = true) (htail : Lexes x tail ms)
    (hends : ds = ['\n'] ∨ ds = [] ∧ ∀ ls, Lexes x cs ls → ls.any Lexeme.isComment = false) :
    ClosesBehind x ('(' :: (cs ++ ds ++ ')' :: tail)) (cs ++ ds) ↔ Balanced x cs := by
  constructor
  · rintro ⟨ls, rest, hlexes, hinside, hcut⟩
    change Lexes x _ ([.code '('] ++ (ls ++ .code ')' :: rest)) at hlexes
    obtain ⟨-, back, -, -, hback⟩ := hlexes.of_append
    obtain ⟨front, -, -, hfront, -⟩ := hback.of_append
    have htext : front = cs ++ ds := hfront.flatMap_chars.symm.trans hinside
    have hnest : nesting [] ls = some [] := nesting_of_cutAtClosing hcut
    subst htext
    rcases hends with rfl | ⟨rfl, -⟩
    · obtain ⟨ms, rfl, hms⟩ := hfront.of_feed hfeed
      rw [nesting_append] at hnest
      obtain ⟨opened, hopened, hlast⟩ := Option.bind_eq_some_iff.1 hnest
      cases hlast
      exact ⟨ms, hms, hopened⟩
    · rw [List.append_nil] at hfront
      exact ⟨ls, hfront, hnest⟩
  · rintro ⟨ls, hlexes, hnest⟩
    have hended : ∃ ls', Lexes x (cs ++ ds) ls' ∧ nesting [] ls' = some [] ∧
        ∀ l ∈ ls'.getLast?, l.isComment = false := by
      rcases hends with rfl | ⟨rfl, hnone⟩
      · refine ⟨ls ++ [.code '\n'], ?_, ?_, by simp [Lexeme.isComment]⟩
        · exact hlexes.append (.code (by decide) (by decide) .nil) fun _ => by simpa using hfeed
        · rw [nesting_append, hnest]
          rfl
      · refine ⟨ls, by rwa [List.append_nil], hnest, fun l hl => ?_⟩
        have hany := hnone ls hlexes
        rw [List.any_eq_false] at hany
        simpa using hany l (List.mem_of_getLast? hl)
    obtain ⟨ls', hlexes', hnest', hlast⟩ := hended
    refine ⟨ls', ms, .code (by decide) (by decide) ?_, hlexes'.flatMap_chars,
      cutAtClosing_of_nesting hnest' rfl ms⟩
    exact hlexes'.append_of_last (.code (by decide) (by decide) htail) hlast

/-! ## What the filter closes -/

/-- **The backend reads an expression as the scanner does** if there is no carriage return in a
comment. -/
theorem lexes_promql (h : Lexes Dialect.metrics.lexicon cs ls)
    (hplain : ∀ text, .comment text ∈ ls → '\r' ∉ text) : Lexes promql cs ls := by
  refine h.transfer rfl (fun _ => rfl) (fun c hc => ?_) fun text ht c hc hend => ?_
  · have hc : c = '\n' := by simpa [Dialect.lexicon] using hc
    simp [promql, hc]
  · have hc : c ≠ '\r' := fun hr => hplain text ht (hr ▸ hc)
    simpa [promql, Dialect.lexicon, hc] using hend

theorem promql_lexes_behindText {r : String} (hr : Scope.validateId r = .ok ()) :
    Lexes promql (behindText r) (behind .metrics r) :=
  lexes_promql (lexes_behindText hr) (by simp [behind, filterLexemes, codes])

/-- **The filter closes its parenthesis itself** if the expression is balanced as the backend reads
it, and only then.  So it does if there is no carriage return in a comment of the expression. -/
theorem injectFilter_closes_iff {e r q : String} (hr : Scope.validateId r = .ok ())
    (hne : trim e.toList ≠ []) (h : injectFilter .metrics e r = .ok q) :
    ∃ ds, (ds = [] ∨ ds = ['\n']) ∧
      q.toList = '(' :: (trim e.toList ++ ds ++ ')' :: behindText r) ∧
      (ClosesBehind promql q.toList (trim e.toList ++ ds) ↔ Balanced promql (trim e.toList)) ∧
      ((∀ ls text, Lexes Dialect.metrics.lexicon (trim e.toList) ls → .comment text ∈ ls →
          '\r' ∉ text) → ClosesBehind promql q.toList (trim e.toList ++ ds)) := by
  unfold injectFilter at h
  cases hcheck : check .metrics (trim e.toList) with
  | error f => simp [hcheck, bind, Except.bind] at h
  | ok hc =>
    obtain ⟨ls, hlexes, hnest, rfl⟩ := check_ok_iff.1 hcheck
    simp only [hcheck, bind, Except.bind, pure, Except.pure, List.isEmpty_iff, hne, if_false] at h
    cases h
    rw [toList_wrap_metrics]
    have hends : (if ls.any Lexeme.isComment then ['\n'] else []) = ['\n'] ∨
        (if ls.any Lexeme.isComment then ['\n'] else []) = [] ∧
          ∀ ms, Lexes promql (trim e.toList) ms → ms.any Lexeme.isComment = false := by
      cases hany : ls.any Lexeme.isComment with
      | true => exact .inl rfl
      | false =>
        -- without a comment there is one reading for both
        have hsame : Lexes promql (trim e.toList) ls := lexes_promql hlexes fun text ht => by
          rw [List.any_eq_false] at hany
          simpa [Lexeme.isComment] using hany _ ht
        exact .inr ⟨rfl, fun ms hms => by rw [hms.unique hsame, hany]⟩
    have hcloses := closesBehind_iff (by decide) (promql_lexes_behindText hr) hends
    refine ⟨_, (hends.imp_right And.left).symm, rfl, hcloses, fun hplain => hcloses.2 ?_⟩
    exact ⟨ls, lexes_promql hlexes fun text => hplain ls text hlexes, hnest⟩

/-- A bracket in a comment stays in it: the comment ends where the filter goes on. -/
theorem injectFilter_closes_iff_comment :
    let q := "(up # (\n) and on(resource_id) \x7bresource_id=\"r1\"\x7d"
    Scope.validateId "r1" = .ok () ∧ trim "up # (".toList ≠ [] ∧
      injectFilter .metrics "up # (" "r1" = .ok q ∧
      ClosesBehind promql q.toList "up # (\n".toList := by
  refine ⟨rfl, by decide, rfl, ?_⟩
  have hcomment : Lexes promql ('#' :: (" (".toList ++ [])) [.comment " (".toList] :=
    .comment rfl (by simp [promql]) (by simp) .nil
  have hlexes : Lexes promql ("up ".toList ++ '#' :: (" (".toList ++ []))
      (codes "up " ++ [.comment " (".toList]) := lexes_code_append (by decide) hcomment
  have hbalanced : Balanced promql (trim "up # (".toList) := ⟨_, hlexes, rfl⟩
  obtain ⟨ds, hds, htext, hcloses, -⟩ := injectFilter_closes_iff (e := "up # (") (r := "r1")
    rfl (by decide) rfl
  rcases hds with rfl | rfl
  · exact absurd htext (by decide)
  · exact hcloses.2 hbalanced

/-- **A carriage return closes the parenthesis early**: what the scanner takes for the rest of a
comment is code for the backend, and the first operand goes without the filter. -/
theorem injectFilter_closed_early :
    let q := "(up #\r) or (up\n) and on(resource_id) \x7bresource_id=\"r1\"\x7d"
    Scope.validateId "r1" = .ok () ∧ injectFilter .metrics "up #\r) or (up" "r1" = .ok q ∧
      ClosesBehind promql q.toList "up #\r".toList ∧
      ¬ ClosesBehind promql q.toList "up #\r) or (up\n".toList := by
  intro q
  have htext : q.toList =
      "(up ".toList ++ '#' :: ([] ++ ("\r) or (up\n)".toList ++ behindText "r1")) := by
    decide
  have hrest : Lexes promql ("\r) or (up\n)".toList ++ behindText "r1")
      (codes "\r) or (up\n)" ++ behind .metrics "r1") :=
    lexes_code_append (by decide) (promql_lexes_behindText rfl)
  have hcomment : Lexes promql ('#' :: ([] ++ ("\r) or (up\n)".toList ++ behindText "r1")))
      (.comment [] :: (codes "\r) or (up\n)" ++ behind .metrics "r1")) :=
    .comment rfl (by simp) (fun c hc => by cases hc; rfl) hrest
  let inside := codes "up " ++ [.comment [], .code '\r']
  have hlexes : Lexes promql q.toList
      (.code '(' :: (inside ++ .code ')' :: (codes " or (up\n)" ++ behind .metrics "r1"))) :=
    htext ▸ lexes_code_append (by decide) hcomment
  have hearly : ClosesBehind promql q.toList "up #\r".toList := ⟨inside, _, hlexes, rfl, rfl⟩
  exact ⟨rfl, rfl, hearly, fun hbehind => absurd (hearly.unique hbehind) (by decide)⟩

end Expression

end TenantGuard
