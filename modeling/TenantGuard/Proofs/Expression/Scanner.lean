import TenantGuard.Proofs.Expression.Lexeme

/-!
# The scanner reads lexemes

`Expression.Scan` takes a text one character at a time.  What it makes of a text is what the lexical
rules say: it accepts the texts that can be read into lexemes whose brackets are balanced.

* `literal_of_run` and `comment_of_run`: from inside a literal or a comment it goes on to the end
  that the rules give it;
* `lexes_of_run` and `run_of_lexes`: from code to code it reads lexemes;
* `check_ok_iff`: what is accepted, and what is said about comments.
-/

namespace TenantGuard.Expression

variable {d : Dialect} {cs ds : List Char} {ls : List Lexeme}

namespace Scan

@[simp] theorem run_nil (s : Scan) : run d s [] = .ok s := rfl

theorem run_cons (s : Scan) (c : Char) (cs : List Char) :
    run d s (c :: cs) = (step d s c).bind fun s => run d s cs := rfl

/-- Whether a text may end here, but for brackets. -/
def AtRest (s : Scan) : Prop := s.place = .code ∨ s.place = .comment

/-! ## Literals -/

/-- From inside a literal, the scanner comes to its end. -/
theorem literal_of_run {q : Char} {o : List Char} {hc : Bool} {s : Scan} (hs : s.AtRest) :
    ∀ cs, run d ⟨.literal q, o, hc⟩ cs = .ok s → ∃ body rest, cs = body ++ q :: rest ∧
      LiteralBody (d.hasEscapes q) q body ∧ run d ⟨.code, o, hc⟩ rest = .ok s
  | [], h => by
    cases h
    rcases hs with hs | hs <;> simp at hs
  | c :: cs, h => by
    rw [run_cons] at h
    by_cases hb : c = '\\'
    · subst hb
      by_cases he : d.hasEscapes q = true
      · simp only [step, if_pos, he] at h
        cases cs with
        | nil =>
          cases h
          rcases hs with hs | hs <;> simp at hs
        | cons e cs =>
          obtain ⟨body, rest, rfl, hbody, hrun⟩ := literal_of_run hs cs h
          exact ⟨'\\' :: e :: body, rest, by simp, .escape he hbody, hrun⟩
      · simp [step, he, Except.bind] at h
    · by_cases hq : c = q
      · subst hq
        simp only [step, hb, if_false, if_pos] at h
        exact ⟨[], cs, rfl, .nil, h⟩
      · simp only [step, hb, hq, if_false] at h
        obtain ⟨body, rest, rfl, hbody, hrun⟩ := literal_of_run hs cs h
        exact ⟨c :: body, rest, by simp, .plain hq hb hbody, hrun⟩

/-- A literal is passed over. -/
theorem run_literal {q : Char} {body : List Char} (hq : q ≠ '\\')
    (h : LiteralBody (d.hasEscapes q) q body) (o : List Char) (hc : Bool) (rest : List Char) :
    run d ⟨.literal q, o, hc⟩ (body ++ q :: rest) = run d ⟨.code, o, hc⟩ rest := by
  induction h with
  | nil => simp [run_cons, step, hq, Except.bind]
  | plain hne hb _ ih => simpa [run_cons, step, hne, hb, Except.bind] using ih
  | escape he _ ih => simpa [run_cons, step, he, Except.bind] using ih

/-! ## Comments -/

/-- From inside a comment, the scanner comes to its end or to that of the text. -/
theorem comment_of_run {o : List Char} {hc : Bool} {s : Scan} :
    ∀ cs, run d ⟨.comment, o, hc⟩ cs = .ok s → ∃ text rest, cs = text ++ rest ∧
      (∀ c ∈ text, d.lexicon.endsComment c = false) ∧
      ((rest = [] ∧ s = ⟨.comment, o, hc⟩) ∨
        ∃ ds, rest = '\n' :: ds ∧ run d ⟨.code, o, hc⟩ ds = .ok s)
  | [], h => ⟨[], [], rfl, by simp, .inl ⟨rfl, by cases h; rfl⟩⟩
  | c :: cs, h => by
    rw [run_cons] at h
    by_cases hn : c = '\n'
    · subst hn
      exact ⟨[], '\n' :: cs, rfl, by simp, .inr ⟨cs, rfl, h⟩⟩
    · simp only [step, hn, if_false] at h
      obtain ⟨text, rest, rfl, ht, hrest⟩ := comment_of_run cs h
      refine ⟨c :: text, rest, rfl, ?_, hrest⟩
      intro e he
      rcases List.mem_cons.1 he with rfl | he
      · simpa [Dialect.lexicon] using hn
      · exact ht e he

/-- A comment is passed over. -/
theorem run_comment {text : List Char} (h : ∀ c ∈ text, d.lexicon.endsComment c = false)
    (o : List Char) (hc : Bool) (rest : List Char) :
    run d ⟨.comment, o, hc⟩ (text ++ rest) = run d ⟨.comment, o, hc⟩ rest := by
  induction text with
  | nil => rfl
  | cons c text ih =>
    have hn : c ≠ '\n' := by simpa [Dialect.lexicon] using h c (by simp)
    rw [List.cons_append, run_cons]
    simp only [step, hn, if_false]
    exact ih fun c hm => h c (by simp [hm])

/-! ## Code -/

/-- A character of code opens or closes a bracket, or leaves everything as it is. -/
theorem step_code_ok_iff {o : List Char} {hc : Bool} {c : Char}
    (hq : Dialect.isQuote c = false) (hh : c ≠ '#') {s : Scan} :
    step d ⟨.code, o, hc⟩ c = .ok s ↔
      ∃ o', (Lexeme.code c).nest o = some o' ∧ s = ⟨.code, o', hc⟩ := by
  simp only [step, stepCode, hq, hh, if_false, Lexeme.nest, Bool.false_eq_true]
  split
  · simp [eq_comm]
  cases hp : partner? c with
  | none => simp [eq_comm]
  | some p =>
    cases o with
    | nil => simp
    | cons b o => by_cases hb : b = p <;> simp [hb, eq_comm]

/-- **Where the scanner comes through, it has read lexemes.** -/
theorem lexes_of_run {o : List Char} {hc : Bool} {s : Scan} (hs : s.AtRest)
    (h : run d ⟨.code, o, hc⟩ cs = .ok s) :
    ∃ ls, Lexes d.lexicon cs ls ∧ nesting o ls = some s.opened ∧
      s.hasComment = (hc || ls.any Lexeme.isComment) := by
  induction hn : cs.length using Nat.strongRecOn generalizing cs o hc with
  | ind n ih =>
  cases cs with
  | nil =>
    cases h
    exact ⟨[], .nil, rfl, by simp⟩
  | cons c cs =>
    rw [List.length_cons] at hn
    rw [run_cons] at h
    by_cases hq : Dialect.isQuote c = true
    · have hstep : step d ⟨.code, o, hc⟩ c = .ok ⟨.literal c, o, hc⟩ := by
        simp [step, stepCode, hq]
      rw [hstep] at h
      obtain ⟨body, rest, rfl, hbody, hrun⟩ := literal_of_run hs cs h
      rw [List.length_append, List.length_cons] at hn
      obtain ⟨ls, hl, hnest, hcom⟩ := ih rest.length (by omega) hrun rfl
      exact ⟨.literal c body :: ls, .literal hq hbody hl, hnest,
        by simpa [Lexeme.isComment] using hcom⟩
    rw [Bool.not_eq_true] at hq
    by_cases hh : c = '#'
    · subst hh
      cases d with
      | logs => simp [step, stepCode, isQuote_hash, Except.bind] at h
      | metrics =>
        have hstep : step .metrics ⟨.code, o, hc⟩ '#' = .ok ⟨.comment, o, true⟩ := by
          simp [step, stepCode, isQuote_hash]
        rw [hstep] at h
        obtain ⟨text, rest, rfl, ht, hrest⟩ := comment_of_run cs h
        rcases hrest with ⟨rfl, rfl⟩ | ⟨ds, rfl, hrun⟩
        · exact ⟨[.comment text], .comment rfl ht (by simp) .nil, rfl, by simp [Lexeme.isComment]⟩
        · rw [List.length_append, List.length_cons] at hn
          obtain ⟨ls, hl, hnest, hcom⟩ := ih ds.length (by omega) hrun rfl
          have hfeed : Lexes Dialect.metrics.lexicon ('\n' :: ds) (.code '\n' :: ls) :=
            .code (by decide) (by decide) hl
          refine ⟨.comment text :: .code '\n' :: ls, .comment rfl ht ?_ hfeed, hnest, ?_⟩
          · simp [Dialect.lexicon]
          · simpa [Lexeme.isComment] using hcom
    · cases hstep : step d ⟨.code, o, hc⟩ c with
      | error e => simp [hstep, Except.bind] at h
      | ok s' =>
        rw [hstep] at h
        obtain ⟨o', hnest, rfl⟩ := (step_code_ok_iff hq hh).1 hstep
        obtain ⟨ls, hl, hrest, hcom⟩ := ih cs.length (by omega) h rfl
        refine ⟨.code c :: ls, .code hq hh hl, ?_, by simpa [Lexeme.isComment] using hcom⟩
        rw [nesting, hnest]
        exact hrest

/-- **Lexemes whose brackets close come through.** -/
theorem run_of_lexes (h : Lexes d.lexicon cs ls) {o o' : List Char} (hc : Bool)
    (hnest : nesting o ls = some o') :
    ∃ s, AtRest s ∧ run d ⟨.code, o, hc⟩ cs = .ok s ∧ s.opened = o' ∧
      s.hasComment = (hc || ls.any Lexeme.isComment) := by
  induction h generalizing o hc with
  | nil =>
    cases hnest
    exact ⟨⟨.code, _, hc⟩, .inl rfl, rfl, rfl, by simp⟩
  | @code c cs ls hq hh _ ih =>
    obtain ⟨mid, hmid, hnest⟩ := Option.bind_eq_some_iff.1 hnest
    rw [run_cons, (step_code_ok_iff hq hh).2 ⟨mid, hmid, rfl⟩]
    obtain ⟨s, hs, hrun, hopened, hcom⟩ := ih hc hnest
    exact ⟨s, hs, hrun, hopened, by simpa [Lexeme.isComment] using hcom⟩
  | @literal q body cs ls hq hbody _ ih =>
    have hne : q ≠ '\\' := fun h => by simp [h, not_isQuote_backslash] at hq
    have hstep : step d ⟨.code, o, hc⟩ q = .ok ⟨.literal q, o, hc⟩ := by
      simp [step, stepCode, hq]
    obtain ⟨s, hs, hrun, hopened, hcom⟩ := ih hc hnest
    refine ⟨s, hs, ?_, hopened, by simpa [Lexeme.isComment] using hcom⟩
    rw [run_cons, hstep]
    exact (run_literal hne hbody o hc cs).trans hrun
  | @comment text cs ls hx ht hr _ ih =>
    have hd : d = .metrics := by simpa [Dialect.lexicon] using hx
    have hstep : step d ⟨.code, o, hc⟩ '#' = .ok ⟨.comment, o, true⟩ := by
      subst hd
      simp [step, stepCode, isQuote_hash]
    obtain ⟨s, hs, hrun, hopened, hcom⟩ := ih true hnest
    rw [run_cons, hstep]
    simp only [Except.bind, run_comment ht]
    cases cs with
    | nil =>
      cases hrun
      exact ⟨⟨.comment, o, true⟩, .inr rfl, rfl, hopened, by simp [Lexeme.isComment]⟩
    | cons c cs =>
      -- The comment ends at a line feed, which leaves code as it is.
      have hfeed : c = '\n' := by simpa [Dialect.lexicon] using hr
      subst hfeed
      have hcode : step d ⟨.code, o, true⟩ '\n' = .ok ⟨.code, o, true⟩ := by
        rfl
      rw [run_cons, hcode] at hrun
      exact ⟨s, hs, hrun, hopened, by simpa [Lexeme.isComment] using hcom⟩

end Scan

/-- **What the scanner accepts**: texts of lexemes whose brackets are balanced. -/
theorem check_ok_iff {hc : Bool} : check d cs = .ok hc ↔
    ∃ ls, Lexes d.lexicon cs ls ∧ nesting [] ls = some [] ∧ hc = ls.any Lexeme.isComment := by
  unfold check
  constructor
  · intro h
    cases hrun : Scan.run d {} cs with
    | error e => simp [hrun, bind, Except.bind] at h
    | ok s =>
      simp only [hrun, bind, Except.bind, pure, Except.pure] at h
      split at h
      · simp at h
      next s' hfin =>
      have hs : s.AtRest ∧ s.opened = [] ∧ s' = s := by
        obtain ⟨place, opened, hasComment⟩ := s
        cases place <;> cases opened <;> simp_all [Scan.finish, Scan.AtRest]
      obtain ⟨hrest, hopened, rfl⟩ := hs
      obtain ⟨ls, hl, hnest, hcom⟩ := Scan.lexes_of_run hrest hrun
      cases h
      exact ⟨ls, hl, hopened ▸ hnest, by simpa using hcom⟩
  · rintro ⟨ls, hl, hnest, rfl⟩
    obtain ⟨⟨place, opened, hasComment⟩, hs, hrun, hopened, hcom⟩ := Scan.run_of_lexes hl false hnest
    have hfin : Scan.finish ⟨place, opened, hasComment⟩ = .ok ⟨place, opened, hasComment⟩ := by
      simp only at hopened
      rcases hs with hs | hs <;> simp only at hs <;> simp [Scan.finish, hs, hopened]
    have hrun' : Scan.run d {} cs = .ok ⟨place, opened, hasComment⟩ := hrun
    simp only [hrun', hfin, bind, Except.bind, pure, Except.pure]
    simpa using hcom

end TenantGuard.Expression
