import TenantGuard.Proofs.Expression.Scanner
import TenantGuard.Proofs.Query.Literal
import TenantGuard.Query.Restriction
import Mathlib.Data.List.Basic

/-!
# The grammar of expressions

Which expressions are accepted, said without a scanner and without a stack: a sequence of ordinary
characters, string literals, bracketed sequences and comments.

* `Derives` is the grammar;
* `Derives.lexes`: what it derives is read into lexemes whose brackets are balanced;
* `Closes` says what is left to derive while brackets are open, and `closes_of_lexes` that lexemes
  whose brackets are balanced are derived;
* `injectFilter_accepts_derived`: a filter is put around what the grammar derives, and everything
  else is refused.
-/

namespace TenantGuard.Expression

open Text (trim)

/-! ## The grammar -/

/-- **The brackets and their partners.** -/
inductive Paired : Char → Char → Prop where
  | round : Paired '(' ')'
  | square : Paired '[' ']'
  | curly : Paired '{' '}'

/-- The characters that mean something outside of literals and comments. -/
def marks : List Char := ['(', ')', '[', ']', '{', '}', '"', '\'', '\x60', '#']

/-- **The grammar of expressions.**  `Derives d after cs` derives `cs` where `after` stands behind
it up to the end of the whole text: a comment goes up to a line feed or up to there. -/
inductive Derives (d : Dialect) : List Char → List Char → Prop where
  | nil {after : List Char} : Derives d after []
  | ordinary {after cs : List Char} {c : Char} : c ∉ marks → Derives d after cs →
      Derives d after (c :: cs)
  | literal {after cs lit : List Char} : IsLiteral d lit → Derives d after cs →
      Derives d after (lit ++ cs)
  | bracketed {after inside cs : List Char} {o c : Char} : Paired o c →
      Derives d (c :: (cs ++ after)) inside → Derives d after cs →
      Derives d after (o :: (inside ++ c :: cs))
  | comment {after text cs : List Char} : d = .metrics → '\n' ∉ text →
      (∀ c ∈ (cs ++ after).head?, c = '\n') → Derives d after cs →
      Derives d after ('#' :: (text ++ cs))

variable {d : Dialect} {after cs : List Char} {ls : List Lexeme} {o c : Char}

theorem paired_iff : Paired o c ↔ partner? c = some o := by
  constructor
  · intro h
    cases h <;> rfl
  · intro h
    unfold partner? at h
    split at h
    · cases h
      exact .round
    · cases h
      exact .square
    · cases h
      exact .curly
    · cases h

theorem isOpening_of_paired (h : Paired o c) : isOpening o = true := by
  cases h <;> rfl

theorem opening_of_paired (h : Paired o c) : Dialect.isQuote o = false ∧ o ≠ '#' := by
  cases h <;> decide

/-- A closing bracket is code and does not end a comment. -/
theorem closing_of_paired (h : Paired o c) :
    Dialect.isQuote c = false ∧ c ≠ '#' ∧ isOpening c = false ∧ c ≠ '\n' := by
  cases h <;> decide

theorem exists_paired_of_isOpening (h : isOpening o = true) : ∃ c, Paired o c := by
  simp only [isOpening, Bool.or_eq_true, beq_iff_eq] at h
  rcases h with (rfl | rfl) | rfl
  · exact ⟨')', .round⟩
  · exact ⟨']', .square⟩
  · exact ⟨'}', .curly⟩

/-- **Ordinary characters** are code that is no bracket. -/
theorem not_mem_marks_iff : c ∉ marks ↔
    Dialect.isQuote c = false ∧ c ≠ '#' ∧ isOpening c = false ∧ partner? c = none := by
  constructor
  · intro h
    have hne : ∀ m ∈ marks, c ≠ m := fun m hm he => h (he ▸ hm)
    simp only [marks, List.forall_mem_cons] at hne
    obtain ⟨h1, h2, h3, h4, h5, h6, h7, h8, h9, h10, -⟩ := hne
    refine ⟨by simp [Dialect.isQuote, h7, h8, h9], h10, by simp [isOpening, h1, h3, h5], ?_⟩
    cases hpartner : partner? c with
    | none => rfl
    | some o =>
      have hmem : c ∈ marks := by
        cases paired_iff.2 hpartner <;> decide
      exact absurd hmem h
  · rintro ⟨hquote, hhash, hopening, hpartner⟩ hmem
    have hmarks : ∀ m ∈ marks, Dialect.isQuote m = true ∨ m = '#' ∨ isOpening m = true ∨
        partner? m ≠ none := by
      simp only [marks, List.forall_mem_cons, List.not_mem_nil, false_implies, implies_true]
      decide
    rcases hmarks c hmem with h | h | h | h
    · rw [hquote] at h
      cases h
    · exact hhash h
    · rw [hopening] at h
      cases h
    · exact h hpartner

/-! ## What is derived is balanced -/

/-- A character of code opens a bracket, closes the innermost one or is ordinary. -/
theorem nest_code_eq_some_iff {opened opened' : List Char} (hquote : Dialect.isQuote c = false)
    (hhash : c ≠ '#') : (Lexeme.code c).nest opened = some opened' ↔
      (isOpening c = true ∧ opened' = c :: opened) ∨ (c ∉ marks ∧ opened' = opened) ∨
        ∃ o, Paired o c ∧ opened = o :: opened' := by
  have hmarks : c ∉ marks ↔ isOpening c = false ∧ partner? c = none := by
    rw [not_mem_marks_iff]
    exact ⟨fun h => h.2.2, fun h => ⟨hquote, hhash, h⟩⟩
  simp only [Lexeme.nest, paired_iff, hmarks]
  cases hopening : isOpening c with
  | true =>
    have hpartner : partner? c = none := by
      obtain ⟨_, hpair⟩ := exists_paired_of_isOpening hopening
      cases hpair <;> rfl
    simp [hpartner, eq_comm]
  | false =>
    cases hpartner : partner? c with
    | none => simp [eq_comm]
    | some p =>
      cases opened with
      | nil => simp
      | cons o opened => by_cases ho : o = p <;> simp [ho, eq_comm]

/-- What is last behind a lexeme that is no comment, is no comment or one of the rest. -/
theorem last_of_cons {l l' : Lexeme} (h : l.isComment = false) (hl : l' ∈ (l :: ls).getLast?)
    (hcomment : l'.isComment = true) : ∃ l ∈ ls.getLast?, l.isComment = true := by
  cases ls with
  | nil =>
    rw [List.getLast?_singleton] at hl
    cases hl
    rw [h] at hcomment
    cases hcomment
  | cons m ls =>
    rw [List.getLast?_cons_cons] at hl
    exact ⟨l', hl, hcomment⟩

/-- **What is derived is read into balanced lexemes**, and a comment at its end needs a line feed or
the end of the text behind it. -/
theorem Derives.lexes (h : Derives d after cs) : ∃ ls, Lexes d.lexicon cs ls ∧
    nesting [] ls = some [] ∧
    ((∃ l ∈ ls.getLast?, l.isComment = true) → ∀ c ∈ after.head?, c = '\n') := by
  induction h with
  | nil => exact ⟨[], .nil, rfl, by simp⟩
  | @ordinary after cs c hc _ ih =>
    obtain ⟨ls, hls, hnest, hlast⟩ := ih
    obtain ⟨hquote, hhash, -⟩ := not_mem_marks_iff.1 hc
    have hcode : (Lexeme.code c).nest [] = some [] :=
      (nest_code_eq_some_iff hquote hhash).2 (.inr (.inl ⟨hc, rfl⟩))
    refine ⟨.code c :: ls, .code hquote hhash hls, ?_, ?_⟩
    · rw [nesting, hcode]
      exact hnest
    · rintro ⟨l, hl, hcomment⟩
      exact hlast (last_of_cons rfl hl hcomment)
  | @literal after cs lit hlit _ ih =>
    obtain ⟨ls, hls, hnest, hlast⟩ := ih
    obtain ⟨q, body, rfl, hquote, hbody⟩ := hlit.exists_body
    refine ⟨.literal q body :: ls, ?_, hnest, ?_⟩
    · have hread : Lexes d.lexicon (q :: (body ++ q :: cs)) (.literal q body :: ls) :=
        .literal hquote hbody hls
      simpa using hread
    · rintro ⟨l, hl, hcomment⟩
      exact hlast (last_of_cons rfl hl hcomment)
  | @bracketed after inside cs o c hpair _ _ ihin ih =>
    obtain ⟨ls, hls, hnest, hlast⟩ := ih
    obtain ⟨ins, hins, hnestin, hlastin⟩ := ihin
    obtain ⟨hquote, hhash, -, hfeed⟩ := closing_of_paired hpair
    obtain ⟨hquote', hhash'⟩ := opening_of_paired hpair
    have hclose : (Lexeme.code c).nest [o] = some [] :=
      (nest_code_eq_some_iff hquote hhash).2 (.inr (.inr ⟨o, hpair, rfl⟩))
    have hopen : (Lexeme.code o).nest [] = some [o] :=
      (nest_code_eq_some_iff hquote' hhash').2 (.inl ⟨isOpening_of_paired hpair, rfl⟩)
    have hinside : nesting [o] ins = some [o] := nesting_outer [o] hnestin
    refine ⟨.code o :: (ins ++ .code c :: ls), .code hquote' hhash' ?_, ?_, ?_⟩
    · -- a comment cannot end right before the closing bracket
      refine hins.append (.code hquote hhash hls) fun hcomment => ?_
      exact absurd (hlastin hcomment c (by simp)) hfeed
    · rw [nesting, hopen, Option.bind_some, nesting_append, hinside, Option.bind_some, nesting, hclose]
      exact hnest
    · rintro ⟨l, hl, hcomment⟩
      rw [← List.cons_append, List.getLast?_append_cons] at hl
      exact hlast (last_of_cons rfl hl hcomment)
  | @comment after text cs hd htext hend _ ih =>
    obtain ⟨ls, hls, hnest, hlast⟩ := ih
    subst hd
    have htext : ∀ c ∈ text, Dialect.metrics.lexicon.endsComment c = false := by
      intro c hc
      have hne : c ≠ '\n' := fun he => htext (he ▸ hc)
      simpa [Dialect.lexicon] using hne
    refine ⟨.comment text :: ls, .comment rfl htext (fun c hc => ?_) hls, hnest, ?_⟩
    · have hfeed : c = '\n' := hend c (by rw [List.head?_append, Option.mem_def.1 hc]; rfl)
      simpa [Dialect.lexicon] using hfeed
    · rintro ⟨l, hl, hcomment⟩
      cases ls with
      | nil =>
        have hcs : cs = [] := hls.flatMap_chars.symm
        rwa [hcs] at hend
      | cons m ls =>
        rw [List.getLast?_cons_cons] at hl
        exact hlast ⟨l, hl, hcomment⟩

/-! ## Balanced lexemes are derived -/

/-- **What is left to derive while brackets are open**, the innermost first: up to its partner each,
and then up to the end of the text. -/
def Closes (d : Dialect) : List Char → List Char → Prop
  | [], cs => Derives d [] cs
  | o :: opened, cs => ∃ inside c rest, cs = inside ++ c :: rest ∧ Paired o c ∧
      Derives d (c :: rest) inside ∧ Closes d opened rest

/-- **One more item in front** of what is left. -/
theorem Closes.prepend {item rest : List Char}
    (hitem : ∀ after cs, cs ++ after = rest → Derives d after cs → Derives d after (item ++ cs)) :
    ∀ {opened : List Char}, Closes d opened rest → Closes d opened (item ++ rest)
  | [], h => hitem [] rest (List.append_nil rest) h
  | _ :: _, ⟨inside, c, rest', hrest, hpair, hinside, hlater⟩ =>
    ⟨item ++ inside, c, rest', by rw [hrest, List.append_assoc], hpair,
      hitem (c :: rest') inside hrest.symm hinside, hlater⟩

/-- **Lexemes whose brackets are balanced are derived.** -/
theorem closes_of_lexes (h : Lexes d.lexicon cs ls) :
    ∀ {opened : List Char}, nesting opened ls = some [] → Closes d opened cs := by
  -- on the reading, for any open brackets: each lexeme goes in front of what is left behind it
  induction h with
  | nil =>
    intro opened hnest
    cases hnest
    exact .nil
  | @code c cs ls hquote hhash _ ih =>
    intro opened hnest
    obtain ⟨opened', hcode, hnest⟩ := Option.bind_eq_some_iff.1 hnest
    have hrest := ih hnest
    rcases (nest_code_eq_some_iff hquote hhash).1 hcode with
      ⟨hopening, rfl⟩ | ⟨hc, rfl⟩ | ⟨o, hpair, rfl⟩
    · obtain ⟨inside, c', rest, rfl, hpair, hinside, hlater⟩ := hrest
      have hitem : ∀ after cs, cs ++ after = rest → Derives d after cs →
          Derives d after ((c :: (inside ++ [c'])) ++ cs) := by
        rintro after cs rfl hcs
        simpa using Derives.bracketed hpair hinside hcs
      simpa using hlater.prepend hitem
    · have hitem : ∀ after ds, ds ++ after = cs → Derives d after ds →
          Derives d after ([c] ++ ds) := fun _ _ _ hds => .ordinary hc hds
      exact hrest.prepend hitem
    · exact ⟨[], c, cs, rfl, hpair, .nil, hrest⟩
  | @literal q body cs ls hquote hbody _ ih =>
    intro opened hnest
    have hitem := (ih hnest).prepend fun _ _ _ => Derives.literal (isLiteral_of_body hquote hbody)
    simpa using hitem
  | @comment text cs ls hx htext hend _ ih =>
    intro opened hnest
    have hd : d = .metrics := by simpa [Dialect.lexicon] using hx
    have hfeed : '\n' ∉ text := fun hmem => by simpa [Dialect.lexicon] using htext _ hmem
    have hitem : ∀ after ds, ds ++ after = cs → Derives d after ds →
        Derives d after (('#' :: text) ++ ds) := by
      rintro after ds rfl hds
      exact .comment hd hfeed (fun c hc => by simpa [Dialect.lexicon] using hend c hc) hds
    exact (ih hnest).prepend hitem

/-- **What the scanner accepts is what the grammar derives.** -/
theorem check_accepts_iff : (∃ hasComment, check d cs = .ok hasComment) ↔ Derives d [] cs := by
  constructor
  · rintro ⟨hasComment, hcheck⟩
    obtain ⟨ls, hls, hnest, -⟩ := check_ok_iff.1 hcheck
    exact closes_of_lexes hls hnest
  · intro h
    obtain ⟨ls, hls, hnest, -⟩ := h.lexes
    exact ⟨_, check_ok_iff.2 ⟨ls, hls, hnest, rfl⟩⟩

/-- A bracket in a literal or in a comment has no partner, and needs none. -/
example : Derives .metrics [] "sum(up\x7bpath=\"(\"\x7d) # )".toList :=
  check_accepts_iff.1 ⟨true, rfl⟩

/-- A filter is put around what the scanner accepts. -/
theorem injectFilter_eq (d : Dialect) (e r : String) : injectFilter d e r =
    (check d (trim e.toList)).map fun hasComment =>
      if (trim e.toList).isEmpty then d.resourceFilter r
      else wrap d (String.ofList (trim e.toList)) hasComment r := by
  simp only [injectFilter, bind, Except.bind, pure, Except.pure, Except.map]
  cases check d (trim e.toList) with
  | error f => rfl
  | ok hasComment =>
    simp only
    split <;> rfl

/-- **A filter is put around an expression of the grammar**, and around no other text: every other
one is refused as malformed, after one pass over its characters. -/
theorem injectFilter_accepts_derived (d : Dialect) (e r : String) :
    ((∃ q, injectFilter d e r = .ok q) ↔ Derives d [] (trim e.toList)) ∧
      (¬ Derives d [] (trim e.toList) → ∃ fault : Fault,
        (injectFilter d e r).mapError QueryFault.toFault = .error fault ∧
          fault.code = .invalidFormat) := by
  rw [injectFilter_eq, ← check_accepts_iff]
  cases hcheck : check d (trim e.toList) with
  | error f => exact ⟨by simp [Except.map], fun _ => ⟨f.toFault, rfl, rfl⟩⟩
  | ok hasComment =>
    exact ⟨by simp [Except.map], fun hrefused => absurd ⟨hasComment, rfl⟩ hrefused⟩

end TenantGuard.Expression
