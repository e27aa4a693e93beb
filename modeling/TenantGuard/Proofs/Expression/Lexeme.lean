import TenantGuard.Query.Expression

/-!
# The lexical rules of query languages

A text is a sequence of lexemes: single characters of code, string literals and comments.  Brackets
count in code alone.

* `Lexicon` says what varies from language to language, `Dialect.lexicon` is that of the scanner;
* `Lexes` reads a text from left to right: there is at most one way (`Lexes.unique`), and texts can
  be put side by side where the first does not end in a comment (`Lexes.append`);
* `nesting` keeps the open brackets, and `cutAtClosing` finds the lexeme that closes the outermost
  one: nothing that is balanced in itself does (`cutAtClosing_of_nesting`).
-/

namespace TenantGuard

/-- **The lexical rules of a query language.** -/
structure Lexicon where
  /-- Whether a backslash escapes the next character of a literal with this quote. -/
  escapes : Char → Bool
  /-- Whether `#` starts a comment; where it does not, it stands in literals only. -/
  comments : Bool
  /-- Whether a character ends a comment; it is not part of it. -/
  endsComment : Char → Bool

/-- The rules of a dialect: a comment goes up to the next line feed. -/
def Dialect.lexicon (d : Dialect) : Lexicon where
  escapes := d.hasEscapes
  comments := d == .metrics
  endsComment := (· == '\n')

namespace Expression

/-- **A piece of a text.** -/
inductive Lexeme where
  | code (c : Char)
  | literal (quote : Char) (body : List Char)
  | comment (text : List Char)
  deriving DecidableEq, Repr

namespace Lexeme

def chars : Lexeme → List Char
  | code c => [c]
  | literal q body => q :: (body ++ [q])
  | comment text => '#' :: text

def isComment : Lexeme → Bool
  | comment _ => true
  | _ => false

end Lexeme

/-- What may stand between the quotes of a literal. -/
inductive LiteralBody (escapes : Bool) (quote : Char) : List Char → Prop where
  | nil : LiteralBody escapes quote []
  | plain {c : Char} {cs : List Char} : c ≠ quote → c ≠ '\\' → LiteralBody escapes quote cs →
      LiteralBody escapes quote (c :: cs)
  | escape {c : Char} {cs : List Char} : escapes = true → LiteralBody escapes quote cs →
      LiteralBody escapes quote ('\\' :: c :: cs)

/-- **Reads a text from left to right.** -/
inductive Lexes (x : Lexicon) : List Char → List Lexeme → Prop where
  | nil : Lexes x [] []
  | code {c : Char} {cs : List Char} {ls : List Lexeme} : Dialect.isQuote c = false → c ≠ '#' →
      Lexes x cs ls → Lexes x (c :: cs) (.code c :: ls)
  | literal {q : Char} {body cs : List Char} {ls : List Lexeme} : Dialect.isQuote q = true →
      LiteralBody (x.escapes q) q body → Lexes x cs ls →
      Lexes x (q :: (body ++ q :: cs)) (.literal q body :: ls)
  | comment {text cs : List Char} {ls : List Lexeme} : x.comments = true →
      (∀ c ∈ text, x.endsComment c = false) → (∀ c ∈ cs.head?, x.endsComment c = true) →
      Lexes x cs ls → Lexes x ('#' :: (text ++ cs)) (.comment text :: ls)

variable {x : Lexicon} {cs ds : List Char} {ls ms : List Lexeme}

/-! ## One reading -/

theorem isQuote_hash : Dialect.isQuote '#' = false := by decide

theorem not_isQuote_backslash : Dialect.isQuote '\\' = false := by decide

/-- The closing quote of a literal is where its body says. -/
theorem LiteralBody.unique {escapes : Bool} {q : Char} (hq : q ≠ '\\') {b b' : List Char}
    (h : LiteralBody escapes q b) (h' : LiteralBody escapes q b') {r r' : List Char}
    (he : b ++ q :: r = b' ++ q :: r') : b = b' ∧ r = r' := by
  induction h generalizing b' with
  | nil =>
    cases h' with
    | nil => exact ⟨rfl, by simpa using he⟩
    | plain hne _ _ => exact absurd (List.cons.inj he).1.symm hne
    | escape _ _ => exact absurd (List.cons.inj he).1 hq
  | plain hne hb _ ih =>
    cases h' with
    | nil => exact absurd (List.cons.inj he).1 hne
    | plain _ _ h' =>
      obtain ⟨hc, ht⟩ := List.cons.inj he
      obtain ⟨h1, h2⟩ := ih h' ht
      exact ⟨by rw [hc, h1], h2⟩
    | escape _ _ => exact absurd (List.cons.inj he).1 hb
  | escape _ _ ih =>
    cases h' with
    | nil => exact absurd (List.cons.inj he).1.symm hq
    | plain _ hb _ => exact absurd (List.cons.inj he).1.symm hb
    | escape _ h' =>
      obtain ⟨hc, ht⟩ := List.cons.inj (List.cons.inj he).2
      obtain ⟨h1, h2⟩ := ih h' ht
      exact ⟨by rw [hc, h1], h2⟩

/-- The end of a comment is where its text says. -/
theorem comment_unique {p : Char → Bool} {t t' r r' : List Char} (ht : ∀ c ∈ t, p c = false)
    (hr : ∀ c ∈ r.head?, p c = true) (ht' : ∀ c ∈ t', p c = false)
    (hr' : ∀ c ∈ r'.head?, p c = true) (he : t ++ r = t' ++ r') : t = t' ∧ r = r' := by
  induction t generalizing t' with
  | nil =>
    cases t' with
    | nil => exact ⟨rfl, he⟩
    | cons c t' =>
      have h1 := hr c (by simp at he; simp [he])
      rw [ht' c (by simp)] at h1
      simp at h1
  | cons c t ih =>
    cases t' with
    | nil =>
      have h1 := hr' c (by simp at he; simp [← he])
      rw [ht c (by simp)] at h1
      simp at h1
    | cons c' t' =>
      obtain ⟨hc, he⟩ := List.cons.inj he
      obtain ⟨h1, h2⟩ := ih (fun c h => ht c (by simp [h])) (fun c h => ht' c (by simp [h])) he
      exact ⟨by rw [hc, h1], h2⟩

/-- **A text is read in at most one way.** -/
theorem Lexes.unique (h : Lexes x cs ls) (h' : Lexes x cs ms) : ls = ms := by
  induction h generalizing ms with
  | nil => cases h'; rfl
  | code hq hc _ ih =>
    cases h' with
    | code _ _ h' => rw [ih h']
    | literal hq' _ _ => simp [hq] at hq'
    | comment _ _ _ _ => exact absurd rfl hc
  | @literal q body cs ls hq hb _ ih =>
    have hne : q ≠ '\\' := fun h => by simp [h, not_isQuote_backslash] at hq
    generalize htext : q :: (body ++ q :: cs) = text at h'
    cases h' with
    | nil => simp at htext
    | code hq' _ _ =>
      rw [← (List.cons.inj htext).1, hq] at hq'
      simp at hq'
    | literal _ hb' h' =>
      obtain ⟨rfl, ht⟩ := List.cons.inj htext
      obtain ⟨rfl, rfl⟩ := hb.unique hne hb' ht
      rw [ih h']
    | comment _ _ _ _ =>
      rw [(List.cons.inj htext).1, isQuote_hash] at hq
      simp at hq
  | @comment text cs ls _ ht hr _ ih =>
    generalize htext : '#' :: (text ++ cs) = whole at h'
    cases h' with
    | nil => simp at htext
    | code _ hc _ => exact absurd (List.cons.inj htext).1.symm hc
    | literal hq _ _ =>
      rw [← (List.cons.inj htext).1, isQuote_hash] at hq
      simp at hq
    | comment _ ht' hr' h' =>
      obtain ⟨rfl, rfl⟩ := comment_unique ht hr ht' hr' (List.cons.inj htext).2
      rw [ih h']

/-- Nothing is lost in reading. -/
theorem Lexes.flatMap_chars (h : Lexes x cs ls) : ls.flatMap Lexeme.chars = cs := by
  induction h with
  | nil => rfl
  | code _ _ _ ih => simp [Lexeme.chars, ih]
  | literal _ _ _ ih => simp [Lexeme.chars, ih]
  | comment _ _ _ _ ih => simp [Lexeme.chars, ih]

/-! ## Texts side by side -/

/-- Whether a character is code wherever it stands outside of literals and comments. -/
def isCode (c : Char) : Bool := !Dialect.isQuote c && c != '#'

/-- Characters of code are read one by one, whatever follows. -/
theorem lexes_code_append (h : cs.all isCode = true) (h' : Lexes x ds ms) :
    Lexes x (cs ++ ds) (cs.map .code ++ ms) := by
  induction cs with
  | nil => exact h'
  | cons c cs ih =>
    rw [List.all_cons, Bool.and_eq_true] at h
    obtain ⟨hq, hc⟩ : Dialect.isQuote c = false ∧ c ≠ '#' := by simpa [isCode] using h.1
    exact .code hq hc (ih h.2)

theorem lexes_code (h : cs.all isCode = true) : Lexes x cs (cs.map .code) := by
  simpa using lexes_code_append h (.nil : Lexes x [] [])

/-- **Texts side by side** are read one after the other, if what follows ends a comment at the end
of the first. -/
theorem Lexes.append (h : Lexes x cs ls) (h' : Lexes x ds ms)
    (hend : (∃ l ∈ ls.getLast?, l.isComment = true) → ∀ c ∈ ds.head?, x.endsComment c = true) :
    Lexes x (cs ++ ds) (ls ++ ms) := by
  induction h with
  | nil => exact h'
  | @code c cs ls hq hc h ih =>
    refine .code hq hc (ih fun hl => hend ?_)
    obtain ⟨l, hl, hcom⟩ := hl
    exact ⟨l, by simp_all [List.getLast?_cons], hcom⟩
  | @literal q body cs ls hq hb h ih =>
    rw [List.cons_append, List.append_assoc, List.cons_append]
    refine .literal hq hb (ih fun hl => hend ?_)
    obtain ⟨l, hl, hcom⟩ := hl
    exact ⟨l, by simp_all [List.getLast?_cons], hcom⟩
  | @comment text cs ls hx ht hr h ih =>
    rw [List.cons_append, List.append_assoc]
    have hlater : (∃ l ∈ ls.getLast?, l.isComment = true) → ∀ c ∈ ds.head?, x.endsComment c = true :=
      fun hl => hend <| by
        obtain ⟨l, hl, hcom⟩ := hl
        exact ⟨l, by simp_all [List.getLast?_cons], hcom⟩
    refine .comment hx ht ?_ (ih hlater)
    cases cs with
    | cons c cs => simpa using hr
    | nil =>
      -- The comment goes up to the end of the first text.
      cases h
      exact hend ⟨.comment text, by simp, rfl⟩

/-- What stands behind a text that does not end in a comment is read on its own. -/
theorem Lexes.append_of_last (h : Lexes x cs ls) (h' : Lexes x ds ms)
    (hlast : ∀ l ∈ ls.getLast?, l.isComment = false) : Lexes x (cs ++ ds) (ls ++ ms) := by
  refine h.append h' ?_
  rintro ⟨l, hl, hcom⟩
  rw [hlast l hl] at hcom
  cases hcom

/-! ## Brackets -/

/-- The brackets that are open behind a lexeme, the innermost first; `none`: it closes none that is
open. -/
def Lexeme.nest (opened : List Char) : Lexeme → Option (List Char)
  | .code c =>
    if isOpening c then some (c :: opened)
    else match partner? c with
      | none => some opened
      | some p =>
        match opened with
        | o :: rest => if o = p then some rest else none
        | [] => none
  | _ => some opened

/-- **The brackets that are open behind a sequence of lexemes.** -/
def nesting (opened : List Char) : List Lexeme → Option (List Char)
  | [] => some opened
  | l :: ls => (l.nest opened).bind fun opened => nesting opened ls

theorem nesting_append (opened : List Char) (ls ms : List Lexeme) :
    nesting opened (ls ++ ms) = (nesting opened ls).bind fun opened => nesting opened ms := by
  induction ls generalizing opened with
  | nil => rfl
  | cons l ls ih =>
    rw [List.cons_append, nesting, nesting, Option.bind_assoc]
    congr 1
    funext opened
    exact ih opened

/-- Brackets further out do not matter. -/
theorem Lexeme.nest_append {l : Lexeme} {opened opened' : List Char} (outer : List Char)
    (h : l.nest opened = some opened') : l.nest (opened ++ outer) = some (opened' ++ outer) := by
  cases l with
  | literal q body => simpa [nest] using h
  | comment text => simpa [nest] using h
  | code c =>
    simp only [nest] at h ⊢
    split at h
    next hc =>
      cases h
      rw [if_pos hc, List.cons_append]
    next hc =>
    rw [if_neg hc]
    split at h
    · simp_all
    next p _ =>
    cases opened with
    | nil => simp at h
    | cons o rest =>
      simp only [List.cons_append]
      split at h
      next ho => simp_all
      · simp at h

theorem nesting_outer {ls : List Lexeme} {opened opened' : List Char} (outer : List Char)
    (h : nesting opened ls = some opened') :
    nesting (opened ++ outer) ls = some (opened' ++ outer) := by
  induction ls generalizing opened with
  | nil => simpa [nesting] using h
  | cons l ls ih =>
    obtain ⟨mid, hmid, h⟩ := Option.bind_eq_some_iff.1 h
    rw [nesting, Lexeme.nest_append outer hmid]
    exact ih h

/-- **Cuts where the outermost open bracket is closed**: what stands before, and the rest from the
closing bracket on. -/
def cutAtClosing (opened : List Char) : List Lexeme → Option (List Lexeme × List Lexeme)
  | [] => none
  | l :: ls =>
    match l.nest opened with
    | none => none
    | some [] => some ([], l :: ls)
    | some (o :: opened) => (cutAtClosing (o :: opened) ls).map fun (before, rest) =>
      (l :: before, rest)

/-- **A bracket is closed by what follows a balanced sequence**, and by nothing in it. -/
theorem cutAtClosing_of_nesting {ls : List Lexeme} {opened : List Char} {o c : Char}
    (h : nesting opened ls = some []) (hc : (Lexeme.code c).nest [o] = some [])
    (rest : List Lexeme) :
    cutAtClosing (opened ++ [o]) (ls ++ .code c :: rest) = some (ls, .code c :: rest) := by
  induction ls generalizing opened with
  | nil =>
    cases h
    rw [List.nil_append, List.nil_append, cutAtClosing, hc]
  | cons l ls ih =>
    obtain ⟨mid, hmid, h⟩ := Option.bind_eq_some_iff.1 h
    have hne := Lexeme.nest_append [o] hmid
    rw [List.cons_append, cutAtClosing, hne]
    cases mid with
    | nil => simp only [List.nil_append]; rw [← List.nil_append [o], ih h]; rfl
    | cons m mid => simp only [List.cons_append]; rw [← List.cons_append, ih h]; rfl

end Expression

end TenantGuard
