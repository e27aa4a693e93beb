import TenantGuard.Proofs.Expression.Lexeme
import TenantGuard.Query.Selector

/-!
# String literals

A literal runs from a quote to the same quote.  What may stand between the two depends on the quote
and on the language.

* `Dialect.Quoting` lists the quotes of a language and says where a backslash escapes the next
  character, `IsLiteral` is a whole literal;
* `quoting_iff` ties the list to the tests that run;
* `splitLiteral_eq_ok_iff`: what `Selector.splitLiteral` cuts off the front of a text is a literal,
  and it cuts off every literal that stands there.
-/

namespace TenantGuard

theorem map_eq_ok_iff {α β ε : Type} {f : α → β} {x : Except ε α} {b : β} :
    x.map f = .ok b ↔ ∃ a, x = .ok a ∧ f a = b := by
  cases x <;> simp [Except.map]

/-- **The kinds of string literals**: the quote, and whether a backslash escapes. -/
inductive Dialect.Quoting : Dialect → Char → Bool → Prop where
  | double {d : Dialect} : Quoting d '"' true
  | single : Quoting .metrics '\'' true
  | singleRaw : Quoting .logs '\'' false
  | back {d : Dialect} : Quoting d '\x60' false

namespace Expression

variable {d : Dialect} {q : Char} {escapes : Bool}

theorem quoting_iff : d.Quoting q escapes ↔
    Dialect.isQuote q = true ∧ escapes = d.hasEscapes q := by
  constructor
  · intro h
    cases h with
    | double => exact ⟨rfl, rfl⟩
    | single => exact ⟨rfl, rfl⟩
    | singleRaw => exact ⟨rfl, rfl⟩
    | back => cases d <;> exact ⟨rfl, rfl⟩
  · rintro ⟨hq, rfl⟩
    simp only [Dialect.isQuote, Bool.or_eq_true, beq_iff_eq] at hq
    rcases hq with (rfl | rfl) | rfl
    · exact .double
    · cases d with
      | logs => exact .singleRaw
      | metrics => exact .single
    · cases d <;> exact .back

theorem ne_backslash_of_isQuote (h : Dialect.isQuote q = true) : q ≠ '\\' := by
  rintro rfl
  rw [not_isQuote_backslash] at h
  cases h

/-- **A complete string literal**, quotes included. -/
inductive IsLiteral (d : Dialect) : List Char → Prop where
  | quoted {q : Char} {escapes : Bool} {body : List Char} : d.Quoting q escapes →
      LiteralBody escapes q body → IsLiteral d (q :: (body ++ [q]))

theorem isLiteral_of_body {body : List Char} (hq : Dialect.isQuote q = true)
    (h : LiteralBody (d.hasEscapes q) q body) : IsLiteral d (q :: (body ++ [q])) :=
  .quoted (quoting_iff.2 ⟨hq, rfl⟩) h

/-- The quote that a literal starts with, and its body by the test that runs. -/
theorem IsLiteral.exists_body {lit : List Char} (h : IsLiteral d lit) :
    ∃ q body, lit = q :: (body ++ [q]) ∧ Dialect.isQuote q = true ∧
      LiteralBody (d.hasEscapes q) q body := by
  cases h with
  | @quoted q escapes body hq hbody =>
    obtain ⟨hquote, rfl⟩ := quoting_iff.1 hq
    exact ⟨q, body, rfl, hquote, hbody⟩

end Expression

namespace Selector

open Expression (LiteralBody IsLiteral ne_backslash_of_isQuote isLiteral_of_body)

variable {d : Dialect} {q c : Char} {escapes : Bool} {cs lit rest : List Char}

/-! ## Cutting off a literal -/

theorem splitBody_quote (hq : q ≠ '\\') (cs : List Char) :
    splitBody q escapes (q :: cs) = .ok ([q], cs) := by
  cases cs with
  | nil => rw [splitBody, if_neg hq, if_pos rfl]
  | cons e cs => rw [splitBody, if_neg hq, if_pos rfl]

theorem splitBody_plain (hq : c ≠ q) (hb : c ≠ '\\') (cs : List Char) :
    splitBody q escapes (c :: cs) = (splitBody q escapes cs).map fun p => (c :: p.1, p.2) := by
  cases cs with
  | nil => simp only [splitBody, if_neg hb, if_neg hq, Except.map]
  | cons e cs => rw [splitBody, if_neg hb, if_neg hq]

theorem splitBody_escape (q e : Char) (cs : List Char) :
    splitBody q true ('\\' :: e :: cs) =
      (splitBody q true cs).map fun p => ('\\' :: e :: p.1, p.2) := by
  rw [splitBody, if_pos rfl, if_pos rfl]

/-- A text that is cut has a body in front of the cut. -/
theorem body_of_splitBody {q : Char} {escapes : Bool} {lit rest : List Char} :
    ∀ cs, splitBody q escapes cs = .ok (lit, rest) →
      ∃ body, LiteralBody escapes q body ∧ lit = body ++ [q] ∧ cs = body ++ q :: rest
  | [], h => by cases h
  | [c], h => by
    rw [splitBody] at h
    split at h
    · cases h
    split at h
    next hc =>
      cases h
      exact ⟨[], .nil, by rw [hc, List.nil_append], by rw [hc, List.nil_append]⟩
    · cases h
  | c :: e :: cs, h => by
    rw [splitBody] at h
    split at h
    next hb =>
      split at h
      next hescapes =>
        obtain ⟨⟨lit', rest'⟩, hcut, he⟩ := map_eq_ok_iff.1 h
        cases he
        obtain ⟨body, hbody, rfl, rfl⟩ := body_of_splitBody cs hcut
        exact ⟨c :: e :: body, hb ▸ .escape hescapes hbody, rfl, rfl⟩
      · cases h
    next hb =>
      split at h
      next hc =>
        cases h
        exact ⟨[], .nil, by rw [hc, List.nil_append], by rw [hc, List.nil_append]⟩
      next hc =>
        obtain ⟨⟨lit', rest'⟩, hcut, he⟩ := map_eq_ok_iff.1 h
        cases he
        obtain ⟨body, hbody, rfl, hcs⟩ := body_of_splitBody (e :: cs) hcut
        exact ⟨c :: body, .plain hc hb hbody, rfl, congrArg (c :: ·) hcs⟩

/-- A body and the quote behind it are cut off, whatever follows. -/
theorem splitBody_of_body {body : List Char} (hq : q ≠ '\\') (h : LiteralBody escapes q body)
    (rest : List Char) : splitBody q escapes (body ++ q :: rest) = .ok (body ++ [q], rest) := by
  induction h with
  | nil => exact splitBody_quote hq rest
  | plain hc hb _ ih =>
    rw [List.cons_append, splitBody_plain hc hb, ih]
    rfl
  | escape hescapes _ ih =>
    subst hescapes
    rw [List.cons_append, List.cons_append, splitBody_escape, ih]
    rfl

/-- **A literal is cut off the front of a text**, whatever follows it. -/
theorem splitLiteral_eq_ok_iff :
    splitLiteral d cs = .ok (lit, rest) ↔ IsLiteral d lit ∧ cs = lit ++ rest := by
  cases cs with
  | nil =>
    constructor
    · intro h
      cases h
    · rintro ⟨hlit, he⟩
      obtain ⟨q, body, rfl, -⟩ := hlit.exists_body
      cases he
  | cons c cs =>
    rw [splitLiteral]
    constructor
    · intro h
      split at h
      next hquote =>
        obtain ⟨⟨body, rest'⟩, hcut, he⟩ := map_eq_ok_iff.1 h
        cases he
        obtain ⟨body, hbody, rfl, rfl⟩ := body_of_splitBody cs hcut
        exact ⟨isLiteral_of_body hquote hbody, by simp⟩
      · cases h
    · rintro ⟨hlit, he⟩
      obtain ⟨q, body, rfl, hquote, hbody⟩ := hlit.exists_body
      obtain ⟨rfl, hcs⟩ := List.cons.inj he
      have hcs : cs = body ++ c :: rest := by simpa using hcs
      rw [if_pos hquote, hcs, splitBody_of_body (ne_backslash_of_isQuote hquote) hbody]
      rfl

end Selector

end TenantGuard
