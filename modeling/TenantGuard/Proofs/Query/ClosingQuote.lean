import TenantGuard.Proofs.Query.Literal
import TenantGuard.Proofs.Text.Utf8

/-!
# Where a string literal ends

The literal at the start of a text ends at the first quote of its kind that is not escaped, and what
stands behind that quote does not matter.

* `isEscaped` says which characters are escaped and `ClosesAt` which quote closes a literal: both
  look at places of the text and know nothing of the way it is read;
* `literalBody_iff`: what may stand between the quotes, by its places;
* `isLiteral_iff_cutAt`: a text is cut behind the closing quote, if there is one and no backslash
  stands in its way;
* `CutAt.bytes`: the closing quote is one byte, and a cut behind it is one between characters;
* `splitLiteral_cuts_behind_quote` puts them together.
-/

namespace TenantGuard

namespace Expression

variable {d : Dialect} {q : Char} {escapes : Bool} {cs front back body lit rest : List Char}
  {i j : Nat}

/-! ## Places -/

/-- **Whether the character at a place is escaped**: a backslash stands directly before it that is
not escaped itself. -/
def isEscaped (escapes : Bool) (cs : List Char) : Nat → Bool
  | 0 => false
  | i + 1 => escapes && cs[i]? == some '\\' && !isEscaped escapes cs i

/-- **The closing quote** of the literal at the start of a text: behind the opening one, it is the
first of its kind that is not escaped. -/
structure ClosesAt (escapes : Bool) (q : Char) (cs : List Char) (i : Nat) : Prop where
  behind : 0 < i
  quote : cs[i]? = some q
  unescaped : isEscaped escapes cs i = false
  first : ∀ j, 0 < j → j < i → cs[j]? = some q → isEscaped escapes cs j = true

/-- There is one closing quote at most. -/
theorem ClosesAt.unique (h : ClosesAt escapes q cs i) (h' : ClosesAt escapes q cs j) : i = j := by
  rcases Nat.lt_trichotomy i j with hlt | heq | hlt
  · exact absurd (h'.first i h.behind hlt h.quote) (by simp [h.unescaped])
  · exact heq
  · exact absurd (h.first j h'.behind hlt h'.quote) (by simp [h'.unescaped])

/-- Whether a character is escaped depends on what stands before it only. -/
theorem isEscaped_append_left (hi : i ≤ front.length) (back : List Char) :
    isEscaped escapes (front ++ back) i = isEscaped escapes front i := by
  induction i with
  | zero => rfl
  | succ i ih =>
    rw [isEscaped, isEscaped, ih (Nat.le_of_succ_le hi), List.getElem?_append_left hi]

/-- Behind a text that escapes nothing behind it, places count from there. -/
theorem isEscaped_append_right (hfront : isEscaped escapes front front.length = false) :
    isEscaped escapes (front ++ back) (front.length + i) = isEscaped escapes back i := by
  induction i with
  | zero => rw [Nat.add_zero, isEscaped_append_left (Nat.le_refl _), hfront, isEscaped]
  | succ i ih =>
    rw [← Nat.add_assoc, isEscaped, isEscaped, ih,
      List.getElem?_append_right (Nat.le_add_right _ _), Nat.add_sub_cancel_left]

theorem isEscaped_singleton {c : Char} (hc : c ≠ '\\') : isEscaped escapes [c] 1 = false := by
  simp [isEscaped, hc]

theorem isEscaped_cons {c : Char} (hc : c ≠ '\\') :
    isEscaped escapes (c :: cs) (i + 1) = isEscaped escapes cs i := by
  have h : isEscaped escapes ([c] ++ cs) (1 + i) = isEscaped escapes cs i :=
    isEscaped_append_right (isEscaped_singleton hc)
  rwa [Nat.add_comm] at h

theorem isEscaped_escape {c : Char} :
    isEscaped true ('\\' :: c :: cs) (i + 2) = isEscaped true cs i := by
  have hfront : isEscaped true ['\\', c] 2 = false := by simp [isEscaped]
  have h : isEscaped true (['\\', c] ++ cs) (2 + i) = isEscaped true cs i :=
    isEscaped_append_right hfront
  rwa [Nat.add_comm] at h

/-- How many bytes stand before a place. -/
def bytesBefore (cs : List Char) (i : Nat) : Nat := (Text.Utf8.encode (cs.take i)).length

/-! ## Between the quotes -/

/-- **What stands between the quotes, by its places**: each quote of the kind is escaped, the end is
not, and without escapes there is no backslash. -/
structure Enclosed (escapes : Bool) (q : Char) (body : List Char) : Prop where
  quotes : ∀ i, body[i]? = some q → isEscaped escapes body i = true
  last : isEscaped escapes body body.length = false
  plain : escapes = false → '\\' ∉ body

theorem enclosed_nil : Enclosed escapes q [] := ⟨nofun, rfl, fun _ => List.not_mem_nil⟩

theorem enclosed_cons_iff {c : Char} (hc : c ≠ '\\') :
    Enclosed escapes q (c :: cs) ↔ c ≠ q ∧ Enclosed escapes q cs := by
  constructor
  · intro h
    refine ⟨fun hq => ?_, fun i hi => ?_, ?_, fun he hb => h.plain he (List.mem_cons_of_mem _ hb)⟩
    · exact absurd (h.quotes 0 (congrArg some hq)) (by simp [isEscaped])
    · rw [← isEscaped_cons hc]
      exact h.quotes (i + 1) hi
    · rw [← isEscaped_cons hc]
      exact h.last
  · rintro ⟨hq, h⟩
    refine ⟨fun i hi => ?_, ?_, fun he hb => ?_⟩
    · cases i with
      | zero => exact absurd (Option.some.inj hi) hq
      | succ i =>
        rw [isEscaped_cons hc]
        exact h.quotes i hi
    · rw [List.length_cons, isEscaped_cons hc]
      exact h.last
    · rcases List.mem_cons.1 hb with hb | hb
      · exact hc hb.symm
      · exact h.plain he hb

theorem enclosed_escape_iff {c : Char} (hescapes : escapes = true) (hq : q ≠ '\\') :
    Enclosed escapes q ('\\' :: c :: cs) ↔ Enclosed escapes q cs := by
  subst hescapes
  constructor
  · intro h
    refine ⟨fun i hi => ?_, ?_, nofun⟩
    · rw [← isEscaped_escape (c := c)]
      exact h.quotes (i + 2) hi
    · rw [← isEscaped_escape (c := c)]
      exact h.last
  · intro h
    refine ⟨fun i hi => ?_, ?_, nofun⟩
    · match i with
      | 0 => exact absurd (Option.some.inj hi).symm hq
      | 1 => simp [isEscaped]
      | i + 2 =>
        rw [isEscaped_escape]
        exact h.quotes i hi
    · rw [List.length_cons, List.length_cons, isEscaped_escape]
      exact h.last

/-- A backslash escapes, and there is something that it does escape. -/
theorem Enclosed.of_backslash (h : Enclosed escapes q ('\\' :: cs)) :
    escapes = true ∧ ∃ c tail, cs = c :: tail := by
  have hescapes : escapes = true := by
    cases escapes with
    | true => rfl
    | false => exact absurd List.mem_cons_self (h.plain rfl)
  refine ⟨hescapes, ?_⟩
  cases cs with
  | nil => exact absurd h.last (by simp [isEscaped, hescapes])
  | cons c tail => exact ⟨c, tail, rfl⟩

theorem enclosed_of_literalBody (hq : q ≠ '\\') (h : LiteralBody escapes q body) :
    Enclosed escapes q body := by
  induction h with
  | nil => exact enclosed_nil
  | plain hc hb _ ih => exact (enclosed_cons_iff hb).2 ⟨hc, ih⟩
  | escape hescapes _ ih => exact (enclosed_escape_iff hescapes hq).2 ih

theorem literalBody_of_enclosed (hq : q ≠ '\\') :
    ∀ {body}, Enclosed escapes q body → LiteralBody escapes q body
  | [], _ => .nil
  | [c], h => by
    by_cases hb : c = '\\'
    · subst hb
      obtain ⟨-, c, tail, htail⟩ := h.of_backslash
      cases htail
    · exact .plain ((enclosed_cons_iff hb).1 h).1 hb .nil
  | c :: e :: cs, h => by
    by_cases hb : c = '\\'
    · subst hb
      -- The backslash takes the next character with it, whatever that is.
      have hescapes := h.of_backslash.1
      exact .escape hescapes (literalBody_of_enclosed hq ((enclosed_escape_iff hescapes hq).1 h))
    · obtain ⟨hc, h⟩ := (enclosed_cons_iff hb).1 h
      exact .plain hc hb (literalBody_of_enclosed hq h)

/-- **The body of a literal, read from left to right and by its places.** -/
theorem literalBody_iff (hq : q ≠ '\\') :
    LiteralBody escapes q body ↔ Enclosed escapes q body :=
  ⟨enclosed_of_literalBody hq, literalBody_of_enclosed hq⟩

/-- **The body goes up to the closing quote.** -/
theorem closesAt_length_iff (hq : q ≠ '\\') (rest : List Char) :
    (ClosesAt escapes q (q :: (body ++ q :: rest)) (body.length + 1) ∧
      (escapes = false → '\\' ∉ body)) ↔ Enclosed escapes q body := by
  have hplace {j : Nat} (hj : j ≤ body.length) :
      isEscaped escapes (q :: (body ++ q :: rest)) (j + 1) = isEscaped escapes body j := by
    rw [isEscaped_cons hq, isEscaped_append_left hj]
  have hchar {j : Nat} (hj : j < body.length) :
      (q :: (body ++ q :: rest))[j + 1]? = body[j]? := by
    rw [List.getElem?_cons_succ, List.getElem?_append_left hj]
  constructor
  · rintro ⟨h, hplain⟩
    refine ⟨fun j hj => ?_, ?_, hplain⟩
    · have hlt := (List.getElem?_eq_some_iff.1 hj).1
      rw [← hplace (Nat.le_of_lt hlt)]
      exact h.first (j + 1) (Nat.succ_pos j) (Nat.succ_lt_succ hlt) ((hchar hlt).trans hj)
    · rw [← hplace (Nat.le_refl _)]
      exact h.unescaped
  · intro h
    refine ⟨⟨Nat.succ_pos _, ?_, ?_, fun j hpos hlt hj => ?_⟩, h.plain⟩
    · rw [List.getElem?_cons_succ, List.getElem?_append_right (Nat.le_refl _), Nat.sub_self]
      rfl
    · rw [hplace (Nat.le_refl _)]
      exact h.last
    · obtain ⟨j, rfl⟩ := Nat.exists_eq_add_one.2 hpos
      have hlt := Nat.lt_of_succ_lt_succ hlt
      rw [hplace (Nat.le_of_lt hlt)]
      exact h.quotes j ((hchar hlt).symm.trans hj)

/-! ## The cut -/

/-- **The cut behind the closing quote** of the literal at the start of a text.  Where a backslash
does not escape, none may stand before that quote. -/
structure CutAt (d : Dialect) (cs lit rest : List Char) (q : Char) (escapes : Bool) (i : Nat) :
    Prop where
  quoting : d.Quoting q escapes
  opening : cs.head? = some q
  closing : ClosesAt escapes q cs i
  plain : escapes = false → '\\' ∉ cs.take i
  literal : lit = cs.take (i + 1)
  remainder : rest = cs.drop (i + 1)

theorem ne_backslash_of_quoting (h : d.Quoting q escapes) : q ≠ '\\' :=
  ne_backslash_of_isQuote (quoting_iff.1 h).1

/-- **A cut behind the closing quote has a literal in front of it**, and every literal is cut off
there. -/
theorem isLiteral_iff_cutAt :
    IsLiteral d lit ∧ cs = lit ++ rest ↔ ∃ q escapes i, CutAt d cs lit rest q escapes i := by
  constructor
  · rintro ⟨hlit, rfl⟩
    obtain @⟨q, escapes, body, hquoting, hbody⟩ := hlit
    have hq := ne_backslash_of_quoting hquoting
    have hclose := (closesAt_length_iff hq rest).2 ((literalBody_iff hq).1 hbody)
    have hcs : q :: (body ++ [q]) ++ rest = q :: (body ++ q :: rest) := by simp
    have hlength : (q :: (body ++ [q])).length = body.length + 1 + 1 := by simp
    refine ⟨q, escapes, body.length + 1, hquoting, rfl, hcs ▸ hclose.1, fun he hb => ?_, ?_, ?_⟩
    · rw [hcs, List.take_succ_cons, List.take_left, List.mem_cons] at hb
      exact hb.elim (fun hb => hq hb.symm) (hclose.2 he)
    · rw [← hlength, List.take_left]
    · rw [← hlength, List.drop_left]
  · rintro ⟨q, escapes, i, hquoting, hopening, hclosing, hplain, rfl, rfl⟩
    have hq := ne_backslash_of_quoting hquoting
    refine ⟨?_, (List.take_append_drop _ _).symm⟩
    obtain ⟨tail, rfl⟩ := List.head?_eq_some_iff.1 hopening
    obtain ⟨k, rfl⟩ := Nat.exists_eq_add_one.2 hclosing.behind
    have hk : tail[k]? = some q := hclosing.quote
    obtain ⟨hlt, hget⟩ := List.getElem?_eq_some_iff.1 hk
    -- The body is what stands between the opening quote and the closing one.
    have htail : tail = tail.take k ++ q :: tail.drop (k + 1) := by
      rw [← hget, ← List.drop_eq_getElem_cons hlt, List.take_append_drop]
    have hlength : (tail.take k).length = k := List.length_take_of_le (Nat.le_of_lt hlt)
    have hbody : Enclosed escapes q (tail.take k) := by
      refine (closesAt_length_iff hq (tail.drop (k + 1))).1 ⟨?_, fun he hb => ?_⟩
      · rw [← htail, hlength]
        exact hclosing
      · exact hplain he (List.mem_cons_of_mem _ hb)
    have hlit : (q :: tail).take (k + 1 + 1) = q :: (tail.take k ++ [q]) := by
      rw [List.take_succ_cons, List.take_add_one, hk]
      rfl
    rw [hlit]
    exact .quoted hquoting ((literalBody_iff hq).2 hbody)

namespace CutAt

variable (h : CutAt d cs lit rest q escapes i)
include h

theorem append : lit ++ rest = cs := by
  rw [h.literal, h.remainder, List.take_append_drop]

/-- The literal is what stands before the closing quote, and that quote. -/
theorem literal_eq : lit = cs.take i ++ [q] := by
  rw [h.literal, List.take_add_one, h.closing.quote]
  rfl

theorem length : lit.length = i + 1 := by
  rw [h.literal, List.length_take_of_le (List.getElem?_eq_some_iff.1 h.closing.quote).1]

theorem head : lit.head? = some q := by
  rw [h.literal, List.head?_take, if_neg (Nat.succ_ne_zero i), h.opening]

theorem getLast : lit.getLast? = some q := by
  rw [h.literal_eq, List.getLast?_concat]

/-- Between the two quotes of a literal, each quote of the kind is escaped. -/
theorem inside {j : Nat} (hpos : 0 < j) (hlt : j + 1 < lit.length) (hj : lit[j]? = some q) :
    isEscaped escapes lit j = true := by
  have hji : j < lit.length := Nat.lt_of_succ_lt hlt
  have hcs := h.append
  rw [← isEscaped_append_left (Nat.le_of_lt hji) rest, hcs]
  refine h.closing.first j hpos ?_ ?_
  · rw [h.length] at hlt
    exact Nat.lt_of_succ_lt_succ hlt
  · rw [← hcs, List.getElem?_append_left hji, hj]

/-- **The closing quote is one byte.** -/
theorem length_encode : (Text.Utf8.encode lit).length = bytesBefore cs i + 1 := by
  have hq : (Text.Utf8.encode [q]).length = 1 := by
    cases h.quoting <;> rfl
  rw [h.literal_eq, Text.Utf8.encode_append, List.length_append, hq, bytesBefore]

/-- **A cut behind the byte of the closing quote is one between characters.** -/
theorem bytes : (Text.Utf8.encode cs).take (bytesBefore cs i + 1) = Text.Utf8.encode lit ∧
    (Text.Utf8.encode cs).drop (bytesBefore cs i + 1) = Text.Utf8.encode rest := by
  have hbytes : Text.Utf8.encode cs = Text.Utf8.encode lit ++ Text.Utf8.encode rest := by
    rw [← Text.Utf8.encode_append, h.append]
  rw [hbytes, ← h.length_encode]
  exact ⟨List.take_left, List.drop_left⟩

end CutAt

end Expression

namespace Selector

open Expression (isEscaped ClosesAt bytesBefore CutAt isLiteral_iff_cutAt quoting_iff)

variable {d : Dialect} {cs lit rest : List Char}

/-- **A text is cut behind the closing quote.** -/
theorem splitLiteral_eq_ok_iff_cutAt : splitLiteral d cs = .ok (lit, rest) ↔
    ∃ q escapes i, CutAt d cs lit rest q escapes i :=
  splitLiteral_eq_ok_iff.trans isLiteral_iff_cutAt

/-- **A text is not cut** if it does not start with a quote, if no quote closes the literal, or if a
backslash that does not escape stands before the one that does. -/
theorem splitLiteral_eq_error_iff : (∃ e, splitLiteral d cs = .error e) ↔
    (∀ q escapes, d.Quoting q escapes → cs.head? ≠ some q) ∨
    ∃ q escapes, d.Quoting q escapes ∧ cs.head? = some q ∧
      ((∀ i, ¬ClosesAt escapes q cs i) ∨
        escapes = false ∧ ∃ i, ClosesAt escapes q cs i ∧ '\\' ∈ cs.take i) := by
  constructor
  · rintro ⟨e, herror⟩
    have huncut : ∀ {lit rest q escapes i}, ¬CutAt d cs lit rest q escapes i := fun hcut => by
      rw [splitLiteral_eq_ok_iff_cutAt.2 ⟨_, _, _, hcut⟩] at herror
      cases herror
    by_cases hstart : ∃ q escapes, d.Quoting q escapes ∧ cs.head? = some q
    · obtain ⟨q, escapes, hquoting, hopening⟩ := hstart
      refine .inr ⟨q, escapes, hquoting, hopening, ?_⟩
      by_cases hclosed : ∃ i, ClosesAt escapes q cs i
      · obtain ⟨i, hclosing⟩ := hclosed
        have hplain : ¬(escapes = false → '\\' ∉ cs.take i) := fun hplain =>
          huncut ⟨hquoting, hopening, hclosing, hplain, rfl, rfl⟩
        obtain ⟨hescapes, hbackslash⟩ := Classical.not_imp.1 hplain
        exact .inr ⟨hescapes, i, hclosing, not_not.1 hbackslash⟩
      · exact .inl fun i hclosing => hclosed ⟨i, hclosing⟩
    · exact .inl fun q escapes hquoting hopening => hstart ⟨q, escapes, hquoting, hopening⟩
  · intro h
    cases hsplit : splitLiteral d cs with
    | error e => exact ⟨e, rfl⟩
    | ok p =>
      obtain ⟨q, escapes, i, hcut⟩ := splitLiteral_eq_ok_iff_cutAt.1 hsplit
      rcases h with hstart | ⟨q', escapes', hquoting, hopening, h⟩
      · exact absurd hcut.opening (hstart q escapes hcut.quoting)
      · obtain rfl : q = q' := Option.some.inj (hcut.opening.symm.trans hopening)
        obtain rfl : escapes = escapes' :=
          (quoting_iff.1 hcut.quoting).2.trans (quoting_iff.1 hquoting).2.symm
        rcases h with hunclosed | ⟨hescapes, j, hclosing, hbackslash⟩
        · exact absurd hcut.closing (hunclosed i)
        · rw [hclosing.unique hcut.closing] at hbackslash
          exact absurd hbackslash (hcut.plain hescapes)

/-! ## Whatever follows -/

/-- **A literal is cut off behind its closing quote, whatever follows it.**  The text in front of
the cut starts with a quote and ends with the same one, and between the two each such quote is
escaped; the bytes are cut between two characters.  A text is not cut if it does not start with a
quote, if no quote closes the literal, or if a backslash stands before that quote where none
escapes. -/
theorem splitLiteral_cuts_behind_quote (d : Dialect) (cs : List Char) :
    (∀ lit rest, splitLiteral d cs = .ok (lit, rest) →
      lit ++ rest = cs ∧
      (∃ q escapes i, d.Quoting q escapes ∧ ClosesAt escapes q cs i ∧ lit.length = i + 1 ∧
        2 ≤ lit.length ∧ lit.head? = some q ∧ lit.getLast? = some q ∧
        (∀ j, 0 < j → j + 1 < lit.length → lit[j]? = some q → isEscaped escapes lit j = true) ∧
        (Text.Utf8.encode cs).take (bytesBefore cs i + 1) = Text.Utf8.encode lit ∧
        (Text.Utf8.encode cs).drop (bytesBefore cs i + 1) = Text.Utf8.encode rest) ∧
      ∀ s, splitLiteral d (lit ++ s) = .ok (lit, s)) ∧
    ((∃ e, splitLiteral d cs = .error e) ↔
      (∀ q escapes, d.Quoting q escapes → cs.head? ≠ some q) ∨
      ∃ q escapes, d.Quoting q escapes ∧ cs.head? = some q ∧
        ((∀ i, ¬ClosesAt escapes q cs i) ∨
          escapes = false ∧ ∃ i, ClosesAt escapes q cs i ∧ '\\' ∈ cs.take i)) := by
  refine ⟨fun lit rest h => ?_, splitLiteral_eq_error_iff⟩
  obtain ⟨q, escapes, i, hcut⟩ := splitLiteral_eq_ok_iff_cutAt.1 h
  have hlength : 2 ≤ lit.length := by
    rw [hcut.length]
    exact Nat.succ_le_succ hcut.closing.behind
  refine ⟨hcut.append, ⟨q, escapes, i, hcut.quoting, hcut.closing, hcut.length, hlength, hcut.head,
    hcut.getLast, fun j => hcut.inside, hcut.bytes⟩, fun s => ?_⟩
  exact splitLiteral_eq_ok_iff.2 ⟨(splitLiteral_eq_ok_iff.1 h).1, rfl⟩

/-- An escaped quote and a letter of two bytes stand in a literal, and a bracket behind it. -/
theorem splitLiteral_cuts_behind_quote_escaped :
    splitLiteral .metrics "'\\'é')".toList = .ok ("'\\'é'".toList, [')']) ∧
    (∀ s, splitLiteral .metrics ("'\\'é'".toList ++ s) = .ok ("'\\'é'".toList, s)) ∧
    (∃ e, splitLiteral .logs "'\\'é')".toList = .error e) := by
  have hcut : splitLiteral .metrics "'\\'é')".toList = .ok ("'\\'é'".toList, [')']) := by
    decide
  have hclosing : ClosesAt false '\'' "'\\'é')".toList 2 := by
    refine ⟨by decide, by decide, by decide, fun j hpos hlt hj => ?_⟩
    obtain rfl : j = 1 := by omega
    exact absurd hj (by decide)
  refine ⟨hcut, ((splitLiteral_cuts_behind_quote _ _).1 _ _ hcut).2.2, ?_⟩
  exact (splitLiteral_cuts_behind_quote _ _).2.2
    (.inr ⟨'\'', false, .singleRaw, by decide, .inr ⟨rfl, 2, hclosing, by decide⟩⟩)

end Selector

end TenantGuard
