import Mathlib.Data.List.TakeWhile
import TenantGuard.Proofs.Query.Literal
import TenantGuard.Query.Restriction
import TenantGuard.Text.Utf8

/-!
# The grammar of series selectors

A selector is a metric name, a block of matchers in braces, or both.  Blanks may stand between any
two tokens of it, and one comma may follow the last matcher.

* `IsWord`, `IsOperator`, `Writes`, `Block` and `Reads` are the grammar: names, operators, one
  matcher, the inside of a block and a whole selector, with what is read off it;
* `writes_of_readMatcher`, `block_of_readMatchers` and `reads_of_parse`: what is read is in the
  grammar; `readMatcher_of_writes`, `readMatchers_of_block` and `parse_of_reads`: what is in the
  grammar is read;
* `restrict_accepts_read`: a selector of the grammar is restricted, and everything else is refused.
-/

namespace TenantGuard.Selector

open Text (isBlank trim trimStart trimEnd dropWhile_exact trimStart_blanks trimEnd_blanks)
open Expression (IsLiteral)

/-! ## The grammar -/

def IsLetter (c : Char) : Prop := ('a' ≤ c ∧ c ≤ 'z') ∨ ('A' ≤ c ∧ c ≤ 'Z')

def IsDigit (c : Char) : Prop := '0' ≤ c ∧ c ≤ '9'

/-- **A word**: letters, digits and marks, of which a digit does not come first. -/
inductive IsWord (marks : List Char) : List Char → Prop where
  | word {c : Char} {cs : List Char} : IsLetter c ∨ c ∈ marks →
      (∀ x ∈ cs, IsLetter x ∨ IsDigit x ∨ x ∈ marks) → IsWord marks (c :: cs)

/-- The name of a metric. -/
def IsMetricName (cs : List Char) : Prop := IsWord ['_', ':'] cs

/-- The name of a label. -/
def IsLabel (cs : List Char) : Prop := IsWord ['_'] cs

/-- A run of blanks, which may be empty. -/
def Blanks (cs : List Char) : Prop := ∀ c ∈ cs, isBlank c = true

theorem blanks_nil : Blanks [] := fun _ hc => absurd hc List.not_mem_nil

/-- **The operators**: equal or not, to a text or to a pattern. -/
inductive IsOperator : List Char → Prop where
  | equal : IsOperator ['=']
  | notEqual : IsOperator ['!', '=']
  | like : IsOperator ['=', '~']
  | notLike : IsOperator ['!', '~']

/-- **A matcher whose parts are in order.** -/
structure Matcher.IsValid (d : Dialect) (m : Matcher) : Prop where
  label : IsLabel m.label
  operator : IsOperator m.operator
  literal : IsLiteral d m.literal

/-- **A matcher as it may be written.** -/
inductive Writes (d : Dialect) (m : Matcher) : List Char → Prop where
  | matcher {before behind : List Char} : m.IsValid d → Blanks before → Blanks behind →
      Writes d m (m.label ++ (before ++ (m.operator ++ (behind ++ m.literal))))

/-- **The inside of a block**: matchers with a comma behind each, which the last may lack. -/
inductive Block (d : Dialect) : List Matcher → List Char → Prop where
  | blank {front : List Char} : Blanks front → Block d [] front
  | last {m : Matcher} {front text back : List Char} : Blanks front → Writes d m text →
      Blanks back → Block d [m] (front ++ (text ++ back))
  | more {m : Matcher} {ms : List Matcher} {front text back rest : List Char} : Blanks front →
      Writes d m text → Blanks back → Block d ms rest →
      Block d (m :: ms) (front ++ (text ++ (back ++ ',' :: rest)))

/-- **A selector**, and the name and the matchers that are read off it. -/
inductive Reads (d : Dialect) : Parsed → List Char → Prop where
  | name {n : List Char} : n = [] ∨ IsMetricName n → Reads d ⟨n, []⟩ n
  | block {n blanks inside : List Char} {ms : List Matcher} : n = [] ∨ IsMetricName n →
      Blanks blanks → Block d ms inside →
      Reads d ⟨n, ms⟩ (n ++ (blanks ++ '{' :: (inside ++ ['}'])))

/-! ## Words -/

theorem isAlpha_iff {c : Char} : c.isAlpha = true ↔ IsLetter c := by
  change (decide ('A'.val ≤ c.val ∧ c.val ≤ 'Z'.val) ||
    (decide ('a'.val ≤ c.val) && decide (c.val ≤ 'z'.val))) = true ↔ IsLetter c
  simp only [Bool.or_eq_true, Bool.and_eq_true, decide_eq_true_eq]
  exact Or.comm

theorem isDigit_iff {c : Char} : c.isDigit = true ↔ IsDigit c := by
  simp only [Char.isDigit, Bool.and_eq_true, decide_eq_true_eq]
  rfl

theorem isLabelChar_iff {c : Char} :
    isLabelChar c = true ↔ IsLetter c ∨ IsDigit c ∨ c ∈ ['_'] := by
  simp [isLabelChar, Char.isAlphanum, isAlpha_iff, isDigit_iff, or_assoc]

theorem isMetricName_iff {cs : List Char} : isMetricName cs = true ↔ IsMetricName cs := by
  cases cs with
  | nil =>
    constructor
    · intro h
      cases h
    · intro h
      cases h
  | cons c cs =>
    simp only [isMetricName, isMetricStart, isMetricChar, Char.isAlphanum, Bool.and_eq_true,
      Bool.or_eq_true, isAlpha_iff, isDigit_iff, beq_iff_eq, List.all_eq_true]
    constructor
    · rintro ⟨hc, hcs⟩
      exact .word (by simpa [or_assoc] using hc) fun x hx => by simpa [or_assoc] using hcs x hx
    · intro h
      cases h with
      | word hc hcs =>
        exact ⟨by simpa [or_assoc] using hc, fun x hx => by simpa [or_assoc] using hcs x hx⟩

theorem isLabel_iff {l : List Char} : IsLabel l ↔
    (l.isEmpty || l.head?.any Char.isDigit) = false ∧ ∀ c ∈ l, isLabelChar c = true := by
  cases l with
  | nil =>
    constructor
    · intro h
      cases h
    · rintro ⟨h, -⟩
      cases h
  | cons c cs =>
    have hdigit : IsDigit c → ¬ (IsLetter c ∨ c ∈ ['_']) := by
      rintro ⟨-, hnine⟩ ((⟨ha, -⟩ | ⟨ha, -⟩) | hmark)
      · exact absurd (Char.le_trans ha hnine) (by decide)
      · exact absurd (Char.le_trans ha hnine) (by decide)
      · rw [List.mem_singleton.1 hmark] at hnine
        exact absurd hnine (by decide)
    simp only [List.isEmpty_cons, Bool.false_or, List.head?_cons, Option.any_some,
      List.forall_mem_cons, isLabelChar_iff, Bool.eq_false_iff, ne_eq, isDigit_iff]
    constructor
    · intro h
      cases h with
      | word hc hcs => exact ⟨fun hd => hdigit hd hc, hc.imp_right .inr, hcs⟩
    · rintro ⟨hd, hc, hcs⟩
      exact .word (hc.imp_right fun h => h.resolve_left hd) hcs

theorem toNat_of_isMetricChar {c : Char} (h : isMetricChar c = true) :
    48 ≤ c.toNat ∧ c.toNat ≤ 122 := by
  simp only [isMetricChar, Bool.or_eq_true, beq_iff_eq] at h
  rcases h with (h | rfl) | rfl
  · exact Text.Utf8.toNat_of_isAlphanum h
  · decide
  · decide

theorem isMetricChar_of_isLabelChar {c : Char} (h : isLabelChar c = true) :
    isMetricChar c = true := by
  rw [isLabelChar] at h
  rw [isMetricChar, h, Bool.true_or]

/-- The characters of words are no blanks. -/
theorem not_isBlank_of_isMetricChar {c : Char} (h : isMetricChar c = true) : isBlank c = false := by
  have hrange := toNat_of_isMetricChar h
  simp only [isBlank, Bool.or_eq_false_iff, Bool.and_eq_false_iff, decide_eq_false_iff_not,
    beq_eq_false_iff_ne]
  omega

theorem not_isBlank_of_isLabelChar {c : Char} (h : isLabelChar c = true) : isBlank c = false :=
  not_isBlank_of_isMetricChar (isMetricChar_of_isLabelChar h)

/-! ## Blanks -/

theorem takeWhile_exact {p : Char → Bool} {cs rest : List Char} (hcs : ∀ c ∈ cs, p c = true)
    (hrest : ∀ c ∈ rest.head?, p c = false) : (cs ++ rest).takeWhile p = cs := by
  rw [List.takeWhile_append_of_pos hcs]
  cases rest with
  | nil => rw [List.takeWhile_nil, List.append_nil]
  | cons c rest => rw [List.takeWhile_cons, hrest c rfl, if_neg Bool.false_ne_true, List.append_nil]

theorem exists_blanks (cs : List Char) : ∃ bs, Blanks bs ∧ cs = bs ++ trimStart cs :=
  ⟨cs.takeWhile isBlank, fun _ => List.all_eq_true.1 List.all_takeWhile _,
    (Text.trimStart_spec cs).1.symm⟩

/-! ## One matcher -/

variable {d : Dialect} {m : Matcher} {ms : List Matcher} {cs rest text : List Char}

/-- Of the operators, the one that stands there is found. -/
theorem find?_operators {op : List Char} (hop : IsOperator op)
    (hrest : ∀ c ∈ rest.head?, c ≠ '~') :
    operators.find? (·.isPrefixOf (op ++ rest)) = some op := by
  cases hop with
  | equal =>
    cases rest with
    | nil => rfl
    | cons c rest => simp [operators, List.isPrefixOf, Ne.symm (hrest c rfl)]
  | notEqual => rfl
  | like => rfl
  | notLike => rfl

theorem isOperator_of_mem {op : List Char} (h : op ∈ operators) : IsOperator op := by
  simp only [operators, List.mem_cons, List.not_mem_nil, or_false] at h
  rcases h with rfl | rfl | rfl | rfl
  · exact .like
  · exact .notLike
  · exact .notEqual
  · exact .equal

theorem operator_of_find? {op : List Char} (h : operators.find? (·.isPrefixOf cs) = some op) :
    IsOperator op ∧ cs = op ++ cs.drop op.length := by
  refine ⟨isOperator_of_mem (List.mem_of_find?_eq_some h), ?_⟩
  have hprefix := List.find?_some h
  obtain ⟨tail, rfl⟩ := List.isPrefixOf_iff_prefix.1 hprefix
  rw [List.drop_left]

/-- **What is read is a matcher**, and it is read with the blanks behind it. -/
theorem writes_of_readMatcher (h : readMatcher d cs = .ok (m, rest)) :
    ∃ text back, Writes d m text ∧ Blanks back ∧ cs = text ++ (back ++ rest) := by
  simp only [readMatcher, bind, Except.bind, pure, Except.pure, throw, throwThe,
    MonadExceptOf.throw] at h
  split at h
  · cases h
  next hnamed =>
  split at h
  · cases h
  next op hop =>
  split at h
  · cases h
  next v hliteral =>
  obtain ⟨literal, tail⟩ := v
  cases h
  obtain ⟨before, hbefore, hafterLabel⟩ := exists_blanks (cs.dropWhile isLabelChar)
  obtain ⟨hoperator, hafterBlanks⟩ := operator_of_find? hop
  obtain ⟨behind, hbehind, hafterOperator⟩ :=
    exists_blanks ((trimStart (cs.dropWhile isLabelChar)).drop op.length)
  obtain ⟨hlit, hafterBehind⟩ := splitLiteral_eq_ok_iff.1 hliteral
  obtain ⟨back, hback, htail⟩ := exists_blanks tail
  have hlabel : IsLabel (cs.takeWhile isLabelChar) :=
    isLabel_iff.2 ⟨by simpa using hnamed, fun c => List.all_eq_true.1 List.all_takeWhile c⟩
  have hvalid : Matcher.IsValid d ⟨cs.takeWhile isLabelChar, op, literal⟩ :=
    ⟨hlabel, hoperator, hlit⟩
  refine ⟨_, back, .matcher hvalid hbefore hbehind, hback, ?_⟩
  calc cs = cs.takeWhile isLabelChar ++ cs.dropWhile isLabelChar :=
        List.takeWhile_append_dropWhile.symm
    _ = cs.takeWhile isLabelChar ++ (before ++ (op ++ (behind ++ (literal ++ tail)))) := by
        rw [← hafterBehind, ← hafterOperator, ← hafterBlanks, ← hafterLabel]
    _ = _ := by
        rw [← htail]
        simp only [List.append_assoc]

/-- What stands behind blanks or starts right there. -/
theorem head_of_blanks {p : Char → Prop} {bs : List Char} (hbs : Blanks bs)
    (hblank : ∀ c, isBlank c = true → p c) (hrest : ∀ c ∈ rest.head?, p c) :
    ∀ c ∈ (bs ++ rest).head?, p c := by
  cases bs with
  | nil => exact hrest
  | cons b bs =>
    intro c hc
    cases hc
    exact hblank b (hbs b (by simp))

theorem head_of_operator {op : List Char} (hop : IsOperator op) :
    ∀ c ∈ (op ++ rest).head?, isBlank c = false ∧ isLabelChar c = false := by
  intro c hc
  have hsign : c = '=' ∨ c = '!' := by
    cases hop with
    | equal => exact .inl (Option.some.inj hc).symm
    | notEqual => exact .inr (Option.some.inj hc).symm
    | like => exact .inl (Option.some.inj hc).symm
    | notLike => exact .inr (Option.some.inj hc).symm
  rcases hsign with rfl | rfl
  · decide
  · decide

/-- A literal starts with a quote. -/
theorem head_of_isLiteral {lit : List Char} (h : IsLiteral d lit) :
    ∀ c ∈ (lit ++ rest).head?, isBlank c = false ∧ c ≠ '~' := by
  obtain ⟨q, body, rfl, hquote, -⟩ := h.exists_body
  intro c hc
  cases hc
  simp only [Dialect.isQuote, Bool.or_eq_true, beq_iff_eq] at hquote
  rcases hquote with (rfl | rfl) | rfl
  · decide
  · decide
  · decide

/-- A matcher starts with its label. -/
theorem head_of_writes (h : Writes d m text) : ∀ c ∈ (text ++ rest).head?, isBlank c = false := by
  cases h with
  | matcher hvalid _ _ =>
    obtain ⟨hnamed, hchars⟩ := isLabel_iff.1 hvalid.label
    intro c hc
    cases hlabel : m.label with
    | nil => simp [hlabel] at hnamed
    | cons l label =>
      rw [hlabel] at hc hchars
      cases hc
      exact not_isBlank_of_isLabelChar (hchars c (by simp))

/-- **A matcher is read as it is written**, with the blanks behind it. -/
theorem readMatcher_of_writes {back : List Char} (h : Writes d m text) (hback : Blanks back)
    (hrest : ∀ c ∈ rest.head?, isBlank c = false) :
    readMatcher d (text ++ (back ++ rest)) = .ok (m, rest) := by
  cases h with
  | @matcher before behind hvalid hbefore hbehind =>
  obtain ⟨label, op, literal⟩ := m
  obtain ⟨hlabel, hop, hliteral⟩ := hvalid
  simp only at hlabel hop hliteral
  obtain ⟨hnamed, hchars⟩ := isLabel_iff.1 hlabel
  -- the text behind the literal, the operator and the label, each with the blanks in front of it
  generalize hafterLiteral : literal ++ (back ++ rest) = afterOperator
  generalize hafterOperator : op ++ (behind ++ afterOperator) = afterLabel
  have htext : label ++ (before ++ (op ++ (behind ++ literal))) ++ (back ++ rest) =
      label ++ (before ++ afterLabel) := by
    rw [← hafterOperator, ← hafterLiteral]
    simp only [List.append_assoc]
  have hquote : ∀ c ∈ afterOperator.head?, isBlank c = false ∧ c ≠ '~' :=
    hafterLiteral ▸ head_of_isLiteral hliteral
  have hsign : ∀ c ∈ afterLabel.head?, isBlank c = false ∧ isLabelChar c = false :=
    hafterOperator ▸ head_of_operator hop
  have hend : ∀ c ∈ (before ++ afterLabel).head?, isLabelChar c = false := by
    refine head_of_blanks hbefore (fun c hc => ?_) fun c hc => (hsign c hc).2
    rw [Bool.eq_false_iff]
    intro hlabelChar
    rw [not_isBlank_of_isLabelChar hlabelChar] at hc
    cases hc
  have hnoTilde : ∀ c ∈ (behind ++ afterOperator).head?, c ≠ '~' := by
    refine head_of_blanks hbehind (fun c hc => ?_) fun c hc => (hquote c hc).2
    rintro rfl
    exact absurd hc (by decide)
  have htake := takeWhile_exact hchars hend
  have hdrop := dropWhile_exact hchars hend
  have hlabelBlanks := trimStart_blanks hbefore fun c hc => (hsign c hc).1
  have hfind : operators.find? (·.isPrefixOf afterLabel) = some op :=
    hafterOperator ▸ find?_operators hop hnoTilde
  have hopDrop : afterLabel.drop op.length = behind ++ afterOperator := by
    rw [← hafterOperator, List.drop_left]
  have hopBlanks := trimStart_blanks hbehind fun c hc => (hquote c hc).1
  have hsplit : splitLiteral d afterOperator = .ok (literal, back ++ rest) :=
    splitLiteral_eq_ok_iff.2 ⟨hliteral, hafterLiteral.symm⟩
  simp only [readMatcher, htext, htake, hdrop, hlabelBlanks, hfind, hopDrop, hopBlanks, hsplit,
    hnamed, trimStart_blanks hback hrest, bind, Except.bind, pure, Except.pure,
    Bool.false_eq_true, if_false]

/-! ## The inside of a block -/

theorem Block.prepend {bs : List Char} (hbs : Blanks bs) (h : Block d ms cs) :
    Block d ms (bs ++ cs) := by
  have hfront : ∀ {front : List Char}, Blanks front → Blanks (bs ++ front) := fun hfront c hc =>
    (List.mem_append.1 hc).elim (hbs c) (hfront c)
  cases h with
  | blank hblank => exact .blank (hfront hblank)
  | last hblank hw hback =>
    rw [← List.append_assoc]
    exact .last (hfront hblank) hw hback
  | more hblank hw hback hrest =>
    rw [← List.append_assoc]
    exact .more (hfront hblank) hw hback hrest

theorem not_isEmpty_of_readMatcher (h : readMatcher d cs = .ok (m, rest)) :
    ¬ cs.isEmpty = true := by
  intro hempty
  have hlength := length_readMatcher h
  rw [List.isEmpty_iff.1 hempty] at hlength
  exact absurd hlength (Nat.not_lt_zero _)

theorem readMatchers_of_last (h : readMatcher d cs = .ok (m, [])) :
    readMatchers d cs = .ok [m] := by
  rw [readMatchers, if_neg (not_isEmpty_of_readMatcher h)]
  split
  next heq => cases h.symm.trans heq
  next heq => cases h.symm.trans heq
  next heq =>
    cases h.symm.trans heq
    rfl
  next heq => cases h.symm.trans heq

theorem readMatchers_of_more (h : readMatcher d cs = .ok (m, ',' :: rest)) :
    readMatchers d cs = (readMatchers d (trimStart rest)).map (m :: ·) := by
  rw [readMatchers, if_neg (not_isEmpty_of_readMatcher h)]
  split
  next heq => cases h.symm.trans heq
  next heq =>
    cases h.symm.trans heq
    rfl
  next heq => cases h.symm.trans heq
  next hcomma heq =>
    cases h.symm.trans heq
    exact absurd rfl hcomma

/-- **What is read is the inside of a block.** -/
theorem block_of_readMatchers (h : readMatchers d cs = .ok ms) : Block d ms cs := by
  fun_induction readMatchers d cs generalizing ms with
  | case1 cs hempty =>
    cases h
    rw [List.isEmpty_iff.1 hempty]
    exact .blank blanks_nil
  | case2 cs _ e => cases h
  | case3 cs _ m rest hread ih =>
    obtain ⟨ms, hms, rfl⟩ := map_eq_ok_iff.1 h
    obtain ⟨text, back, hwrites, hback, rfl⟩ := writes_of_readMatcher hread
    obtain ⟨bs, hbs, hrest⟩ := exists_blanks rest
    have hlater : Block d ms rest := hrest ▸ (ih hms).prepend hbs
    exact .more blanks_nil hwrites hback hlater
  | case4 cs _ m hread =>
    cases h
    obtain ⟨text, back, hwrites, hback, rfl⟩ := writes_of_readMatcher hread
    rw [List.append_nil]
    exact .last blanks_nil hwrites hback
  | case5 => cases h

/-- **The inside of a block is read.** -/
theorem readMatchers_of_block (h : Block d ms cs) : readMatchers d (trimStart cs) = .ok ms := by
  induction h with
  | blank hfront =>
    have hnone : trimStart _ = [] := List.dropWhile_eq_nil_iff.2 hfront
    rw [hnone, readMatchers]
    rfl
  | @last m front text back hfront hwrites hback =>
    have hread : readMatcher d (text ++ (back ++ [])) = .ok (m, []) :=
      readMatcher_of_writes hwrites hback (by simp)
    rw [List.append_nil] at hread
    rw [trimStart_blanks hfront (head_of_writes hwrites)]
    exact readMatchers_of_last hread
  | @more m ms front text back rest hfront hwrites hback _ ih =>
    have hcomma : ∀ c ∈ (',' :: rest).head?, isBlank c = false := by
      intro c hc
      cases hc
      decide
    have hread := readMatcher_of_writes hwrites hback hcomma
    rw [trimStart_blanks hfront (head_of_writes hwrites), readMatchers_of_more hread, ih]
    rfl

/-! ## Selectors -/

variable {p : Parsed} {n inside : List Char}

theorem insideBraces_eq_some_iff {block : List Char} :
    insideBraces block = some inside ↔ block = '{' :: (inside ++ ['}']) := by
  constructor
  · intro h
    unfold insideBraces at h
    split at h
    next inner =>
      split at h
      next hlast =>
        cases h
        obtain ⟨front, rfl⟩ := List.getLast?_eq_some_iff.1 hlast
        rw [List.dropLast_concat]
      · cases h
    · cases h
  · rintro rfl
    simp [insideBraces]

theorem named_iff : (!n.isEmpty && !isMetricName n) = false ↔ n = [] ∨ IsMetricName n := by
  rw [← isMetricName_iff]
  cases n with
  | nil => simp
  | cons c cs => simp

theorem isMetricChar_of_named (h : n = [] ∨ IsMetricName n) : ∀ c ∈ n, isMetricChar c = true := by
  intro c hmem
  rcases h with rfl | h
  · exact absurd hmem List.not_mem_nil
  cases h with
  | word hc hcs =>
    have hword : IsLetter c ∨ IsDigit c ∨ c ∈ ['_', ':'] := by
      rcases List.mem_cons.1 hmem with rfl | hmem
      · exact hc.imp_right .inr
      · exact hcs c hmem
    simpa [isMetricChar, Char.isAlphanum, isAlpha_iff, isDigit_iff, or_assoc] using hword

/-- A name holds no brace and does not end with a blank. -/
theorem plain_of_named (h : n = [] ∨ IsMetricName n) :
    (∀ c ∈ n, (c != '{') = true) ∧ ∀ c ∈ n.getLast?, isBlank c = false := by
  have hchars := isMetricChar_of_named h
  refine ⟨fun c hc => ?_, fun c hc => not_isBlank_of_isMetricChar (hchars c
    (List.mem_of_getLast? hc))⟩
  rw [bne_iff_ne]
  rintro rfl
  exact absurd (hchars _ hc) (by decide)

/-- What stands in front of the first brace, and the brace if there is one. -/
theorem split_at_brace (cs : List Char) :
    cs.dropWhile (· != '{') = [] ∨ ∃ tail, cs.dropWhile (· != '{') = '{' :: tail := by
  cases hblock : cs.dropWhile (· != '{') with
  | nil => exact .inl rfl
  | cons c tail =>
    have hc := List.head?_dropWhile_not (· != '{') cs
    rw [hblock] at hc
    have hbrace : c = '{' := by simpa using hc
    exact .inr ⟨tail, by rw [hbrace]⟩

/-- **What is read is a selector.** -/
theorem reads_of_parse {s : String} (h : parse d s = .ok p) : Reads d p (trim s.toList) := by
  simp only [parse, bind, Except.bind, pure, Except.pure, throw, throwThe,
    MonadExceptOf.throw] at h
  generalize trim s.toList = cs at h ⊢
  rcases split_at_brace cs with hblock | ⟨tail, hblock⟩
  · simp only [hblock, List.isEmpty_nil, if_true] at h
    split at h
    · cases h
    next hnamed =>
      cases h
      exact .name (named_iff.1 (by simpa using hnamed))
  · simp only [hblock, List.isEmpty_cons, Bool.false_eq_true, if_false] at h
    split at h
    · cases h
    next hnamed =>
    split at h
    · cases h
    next inner hinner =>
    split at h
    · cases h
    next ms hms =>
    cases h
    obtain ⟨⟨blanks, hblanks, hname⟩, -⟩ := Text.trimEnd_spec (cs.takeWhile (· != '{'))
    obtain ⟨front, hfront, hrest⟩ := exists_blanks inner
    have hinside : Block d ms inner := hrest ▸ (block_of_readMatchers hms).prepend hfront
    have htail : '{' :: tail = '{' :: (inner ++ ['}']) := insideBraces_eq_some_iff.1 hinner
    have hwhole : cs.takeWhile (· != '{') ++ cs.dropWhile (· != '{') = cs :=
      List.takeWhile_append_dropWhile
    rw [hblock, htail, ← hname, List.append_assoc] at hwhole
    generalize trimEnd (cs.takeWhile (· != '{')) = name at hnamed hwhole ⊢
    rw [← hwhole]
    exact .block (named_iff.1 (by simpa using hnamed)) hblanks hinside

/-- **A selector is read.** -/
theorem parse_of_reads {s : String} (h : Reads d p (trim s.toList)) : parse d s = .ok p := by
  simp only [parse, bind, Except.bind, pure, Except.pure, throw, throwThe, MonadExceptOf.throw]
  generalize trim s.toList = cs at h ⊢
  cases h with
  | name hn =>
    have hblock : cs.dropWhile (· != '{') = [] :=
      List.dropWhile_eq_nil_iff.2 (plain_of_named hn).1
    simp [hblock, named_iff.2 hn]
  | @block n blanks inside ms hn hblanks hinside =>
    obtain ⟨hplain, hlast⟩ := plain_of_named hn
    have hfront : ∀ c ∈ n ++ blanks, (c != '{') = true := by
      intro c hc
      rcases List.mem_append.1 hc with hc | hc
      · exact hplain c hc
      · rw [bne_iff_ne]
        rintro rfl
        exact absurd (hblanks _ hc) (by decide)
    have hbrace : ∀ c ∈ ('{' :: (inside ++ ['}'])).head?, (c != '{') = false := by
      intro c hc
      cases hc
      decide
    have hblock := dropWhile_exact hfront hbrace
    have hname := takeWhile_exact hfront hbrace
    rw [List.append_assoc] at hblock hname
    simp [hblock, hname, trimEnd_blanks hlast hblanks, named_iff.2 hn,
      insideBraces_eq_some_iff.2 rfl, readMatchers_of_block hinside]

/-- **A text is read as the grammar says.** -/
theorem parse_eq_ok_iff {s : String} : parse d s = .ok p ↔ Reads d p (trim s.toList) :=
  ⟨reads_of_parse, parse_of_reads⟩

/-- **A selector of the grammar is restricted**, and no other text is: every other one is refused as
malformed.  Each matcher that is read leaves a shorter text, so that the reading ends. -/
theorem restrict_accepts_read (d : Dialect) (s r : String) :
    ((∃ o, restrict d s r = .ok o) ↔ ∃ p, Reads d p (trim s.toList)) ∧
      ((¬ ∃ p, Reads d p (trim s.toList)) → ∃ fault : Fault,
        (restrict d s r).mapError QueryFault.toFault = .error fault ∧
          fault.code = .invalidFormat) := by
  simp only [restrict, ← parse_eq_ok_iff]
  cases hparse : parse d s with
  | error f => exact ⟨by simp [bind, Except.bind], fun _ => ⟨f.toFault, rfl, rfl⟩⟩
  | ok p => exact ⟨by simp [bind, Except.bind, pure, Except.pure],
      fun hrefused => absurd ⟨p, rfl⟩ hrefused⟩

end TenantGuard.Selector
