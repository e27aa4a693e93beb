import TenantGuard.Proofs.Expression.Containment
import TenantGuard.Proofs.Query.Restriction
import TenantGuard.Proofs.Selector.Grammar

/-!
# Restricted selectors are in a normal form

A restricted selector is written without blanks: the metric name, the client's matchers in order,
and the resource's matcher behind them.  Read again it is the same selector with that one matcher
more, whatever the client put between quotes.

* `restricted_eq` writes the text out, `parse_restricted` reads it back;
* a `Plain` text has no brace outside of its literals, and what stands behind it is read on its own:
  names and matchers are such texts, and so is what is put together from them;
* `restrict_normal_form` is the main statement.
-/

namespace TenantGuard

namespace Expression

/-- **Code that is no brace, or a literal.** -/
def Lexeme.IsPlain : Lexeme → Prop
  | code c => c ≠ '{' ∧ c ≠ '}'
  | literal _ _ => True
  | comment _ => False

/-- Whether a character is code and no brace. -/
def isPlainCode (c : Char) : Bool := isCode c && c != '{' && c != '}'

/-- **A text without braces** outside of its literals, and without comments. -/
structure Plain (d : Dialect) (cs : List Char) (ls : List Lexeme) : Prop where
  lexes : Lexes d.lexicon cs ls
  plain : ∀ l ∈ ls, l.IsPlain

namespace Plain

variable {d : Dialect} {cs ds : List Char} {ls ms : List Lexeme}

/-- What stands behind such a text is read on its own. -/
theorem lexes_append (h : Plain d cs ls) (hds : Lexes d.lexicon ds ms) :
    Lexes d.lexicon (cs ++ ds) (ls ++ ms) := by
  refine h.lexes.append_of_last hds fun l hl => ?_
  have hplain := h.plain l (List.mem_of_getLast? hl)
  cases l with
  | code _ => rfl
  | literal _ _ => rfl
  | comment _ => exact hplain.elim

theorem append (h : Plain d cs ls) (h' : Plain d ds ms) : Plain d (cs ++ ds) (ls ++ ms) where
  lexes := h.lexes_append h'.lexes
  plain l hl := (List.mem_append.1 hl).elim (h.plain l) (h'.plain l)

theorem code (h : cs.all isPlainCode = true) : Plain d cs (cs.map .code) := by
  simp only [List.all_eq_true, isPlainCode, Bool.and_eq_true, bne_iff_ne] at h
  refine ⟨lexes_code (List.all_eq_true.2 fun c hc => (h c hc).1.1), fun l hl => ?_⟩
  obtain ⟨c, hc, rfl⟩ := List.mem_map.1 hl
  exact ⟨(h c hc).1.2, (h c hc).2⟩

theorem literal {lit : List Char} (h : IsLiteral d lit) : ∃ l, Plain d lit [l] := by
  obtain ⟨q, body, rfl, hquote, hbody⟩ := h.exists_body
  refine ⟨.literal q body, .literal hquote hbody .nil, fun l hl => ?_⟩
  rw [List.mem_singleton.1 hl]
  trivial

end Plain

end Expression

namespace Selector

open Text (trim)
open Expression (Lexeme Lexes Plain isPlainCode)

variable {d : Dialect} {m : Matcher} {ms : List Matcher} {p : Parsed} {cs : List Char}
  {r s o : String}

/-! ## Reading back -/

/-- A matcher without blanks. -/
theorem writes_chars (h : m.IsValid d) : Writes d m m.chars := by
  have hwrites := Writes.matcher h blanks_nil blanks_nil
  simpa [Matcher.chars] using hwrites

/-- **Matchers without blanks are the inside of a block.** -/
theorem block_of_valid (hm : m.IsValid d) : ∀ ms : List Matcher, (∀ m ∈ ms, m.IsValid d) →
    Block d (ms ++ [m]) (ms.flatMap (fun m => m.chars ++ [',']) ++ m.chars)
  | [], _ => by
    simpa using Block.last blanks_nil (writes_chars hm) blanks_nil
  | m' :: ms, hms => by
    have hfirst := writes_chars (hms m' (by simp))
    have hrest := block_of_valid hm ms fun m h => hms m (by simp [h])
    simpa using Block.more blanks_nil hfirst blanks_nil hrest

theorem Writes.valid (h : Writes d m cs) : m.IsValid d := by
  cases h with
  | matcher hvalid _ _ => exact hvalid

theorem Block.valid (h : Block d ms cs) : ∀ m ∈ ms, m.IsValid d := by
  induction h with
  | blank _ => exact fun _ hm => absurd hm List.not_mem_nil
  | last _ hw _ =>
    intro m hm
    rw [List.mem_singleton.1 hm]
    exact hw.valid
  | more _ hw _ _ ih =>
    intro m hm
    rcases List.mem_cons.1 hm with rfl | hm
    · exact hw.valid
    · exact ih m hm

/-- What is read has a name or none, and matchers whose parts are in order. -/
theorem Reads.valid (h : Reads d p cs) :
    (p.name = [] ∨ IsMetricName p.name) ∧ ∀ m ∈ p.matchers, m.IsValid d := by
  cases h with
  | name hn => exact ⟨hn, fun _ hm => absurd hm List.not_mem_nil⟩
  | block hn _ hinside => exact ⟨hn, hinside.valid⟩

/-- **The matcher that names a resource.** -/
def Matcher.ofResource (r : String) : Matcher where
  label := "resource_id".toList
  operator := ['=']
  literal := '"' :: (r.toList ++ ['"'])

theorem chars_ofResource (r : String) : (Matcher.ofResource r).chars = resourceMatcher r := by
  have hfront : "resource_id=\"".toList = "resource_id".toList ++ ['=', '"'] := by decide
  unfold Matcher.chars Matcher.ofResource resourceMatcher
  rw [hfront]
  simp only [List.append_assoc, List.cons_append, List.nil_append]

theorem isValid_ofResource (hr : Scope.validateId r = .ok ()) :
    (Matcher.ofResource r).IsValid d where
  label := by
    have hchars : "resource_id".toList.all isLabelChar = true := by decide
    have hlabel : IsLabel "resource_id".toList :=
      isLabel_iff.2 ⟨by decide, fun c => List.all_eq_true.1 hchars c⟩
    exact hlabel
  operator := .equal
  literal := .quoted .double (Expression.literalBody_of_validateId hr true)

theorem joinWith_concat (mark : Char) (piece : List Char) : ∀ pieces : List (List Char),
    Text.joinWith mark (pieces ++ [piece]) = pieces.flatMap (· ++ [mark]) ++ piece
  | [] => rfl
  | [first] => by simp [Text.joinWith]
  | first :: second :: pieces => by
    have hrest := joinWith_concat mark piece (second :: pieces)
    rw [List.cons_append] at hrest
    rw [List.cons_append, List.cons_append, Text.joinWith, hrest]
    · simp
    · simp

/-- **A restricted selector, written out.** -/
theorem restricted_eq (p : Parsed) (r : String) : p.restricted r =
    p.name ++ '{' :: (p.matchers.flatMap (fun m => m.chars ++ [',']) ++ resourceMatcher r ++
      ['}']) := by
  rw [Parsed.restricted, joinWith_concat]
  simp [List.flatMap_map]

/-- It starts and ends with what is no blank. -/
theorem trim_restricted (hp : p.name = [] ∨ IsMetricName p.name) (r : String) :
    trim (p.restricted r) = p.restricted r := by
  have hchars := isMetricChar_of_named hp
  have htext := restricted_eq p r
  cases hname : p.name with
  | nil =>
    rw [hname] at htext
    exact Text.trim_eq_self htext (by decide) (by decide)
  | cons c cs =>
    rw [hname] at htext hchars
    rw [← List.cons_append, ← List.append_assoc, List.cons_append] at htext
    exact Text.trim_eq_self htext (not_isBlank_of_isMetricChar (hchars c (by simp))) (by decide)

/-- **A restricted selector is read back**, with the resource's matcher behind the others. -/
theorem parse_restricted (hp : Reads d p cs) (hr : Scope.validateId r = .ok ()) :
    parse d (String.ofList (p.restricted r)) = .ok ⟨p.name, p.matchers ++ [.ofResource r]⟩ := by
  obtain ⟨hname, hmatchers⟩ := hp.valid
  refine parse_of_reads ?_
  rw [String.toList_ofList, trim_restricted hname, restricted_eq, ← chars_ofResource]
  exact .block hname blanks_nil (block_of_valid (isValid_ofResource hr) _ hmatchers)

/-! ## Braces -/

theorem isPlainCode_ascii : ∀ n < 123, isMetricChar (Char.ofNat n) = true →
    isPlainCode (Char.ofNat n) = true := by
  decide

theorem isPlainCode_of_isMetricChar {c : Char} (h : isMetricChar c = true) :
    isPlainCode c = true := by
  have hcode := isPlainCode_ascii c.toNat (Nat.lt_succ_of_le (toNat_of_isMetricChar h).2)
  rw [Char.ofNat_toNat] at hcode
  exact hcode h

theorem isPlainCode_of_isOperator {op : List Char} (h : IsOperator op) :
    op.all isPlainCode = true := by
  cases h with
  | equal => decide
  | notEqual => decide
  | like => decide
  | notLike => decide

/-- **A matcher has no brace** but in its literal. -/
theorem plain_matcher (h : m.IsValid d) : ∃ ls, Plain d m.chars ls := by
  have hlabel : Plain d m.label (m.label.map .code) := .code <| List.all_eq_true.2 fun c hc =>
    isPlainCode_of_isMetricChar (isMetricChar_of_isLabelChar ((isLabel_iff.1 h.label).2 c hc))
  have hoperator : Plain d m.operator (m.operator.map .code) :=
    .code (isPlainCode_of_isOperator h.operator)
  obtain ⟨l, hliteral⟩ := Plain.literal h.literal
  exact ⟨_, (hlabel.append hoperator).append hliteral⟩

theorem plain_matchers : ∀ ms : List Matcher, (∀ m ∈ ms, m.IsValid d) →
    ∃ ls, Plain d (ms.flatMap (fun m => m.chars ++ [','])) ls
  | [], _ => ⟨[], .nil, fun _ hl => absurd hl List.not_mem_nil⟩
  | m :: ms, hms => by
    obtain ⟨ls, hm⟩ := plain_matcher (hms m (by simp))
    obtain ⟨ls', hrest⟩ := plain_matchers ms fun m h => hms m (by simp [h])
    have hcomma : Plain d [','] [.code ','] := .code (by decide)
    exact ⟨_, (hm.append hcomma).append hrest⟩

/-- **A selector in normal form**, restricted to a resource. -/
structure NormalForm (d : Dialect) (p : Parsed) (r o : String) : Prop where
  /-- The name, the matchers without blanks, and the resource's matcher behind them. -/
  text : o.toList = p.name ++ '{' ::
    (p.matchers.flatMap (fun m => m.label ++ m.operator ++ m.literal ++ [',']) ++
      ("resource_id=\"" ++ r ++ "\"\x7d").toList)
  /-- Outside of its literals it has two braces, one behind the name and one at its end. -/
  braces : ∃ name inside : List Lexeme, (∀ ls, Lexes d.lexicon o.toList ls ↔
      ls = name ++ .code '{' :: (inside ++ [.code '}'])) ∧
    name.flatMap Lexeme.chars = p.name ∧ ∀ l ∈ name ++ inside, l.IsPlain
  /-- Restricted once more, it has one more matcher in front of the last brace. -/
  again : ∃ front : String, o = front ++ "\x7d" ∧
    ∀ r', restrict d o r' = .ok (front ++ "," ++ ("resource_id=\"" ++ r' ++ "\"\x7d"))

theorem braces_restricted (hp : Reads d p cs) (hr : Scope.validateId r = .ok ()) :
    ∃ name inside : List Lexeme, (∀ ls, Lexes d.lexicon (p.restricted r) ls ↔
      ls = name ++ .code '{' :: (inside ++ [.code '}'])) ∧
    name.flatMap Lexeme.chars = p.name ∧ ∀ l ∈ name ++ inside, l.IsPlain := by
  obtain ⟨hname, hmatchers⟩ := hp.valid
  have hfront : Plain d p.name (p.name.map .code) := .code <| List.all_eq_true.2 fun c hc =>
    isPlainCode_of_isMetricChar (isMetricChar_of_named hname c hc)
  obtain ⟨ls, hls⟩ := plain_matchers p.matchers hmatchers
  have hresource : (Matcher.ofResource r).IsValid d := isValid_ofResource hr
  obtain ⟨rs, hrs⟩ := plain_matcher hresource
  -- name and matchers are plain, so that the two braces are all that is added to them
  have hinside := hls.append hrs
  have hclosed : Lexes d.lexicon ['}'] [.code '}'] := .code (by decide) (by decide) .nil
  have hblock : Lexes d.lexicon ('{' :: _) (.code '{' :: _) :=
    .code (by decide) (by decide) (hinside.lexes_append hclosed)
  have hwhole := hfront.lexes_append hblock
  rw [chars_ofResource, ← restricted_eq] at hwhole
  refine ⟨_, _, fun ms => ⟨fun h => h.unique hwhole, ?_⟩, hfront.lexes.flatMap_chars, fun l hl => ?_⟩
  · rintro rfl
    exact hwhole
  · exact (List.mem_append.1 hl).elim (hfront.plain l) (hinside.plain l)

/-- **A restricted selector up to its last brace.** -/
def Parsed.front (p : Parsed) (r : String) : List Char :=
  p.name ++ '{' :: (p.matchers.flatMap (fun m => m.chars ++ [',']) ++ resourceMatcher r)

theorem restricted_eq_front (p : Parsed) (r : String) : p.restricted r = p.front r ++ ['}'] := by
  simp [restricted_eq, Parsed.front]

/-- **Restricted twice** is restricted once, with one more matcher before the last brace. -/
theorem restricted_concat (p : Parsed) (r r' : String) :
    Parsed.restricted ⟨p.name, p.matchers ++ [.ofResource r]⟩ r' =
      p.front r ++ ',' :: (resourceMatcher r' ++ ['}']) := by
  simp [restricted_eq, Parsed.front, chars_ofResource]

theorem toList_resource (r : String) :
    ("resource_id=\"" ++ r ++ "\"\x7d").toList = resourceMatcher r ++ ['}'] := by
  have hend : "\"\x7d".toList = ['"'] ++ ['}'] := by decide
  rw [String.toList_append, String.toList_append, hend, ← List.append_assoc]
  rfl

/-- The reading of a selector decides what it is restricted to. -/
theorem restrict_of_parse (h : parse d s = .ok p) (r : String) :
    restrict d s r = .ok (String.ofList (p.restricted r)) := by
  rw [restrict, h]
  rfl

/-- **A restricted selector is in normal form.** -/
theorem restrict_normal_form (hr : Scope.validateId r = .ok ()) (h : restrict d s r = .ok o) :
    ∃ p, (∀ p', Reads d p' (trim s.toList) ↔ p' = p) ∧ NormalForm d p r o := by
  simp only [restrict, bind, Except.bind, pure, Except.pure] at h
  cases hparse : parse d s with
  | error f =>
    rw [hparse] at h
    cases h
  | ok p =>
    rw [hparse] at h
    cases h
    have hreads := reads_of_parse hparse
    refine ⟨p, fun p' => ?_, ?_, ?_, ?_⟩
    · rw [← parse_eq_ok_iff, hparse, Except.ok.injEq, eq_comm]
    · rw [String.toList_ofList, restricted_eq, toList_resource, List.append_assoc]
      rfl
    · rw [String.toList_ofList]
      exact braces_restricted hreads hr
    · refine ⟨String.ofList (p.front r), ?_, fun r' => ?_⟩
      · rw [restricted_eq_front, String.ofList_append]
      · rw [restrict_of_parse (parse_restricted hreads hr), restricted_concat]
        refine congrArg Except.ok (String.toList_inj.1 ?_)
        rw [String.toList_append, String.toList_append, String.toList_ofList, String.toList_ofList,
          toList_resource, List.append_assoc]
        rfl

/-- What is quoted is kept: braces, commas, blanks and quotes. -/
theorem restrict_normal_form_quoted : Scope.validateId "r1" = .ok () ∧
    restrict .metrics " up \x7b job =~ \"a\x7d, \\\"b\" , env!= '\x7b' ,\x7d " "r1" =
      .ok "up\x7bjob=~\"a\x7d, \\\"b\",env!='\x7b',resource_id=\"r1\"\x7d" ∧
    ∃ p, (∀ p', Reads .metrics p'
        (trim " up \x7b job =~ \"a\x7d, \\\"b\" , env!= '\x7b' ,\x7d ".toList) ↔ p' = p) ∧
      NormalForm .metrics p "r1"
        "up\x7bjob=~\"a\x7d, \\\"b\",env!='\x7b',resource_id=\"r1\"\x7d" := by
  have hid : Scope.validateId "r1" = .ok () := rfl
  have hrestrict : restrict .metrics
      " up \x7b job =~ \"a\x7d, \\\"b\" , env!= '\x7b' ,\x7d " "r1" =
        .ok "up\x7bjob=~\"a\x7d, \\\"b\",env!='\x7b',resource_id=\"r1\"\x7d" := by
    decide +kernel
  exact ⟨hid, hrestrict, restrict_normal_form hid hrestrict⟩

end Selector

end TenantGuard
