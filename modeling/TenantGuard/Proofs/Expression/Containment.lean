import TenantGuard.Proofs.Expression.Scanner
import TenantGuard.Proofs.Identifier

/-!
# The filter contains the client's text

`Expression.injectFilter` puts a text that it cannot trust between parentheses of its own.  Read by
the rules of the language, what stands between them is the client's text and nothing else.

* `filterLexemes`, `before` and `behind` are the lexemes of the filter, with the resource as the one
  literal;
* `lexes_ended`: an accepted expression can be followed by anything, since a comment in it is ended
  by a line feed;
* `lexes_wrap` and `nesting_wrapped`: the wrapped expression is read as the filter around the
  lexemes that were accepted, and is balanced;
* `injectFilter_contains`: the parenthesis that is opened for the client's text is closed by the one
  that is put behind it, and what comes out would be accepted again.
-/

namespace TenantGuard.Expression

open Text (trim)

variable {d : Dialect} {cs : List Char} {ls : List Lexeme}

/-! ## The filter -/

/-- A text of code. -/
def codes (s : String) : List Lexeme := s.toList.map .code

/-- **The lexemes of the filter for a resource.** -/
def filterLexemes (d : Dialect) (resourceId : String) : List Lexeme :=
  match d with
  | .logs => codes "resource_id:" ++ [.literal '"' resourceId.toList]
  | .metrics => codes "\x7bresource_id=" ++ .literal '"' resourceId.toList :: codes "\x7d"

/-- An accepted identifier can be the body of any literal. -/
theorem literalBody_of_validateId {r : String} (h : Scope.validateId r = .ok ()) (escapes : Bool) :
    LiteralBody escapes '"' r.toList := by
  have hplain : ∀ c ∈ r.toList, c ≠ '"' ∧ c ≠ '\\' := by
    intro c hc
    obtain ⟨hq, hb, -⟩ := Scope.plain_of_isIdChar (Scope.isIdChar_of_validateId h hc)
    refine ⟨?_, hb⟩
    rintro rfl
    simp [Dialect.isQuote] at hq
  revert hplain
  induction r.toList with
  | nil => exact fun _ => .nil
  | cons c cs ih =>
    intro hplain
    obtain ⟨hq, hb⟩ := hplain c (by simp)
    exact .plain hq hb (ih fun c hc => hplain c (by simp [hc]))

/-- **The filter is code and one literal, the resource.** -/
theorem lexes_filter {r : String} (hr : Scope.validateId r = .ok ()) :
    Lexes d.lexicon (d.resourceFilter r).toList (filterLexemes d r) := by
  have hbody := literalBody_of_validateId hr
  cases d with
  | logs =>
    have htext : (Dialect.logs.resourceFilter r).toList =
        "resource_id:".toList ++ '"' :: (r.toList ++ ['"']) := by
      simp [Dialect.resourceFilter_logs]
    rw [htext]
    exact lexes_code_append (by decide) (.literal (by decide) (hbody _) .nil)
  | metrics =>
    have htext : (Dialect.metrics.resourceFilter r).toList =
        "\x7bresource_id=".toList ++ '"' :: (r.toList ++ '"' :: "\x7d".toList) := by
      simp [Dialect.resourceFilter_metrics]
    rw [htext]
    exact lexes_code_append (by decide)
      (.literal (by decide) (hbody _) (lexes_code (by decide)))

theorem nesting_filter (d : Dialect) (r : String) : nesting [] (filterLexemes d r) = some [] := by
  cases d <;> rfl

/-- A filter has no blanks at its ends. -/
theorem trim_resourceFilter (d : Dialect) (r : String) :
    trim (d.resourceFilter r).toList = (d.resourceFilter r).toList := by
  cases d with
  | logs =>
    have htext : (Dialect.logs.resourceFilter r).toList =
        'r' :: (("esource_id:\"".toList ++ r.toList) ++ ['"']) := by
      simp [Dialect.resourceFilter_logs]
    exact Text.trim_eq_self htext rfl rfl
  | metrics =>
    have htext : (Dialect.metrics.resourceFilter r).toList =
        '{' :: (("resource_id=\"".toList ++ r.toList ++ ['"']) ++ ['}']) := by
      simp [Dialect.resourceFilter_metrics]
    exact Text.trim_eq_self htext rfl rfl

/-! ## Expressions that can be followed -/

/-- The lexemes of an expression, with a line feed at the end if there is a comment. -/
def ended (ls : List Lexeme) : List Lexeme :=
  if ls.any Lexeme.isComment then ls ++ [.code '\n'] else ls

/-- A language without comments has none. -/
theorem Lexes.any_isComment {x : Lexicon} (h : Lexes x cs ls) (hx : x.comments = false) :
    ls.any Lexeme.isComment = false := by
  induction h with
  | nil => rfl
  | code _ _ _ ih => simpa [Lexeme.isComment] using ih
  | literal _ _ _ ih => simpa [Lexeme.isComment] using ih
  | comment hc _ _ _ _ => simp [hx] at hc

/-- Behind the line feed there is no comment that could take in what follows. -/
theorem ended_last (ls : List Lexeme) : ∀ l ∈ (ended ls).getLast?, l.isComment = false := by
  intro l hl
  unfold ended at hl
  split at hl
  · rw [List.getLast?_concat] at hl
    cases hl
    rfl
  next hany =>
    rw [Bool.not_eq_true, List.any_eq_false] at hany
    simpa using hany l (List.mem_of_getLast? hl)

/-- **An ended expression is read as the expression was.** -/
theorem lexes_ended (h : Lexes d.lexicon cs ls) :
    Lexes d.lexicon (cs ++ if ls.any Lexeme.isComment then ['\n'] else []) (ended ls) := by
  unfold ended
  split
  · exact h.append (.code (by decide) (by decide) .nil) fun _ => by simp [Dialect.lexicon]
  · rwa [List.append_nil]

theorem nesting_ended {opened : List Char} (h : nesting opened ls = some []) :
    nesting opened (ended ls) = some [] := by
  unfold ended
  split
  · rw [nesting_append, h]
    rfl
  · exact h

/-! ## The wrapped expression -/

/-- The lexemes in front of a wrapped expression. -/
def before (d : Dialect) (resourceId : String) : List Lexeme :=
  match d with
  | .logs => filterLexemes .logs resourceId ++ codes " AND "
  | .metrics => []

/-- The lexemes behind a wrapped expression. -/
def behind (d : Dialect) (resourceId : String) : List Lexeme :=
  match d with
  | .logs => []
  | .metrics => codes " and on(resource_id) " ++ filterLexemes .metrics resourceId

/-- **A wrapped expression**: the lexemes that were accepted, between the parentheses of the
filter. -/
def wrapped (d : Dialect) (resourceId : String) (ls : List Lexeme) : List Lexeme :=
  before d resourceId ++ .code '(' :: (ended ls ++ .code ')' :: behind d resourceId)

theorem nesting_before (d : Dialect) (r : String) : nesting [] (before d r) = some [] := by
  cases d <;> rfl

theorem nesting_behind (d : Dialect) (r : String) : nesting [] (behind d r) = some [] := by
  cases d <;> rfl

/-- What stands behind the parenthesis that closes a wrapped expression. -/
def behindText (resourceId : String) : List Char :=
  " and on(resource_id) ".toList ++ (Dialect.metrics.resourceFilter resourceId).toList

theorem toList_wrap_metrics (cs : List Char) (hasComment : Bool) (r : String) :
    (wrap .metrics (String.ofList cs) hasComment r).toList =
      '(' :: (cs ++ (if hasComment then ['\n'] else []) ++ ')' :: behindText r) := by
  unfold behindText
  cases hasComment <;> simp [wrap]

theorem lexes_behindText {r : String} (hr : Scope.validateId r = .ok ()) :
    Lexes Dialect.metrics.lexicon (behindText r) (behind .metrics r) :=
  lexes_code_append (by decide) (lexes_filter hr)

/-- **The wrapped expression is read as it is meant.** -/
theorem lexes_wrap {r : String} (hr : Scope.validateId r = .ok ()) (h : Lexes d.lexicon cs ls) :
    Lexes d.lexicon (wrap d (String.ofList cs) (ls.any Lexeme.isComment) r).toList
      (wrapped d r ls) := by
  have hended := lexes_ended h
  have hlast := ended_last ls
  cases d with
  | logs =>
    have hnone := h.any_isComment rfl
    have htext : (wrap .logs (String.ofList cs) (ls.any Lexeme.isComment) r).toList =
        ((Dialect.logs.resourceFilter r).toList ++ " AND ".toList) ++ '(' :: (cs ++ [')']) := by
      simp [wrap]
    rw [hnone] at hended
    simp only [Bool.false_eq_true, if_false, List.append_nil] at hended
    rw [htext]
    have hclosed : Lexes Dialect.logs.lexicon (cs ++ [')']) (ended ls ++ [.code ')']) :=
      hended.append_of_last (.code (by decide) (by decide) .nil) hlast
    have hbefore : Lexes Dialect.logs.lexicon
        ((Dialect.logs.resourceFilter r).toList ++ " AND ".toList) (before .logs r) :=
      (lexes_filter hr).append_of_last (lexes_code (by decide))
        (by simp [filterLexemes, Lexeme.isComment])
    exact hbefore.append_of_last (.code (by decide) (by decide) hclosed)
      (by simp [before, codes, Lexeme.isComment])
  | metrics =>
    rw [toList_wrap_metrics]
    exact .code (by decide) (by decide)
      (hended.append_of_last (.code (by decide) (by decide) (lexes_behindText hr)) hlast)

/-- **The wrapped expression is balanced.** -/
theorem nesting_wrapped (r : String) (h : nesting [] ls = some []) :
    nesting [] (wrapped d r ls) = some [] := by
  have hinside : nesting ['('] (ended ls) = some ['('] := nesting_outer ['('] (nesting_ended h)
  rw [wrapped, nesting_append, nesting_before]
  change nesting ['('] (ended ls ++ .code ')' :: behind d r) = some []
  rw [nesting_append, hinside]
  exact nesting_behind d r

/-- The parenthesis in front of the expression is closed by the one behind it. -/
theorem cutAtClosing_wrapped (r : String) (h : nesting [] ls = some []) :
    cutAtClosing ['('] (ended ls ++ .code ')' :: behind d r) =
      some (ended ls, .code ')' :: behind d r) :=
  cutAtClosing_of_nesting (nesting_ended h) rfl _

/-- A wrapped expression has no blanks at its ends. -/
theorem trim_wrap (d : Dialect) (e : String) (hasComment : Bool) (r : String) :
    trim (wrap d e hasComment r).toList = (wrap d e hasComment r).toList := by
  cases d with
  | logs =>
    have htext : (wrap .logs e hasComment r).toList =
        'r' :: (("esource_id:\"".toList ++ r.toList ++ "\" AND (".toList ++ e.toList) ++ [')']) := by
      simp [wrap, Dialect.resourceFilter_logs]
    exact Text.trim_eq_self htext rfl rfl
  | metrics =>
    have htext : (wrap .metrics e hasComment r).toList =
        '(' :: ((e.toList ++ (if hasComment then "\n" else "").toList ++
          ") and on(resource_id) \x7bresource_id=\"".toList ++ r.toList ++ ['"']) ++ ['}']) := by
      simp [wrap, Dialect.resourceFilter_metrics]
    exact Text.trim_eq_self htext rfl rfl

/-! ## What is injected -/

/-- A trimmed text whose lexemes are balanced is accepted. -/
theorem injectFilter_of_lexes {q : String} (h : Lexes d.lexicon q.toList ls)
    (hnest : nesting [] ls = some []) (htrim : trim q.toList = q.toList) (r : String) :
    ∃ q', injectFilter d q r = .ok q' := by
  have hcheck : check d (trim q.toList) = .ok (ls.any Lexeme.isComment) := by
    rw [htrim]
    exact check_ok_iff.2 ⟨ls, h, hnest, rfl⟩
  unfold injectFilter
  simp only [hcheck, bind, Except.bind, pure, Except.pure]
  split <;> exact ⟨_, rfl⟩

/-- **What a restricted expression is**: the filter alone where there was no expression, else the
accepted lexemes between the parentheses of the filter, which would be accepted again. -/
structure Contained (d : Dialect) (e r q : String) : Prop where
  /-- Without an expression there is the filter alone. -/
  alone : trim e.toList = [] → q = d.resourceFilter r ∧
    ∀ ms, Lexes d.lexicon q.toList ms ↔ ms = filterLexemes d r
  /-- The one reading of the result has the client's lexemes between the two parentheses. -/
  inside : trim e.toList ≠ [] → ∃ ls, Lexes d.lexicon (trim e.toList) ls ∧
    (∀ ms, Lexes d.lexicon q.toList ms ↔
      ms = before d r ++ .code '(' :: (ended ls ++ .code ')' :: behind d r)) ∧
    cutAtClosing ['('] (ended ls ++ .code ')' :: behind d r) =
      some (ended ls, .code ')' :: behind d r)
  again : ∀ r', ∃ q', injectFilter d q r' = .ok q'

/-- **The client's text cannot leave the filter.** -/
theorem injectFilter_contains {e r q : String} (hr : Scope.validateId r = .ok ())
    (h : injectFilter d e r = .ok q) : Contained d e r q := by
  unfold injectFilter at h
  cases hcheck : check d (trim e.toList) with
  | error f => simp [hcheck, bind, Except.bind] at h
  | ok hc =>
    obtain ⟨ls, hl, hnest, rfl⟩ := check_ok_iff.1 hcheck
    simp only [hcheck, bind, Except.bind, pure, Except.pure] at h
    by_cases hempty : trim e.toList = []
    · rw [hempty] at h
      cases h
      have hq := lexes_filter (d := d) hr
      refine ⟨fun _ => ⟨rfl, fun ms => ⟨fun hm => hm.unique hq, ?_⟩⟩, fun hne => absurd hempty hne,
        injectFilter_of_lexes hq (nesting_filter d r) (trim_resourceFilter d r)⟩
      rintro rfl
      exact hq
    · rw [if_neg (by simpa using hempty)] at h
      cases h
      have hq := lexes_wrap hr hl
      refine ⟨fun he => absurd he hempty, fun _ => ⟨ls, hl, fun ms => ⟨fun hm => hm.unique hq, ?_⟩,
        cutAtClosing_wrapped r hnest⟩,
        injectFilter_of_lexes hq (nesting_wrapped r hnest) (trim_wrap d _ _ r)⟩
      rintro rfl
      exact hq

/-- A comment at the end does not take in the closing parenthesis. -/
theorem injectFilter_contains_comment : Scope.validateId "r1" = .ok () ∧
    injectFilter .metrics "up # all" "r1" =
      .ok "(up # all\n) and on(resource_id) \x7bresource_id=\"r1\"\x7d" ∧
    Contained .metrics "up # all" "r1"
      "(up # all\n) and on(resource_id) \x7bresource_id=\"r1\"\x7d" :=
  ⟨rfl, rfl, injectFilter_contains rfl rfl⟩

end TenantGuard.Expression
