import TenantGuard.Query.Dialect
import TenantGuard.Text.Blank
import TenantGuard.Text.Split

/-!
# Series selectors

A selector is a metric name, a block of matchers in braces, or both.  `restrict` reads it and writes
it in a normal form with one more matcher, which names the resource.

* `splitLiteral` cuts a string literal off a text;
* `readMatchers` reads the inside of the braces.
-/

namespace TenantGuard.Selector

open Text (trim trimStart trimEnd)

/-! ## Literals -/

/-- The rest of a literal up to its closing quote, and what follows. -/
def splitBody (quote : Char) (escapes : Bool) :
    List Char → Except QueryFault (List Char × List Char)
  | [] => .error .unterminatedLiteral
  | [c] =>
    if c = '\\' then .error (if escapes then .unterminatedLiteral else .escapeNotSupported)
    else if c = quote then .ok ([c], [])
    else .error .unterminatedLiteral
  | c :: e :: cs =>
    if c = '\\' then
      if escapes then
        (splitBody quote escapes cs).map fun (body, rest) => (c :: e :: body, rest)
      else .error .escapeNotSupported
    else if c = quote then .ok ([c], e :: cs)
    else (splitBody quote escapes (e :: cs)).map fun (body, rest) => (c :: body, rest)

/-- **Cuts a string literal off the start of a text**, quotes included. -/
def splitLiteral (d : Dialect) : List Char → Except QueryFault (List Char × List Char)
  | c :: cs =>
    if Dialect.isQuote c then
      (splitBody c (d.hasEscapes c) cs).map fun (body, rest) => (c :: body, rest)
    else .error .expectedLiteral
  | [] => .error .expectedLiteral

theorem append_of_map_ok {r : Except QueryFault (List Char × List Char)} (front : List Char)
    {text body rest : List Char} (whole : ∀ b t, r = .ok (b, t) → b ++ t = text)
    (h : r.map (fun p => (front ++ p.1, p.2)) = .ok (body, rest)) :
    body ++ rest = front ++ text := by
  cases r with
  | error e => simp [Except.map] at h
  | ok p =>
    simp only [Except.map, Except.ok.injEq, Prod.mk.injEq] at h
    obtain ⟨rfl, rfl⟩ := h
    simp [whole p.1 p.2 rfl]

theorem splitBody_append {quote : Char} {escapes : Bool} {cs body rest : List Char}
    (h : splitBody quote escapes cs = .ok (body, rest)) : body ++ rest = cs := by
  fun_induction splitBody quote escapes cs generalizing body rest with
  | case1 => simp at h
  | case2 => simp at h
  | case3 => simp_all
  | case4 => simp at h
  | case5 e cs _ ih => exact append_of_map_ok ['\\', e] (fun _ _ => ih) h
  | case6 => simp at h
  | case7 => grind
  | case8 c e cs _ _ ih => exact append_of_map_ok [c] (fun _ _ => ih) h

/-- A literal and its rest are the whole text. -/
theorem splitLiteral_append {d : Dialect} {cs lit rest : List Char}
    (h : splitLiteral d cs = .ok (lit, rest)) : lit ++ rest = cs := by
  cases cs with
  | nil => simp [splitLiteral] at h
  | cons c cs =>
    simp only [splitLiteral] at h
    split at h
    · cases hs : splitBody c (d.hasEscapes c) cs with
      | error e => simp [hs, Except.map] at h
      | ok p =>
        simp only [hs, Except.map, Except.ok.injEq, Prod.mk.injEq] at h
        obtain ⟨rfl, rfl⟩ := h
        simp [splitBody_append hs]
    · simp at h

/-! ## Matchers -/

def isLabelChar (c : Char) : Bool := c.isAlphanum || c == '_'

/-- The operators of a matcher; of two that fit, the first one counts. -/
def operators : List (List Char) := [['=', '~'], ['!', '~'], ['!', '='], ['=']]

/-- **A matcher**: a label, an operator and a string literal. -/
structure Matcher where
  label : List Char
  operator : List Char
  literal : List Char
  deriving DecidableEq, Repr

def Matcher.chars (m : Matcher) : List Char := m.label ++ m.operator ++ m.literal

/-- Reads the matcher at the start of a text. -/
def readMatcher (d : Dialect) (cs : List Char) : Except QueryFault (Matcher × List Char) := do
  let label := cs.takeWhile isLabelChar
  if label.isEmpty || label.head?.any Char.isDigit then throw .expectedLabel
  let cs := trimStart (cs.dropWhile isLabelChar)
  match operators.find? (·.isPrefixOf cs) with
  | none => throw (.missingOperator (String.ofList label))
  | some operator =>
    let (literal, rest) ← splitLiteral d (trimStart (cs.drop operator.length))
    return (⟨label, operator, literal⟩, trimStart rest)

theorem length_trimStart (cs : List Char) : (trimStart cs).length ≤ cs.length :=
  (List.dropWhile_sublist _).length_le

theorem length_readMatcher {d : Dialect} {cs rest : List Char} {m : Matcher}
    (h : readMatcher d cs = .ok (m, rest)) : rest.length < cs.length := by
  unfold readMatcher at h
  have happ := congrArg List.length (List.takeWhile_append_dropWhile (p := isLabelChar) (l := cs))
  rw [List.length_append] at happ
  dsimp only at h
  split at h
  · simp [throw, throwThe, MonadExceptOf.throw, bind, Except.bind] at h
  next hlabel =>
  have hpos : 0 < (cs.takeWhile isLabelChar).length := by
    cases hl : cs.takeWhile isLabelChar with
    | nil => simp [hl] at hlabel
    | cons => simp
  simp only [bind, Except.bind, pure, Except.pure] at h
  split at h
  · simp [throw, throwThe, MonadExceptOf.throw] at h
  next op _ =>
  split at h
  · simp at h
  next v hv =>
  simp only [Except.ok.injEq, Prod.mk.injEq] at h
  have h1 := congrArg List.length (splitLiteral_append hv)
  rw [List.length_append] at h1
  have h2 := length_trimStart v.2
  have h3 := length_trimStart ((trimStart (cs.dropWhile isLabelChar)).drop op.length)
  have h4 := length_trimStart (cs.dropWhile isLabelChar)
  rw [List.length_drop] at h3
  rw [← h.2]
  omega

/-- **Reads matchers** separated by commas; one more comma may follow the last. -/
def readMatchers (d : Dialect) (cs : List Char) : Except QueryFault (List Matcher) :=
  if cs.isEmpty then .ok [] else
  match _h : readMatcher d cs with
  | .error e => .error e
  | .ok (m, ',' :: rest) => (readMatchers d (trimStart rest)).map (m :: ·)
  | .ok (m, []) => .ok [m]
  | .ok (_, _ :: _) => .error .missingSeparator
termination_by cs.length
decreasing_by
  have h1 := length_readMatcher _h
  have h2 := length_trimStart rest
  simp only [List.length_cons] at h1
  omega

/-! ## Selectors -/

def isMetricStart (c : Char) : Bool := c.isAlpha || c == '_' || c == ':'

def isMetricChar (c : Char) : Bool := c.isAlphanum || c == '_' || c == ':'

def isMetricName : List Char → Bool
  | [] => false
  | c :: cs => isMetricStart c && cs.all isMetricChar

/-- **A selector that was read**: a metric name, which may be empty, and matchers. -/
structure Parsed where
  name : List Char
  matchers : List Matcher
  deriving DecidableEq, Repr

/-- The inside of a brace block that takes up a whole text. -/
def insideBraces (block : List Char) : Option (List Char) :=
  match block with
  | '{' :: inner => if inner.getLast? = some '}' then some inner.dropLast else none
  | _ => none

/-- **Reads a selector.** -/
def parse (d : Dialect) (selector : String) : Except QueryFault Parsed := do
  let cs := trim selector.toList
  let block := cs.dropWhile (· != '{')
  let name := if block.isEmpty then cs else trimEnd (cs.takeWhile (· != '{'))
  if !name.isEmpty && !isMetricName name then throw (.badMetricName (String.ofList name))
  if block.isEmpty then return ⟨name, []⟩
  match insideBraces block with
  | none => throw .selectorNotClosed
  | some inner => return ⟨name, ← readMatchers d (trimStart inner)⟩

/-- The matcher that a restricted selector ends with. -/
def resourceMatcher (resourceId : String) : List Char :=
  "resource_id=\"".toList ++ resourceId.toList ++ ['"']

/-- The written form of a selector with the resource's matcher at its end. -/
def Parsed.restricted (p : Parsed) (resourceId : String) : List Char :=
  p.name ++ '{' :: Text.joinWith ',' (p.matchers.map Matcher.chars ++ [resourceMatcher resourceId])
    ++ ['}']

/-- **Restricts a selector** to the series that carry the resource's label. -/
def restrict (d : Dialect) (selector resourceId : String) : Except QueryFault String := do
  return String.ofList ((← parse d selector).restricted resourceId)

end TenantGuard.Selector
