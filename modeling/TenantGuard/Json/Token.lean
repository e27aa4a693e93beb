import TenantGuard.Json.Value
import TenantGuard.Text.Utf8

/-!
# JSON tokens

`Token.scan` cuts a text into tokens and always succeeds: where the text stops being readable, the
last token is `junk`.  So a reader that fails on `junk` and on a missing token sees every fault at
its place, and one that stops early never looks at what follows.

The text is given as octets, each as the character of its number: the signs of JSON are ASCII, and
the octets within a text literal are decoded once the literal is cut out.

* a text literal is first cut into units (`scanUnits`), then its surrogate halves are joined
  (`joinUnits`) and its octets decoded; a half without its partner, or octets that are no UTF-8,
  make a text that can be skipped and not read;
* a number is cut by the grammar of JSON, then valued: `NumberText.value?` is `none` for a number
  too large to hold.
-/

namespace TenantGuard.Json

open Decimal (Binary64)

/-- **The tokens of JSON.** -/
inductive Token where
  | beginObject | endObject | beginArray | endArray | comma | colon
  | null
  | boolean (b : Bool)
  /-- `none`: a number too large to hold. -/
  | number (n : Option Number)
  /-- A number too large to hold, whose exponent goes on behind the digit that makes it so. -/
  | overlong
  /-- `none`: the escapes hold half of a surrogate pair. -/
  | text (s : Option String)
  /-- A text whose octets are no UTF-8. -/
  | undecodable
  /-- The rest of the text is no token. -/
  | junk
  deriving DecidableEq, Repr, Inhabited

/-- Octets as the characters of their numbers. -/
def octets (bs : List UInt8) : List Char := bs.map fun b => Char.ofNat b.toNat

/-! ## Text literals -/

/-- An octet as it stands, or sixteen bits written as four hexadecimal digits. -/
inductive TextUnit where
  | char (c : Char)
  | code (n : Nat)
  deriving DecidableEq, Repr

/-- The value of a hexadecimal digit of either case. -/
def hexValue? (c : Char) : Option Nat :=
  if '0' ≤ c ∧ c ≤ '9' then some (c.toNat - '0'.toNat)
  else if 'a' ≤ c ∧ c ≤ 'f' then some (c.toNat - 'a'.toNat + 10)
  else if 'A' ≤ c ∧ c ≤ 'F' then some (c.toNat - 'A'.toNat + 10)
  else none

def hexValue4? (a b c d : Char) : Option Nat := do
  return 4096 * (← hexValue? a) + 256 * (← hexValue? b) + 16 * (← hexValue? c) + (← hexValue? d)

/-- The character that a letter stands for behind a backslash. -/
def unescape? : Char → Option Char
  | '"' => some '"'
  | '\\' => some '\\'
  | '/' => some '/'
  | 'b' => some '\x08'
  | 'f' => some '\x0c'
  | 'n' => some '\n'
  | 'r' => some '\r'
  | 't' => some '\t'
  | _ => none

/-- The units of a text literal after its opening quote, and what follows its closing quote. -/
def scanUnits : List Char → Option (List TextUnit × List Char)
  | [] => none
  | '"' :: cs => some ([], cs)
  | '\\' :: 'u' :: a :: b :: c :: d :: cs => do
    let n ← hexValue4? a b c d
    let (us, rest) ← scanUnits cs
    return (.code n :: us, rest)
  | '\\' :: e :: cs => do
    let c ← unescape? e
    let (us, rest) ← scanUnits cs
    return (.char c :: us, rest)
  | c :: cs =>
    if c = '\\' ∨ c.toNat < 0x20 then none
    else do
      let (us, rest) ← scanUnits cs
      return (.char c :: us, rest)

/-- **The octets of units**: a leading surrogate half takes the trailing half right behind it; any
other half makes the text unreadable. -/
def joinUnits : List TextUnit → Option (List UInt8)
  | [] => some []
  | .char c :: us => (joinUnits us).map (UInt8.ofNat c.toNat :: ·)
  | .code n :: us =>
    if n < 0xD800 ∨ 0xDFFF < n then (joinUnits us).map (Text.Utf8.encode [Char.ofNat n] ++ ·)
    else if 0xDBFF < n then none
    else match us with
      | .code m :: us =>
        if 0xDC00 ≤ m ∧ m ≤ 0xDFFF then
          let c := Char.ofNat (0x10000 + (n - 0xD800) * 0x400 + (m - 0xDC00))
          (joinUnits us).map (Text.Utf8.encode [c] ++ ·)
        else none
      | _ => none

/-- The token of a text literal. -/
def textToken (us : List TextUnit) : Token :=
  match joinUnits us with
  | none => .text none
  | some bs => match Text.Utf8.decode? bs with
    | some cs => .text (some (String.ofList cs))
    | none => .undecodable

/-! ## Numbers -/

/-- **A number as it is written**: `exponent` and `fraction` are `none` when the text has none. -/
structure NumberText where
  negative : Bool
  whole : List Char
  fraction : Option (List Char)
  exponent : Option (Bool × List Char)
  deriving DecidableEq, Repr

/-- The digits at the start of a text, and the rest. -/
def spanDigits (cs : List Char) : List Char × List Char :=
  (cs.takeWhile Char.isDigit, cs.dropWhile Char.isDigit)

theorem spanDigits_append (cs : List Char) : (spanDigits cs).1 ++ (spanDigits cs).2 = cs :=
  List.takeWhile_append_dropWhile

/-- The whole part: a lone zero, or digits that do not start with one. -/
def scanWhole (cs : List Char) : Option (List Char × List Char) :=
  match spanDigits cs with
  | (['0'], rest) => some (['0'], rest)
  | ('0' :: _, _) => none
  | ([], _) => none
  | digits => some digits

/-- The fractional part, if a point comes next; it needs a digit. -/
def scanFraction : List Char → Option (Option (List Char) × List Char)
  | '.' :: cs =>
    match spanDigits cs with
    | ([], _) => none
    | (digits, rest) => some (some digits, rest)
  | cs => some (none, cs)

/-- The exponent, if an `e` comes next; it needs a digit. -/
def scanExponent (cs : List Char) : Option (Option (Bool × List Char) × List Char) :=
  match cs with
  | c :: cs' =>
    if c = 'e' ∨ c = 'E' then
      let (negative, ds) := match cs' with
        | '+' :: ds => (false, ds)
        | '-' :: ds => (true, ds)
        | ds => (false, ds)
      match spanDigits ds with
      | ([], _) => none
      | (digits, rest) => some (some (negative, digits), rest)
    else some (none, cs)
  | [] => some (none, [])

def scanNumber (cs : List Char) : Option (NumberText × List Char) := do
  let (negative, cs) := match cs with
    | '-' :: cs => (true, cs)
    | cs => (false, cs)
  let (whole, cs) ← scanWhole cs
  let (fraction, cs) ← scanFraction cs
  let (exponent, cs) ← scanExponent cs
  return (⟨negative, whole, fraction, exponent⟩, cs)

def digitsValue (ds : List Char) : Nat :=
  ds.foldl (fun n c => 10 * n + (c.toNat - '0'.toNat)) 0

/-- **The significand that fits in 64 bits**: reads digits while the value stays below `2 ^ 64`,
and counts those it leaves unread. -/
def takeSignificand : Nat → List Char → Nat × List Char
  | n, [] => (n, [])
  | n, c :: cs =>
    let m := 10 * n + (c.toNat - '0'.toNat)
    if m < Nat.pow 2 64 then takeSignificand m cs else (n, c :: cs)

/-- The significand and power of ten of a number with a fraction or an exponent, or of a whole
number too long for 64 bits.  Whole digits that do not fit raise the exponent; fraction digits
that do not fit are dropped. -/
def NumberText.scientific (t : NumberText) : Nat × Int :=
  let (n, unread) := takeSignificand 0 t.whole
  match t.fraction with
  | none => (n, unread.length)
  | some ds =>
    let (m, rest) := takeSignificand n ds
    (m, (unread.length : Int) - ((ds.length - rest.length : Nat) : Int))

/-- The written exponent; one that does not fit in 31 bits is out of any range. -/
def NumberText.exponentValue (t : NumberText) : Int :=
  match t.exponent with
  | none => 0
  | some (negative, ds) => if negative then -(digitsValue ds : Int) else digitsValue ds

/-- **The value of a number**: an integer where the text has neither point nor exponent and its
value fits, and a double otherwise.  A minus zero is a double.  `none`: too large. -/
def NumberText.value? (t : NumberText) : Option Number :=
  let signed (x : Binary64) : Binary64 := if t.negative then x.neg else x
  let n := digitsValue t.whole
  if t.fraction.isNone && t.exponent.isNone && n < Nat.pow 2 64 then
    if !t.negative then some (.natural n)
    else if n = 0 ∨ Nat.pow 2 63 < n then
      (Binary64.ofScientific? n 0).map fun x => .float (signed x)
    else some (.negative n)
  else
    let (m, k) := t.scientific
    let e := t.exponentValue
    if Nat.pow 2 31 ≤ e.natAbs then
      if m ≠ 0 ∧ 0 < e then none else some (.float (signed .zero))
    else
      (Binary64.ofScientific? m (k + e)).map fun x => .float (signed x)

/-- Whether a number is too large before its exponent ends. -/
def NumberText.isOverlong (t : NumberText) : Bool :=
  match t.exponent with
  | some (false, ds) => t.scientific.1 != 0 && Nat.pow 2 31 ≤ digitsValue ds.dropLast
  | _ => false

/-- The token of a number. -/
def numberToken (t : NumberText) : Token := if t.isOverlong then .overlong else .number t.value?

/-! ## The scanner -/

def isJsonBlank (c : Char) : Bool := c = ' ' || c = '\t' || c = '\n' || c = '\r'

/-- A word of letters at the start of a text. -/
def dropWord : List Char → List Char → Option (List Char)
  | [], cs => some cs
  | w :: ws, c :: cs => if w = c then dropWord ws cs else none
  | _ :: _, [] => none

theorem length_dropWord {ws cs rest : List Char} (h : dropWord ws cs = some rest) :
    rest.length ≤ cs.length := by
  induction ws generalizing cs with
  | nil => simp_all [dropWord]
  | cons w ws ih =>
    cases cs with
    | nil => simp [dropWord] at h
    | cons c cs =>
      simp only [dropWord] at h
      split at h
      · exact Nat.le_succ_of_le (ih h)
      · simp at h

theorem length_scanUnits {cs : List Char} {us : List TextUnit} {rest : List Char}
    (h : scanUnits cs = some (us, rest)) : rest.length < cs.length := by
  fun_induction scanUnits cs generalizing us rest with
  | case1 => cases h
  | case2 cs =>
    cases h
    exact Nat.lt_succ_self _
  | case3 a b c d cs ih =>
    simp only [bind, Option.bind_eq_some_iff] at h
    obtain ⟨n, -, ⟨us', rest'⟩, hrest, heq⟩ := h
    cases heq
    have := ih hrest
    simp only [List.length_cons]
    omega
  | case4 e cs _ ih =>
    simp only [bind, Option.bind_eq_some_iff] at h
    obtain ⟨c, -, ⟨us', rest'⟩, hrest, heq⟩ := h
    cases heq
    have := ih hrest
    simp only [List.length_cons]
    omega
  | case5 => cases h
  | case6 c cs _ _ _ _ ih =>
    simp only [bind, Option.bind_eq_some_iff] at h
    obtain ⟨⟨us', rest'⟩, hrest, heq⟩ := h
    cases heq
    exact Nat.lt_succ_of_lt (ih hrest)

theorem length_spanDigits {cs ds rest : List Char} (h : spanDigits cs = (ds, rest)) :
    ds.length + rest.length = cs.length := by
  have happend := spanDigits_append cs
  rw [h] at happend
  rw [← happend, List.length_append]

theorem length_scanWhole {cs ds rest : List Char} (h : scanWhole cs = some (ds, rest)) :
    rest.length < cs.length := by
  unfold scanWhole at h
  split at h
  next hspan =>
    cases h
    have := length_spanDigits hspan
    simp only [List.length_cons] at this
    omega
  next => cases h
  next => cases h
  next _ _ hempty =>
    have hlength := length_spanDigits (Option.some.inj h)
    have hdigits : ds ≠ [] := fun hnil => hempty rest (hnil ▸ Option.some.inj h)
    have := List.length_pos_iff.2 hdigits
    omega

theorem length_scanFraction {cs rest : List Char} {f : Option (List Char)}
    (h : scanFraction cs = some (f, rest)) : rest.length ≤ cs.length := by
  unfold scanFraction at h
  split at h
  next cs =>
    split at h
    next => cases h
    next digits rest' _ hspan =>
      cases h
      have := length_spanDigits hspan
      simp only [List.length_cons]
      omega
  next =>
    cases h
    exact Nat.le_refl _

theorem length_scanExponent {cs rest : List Char} {e : Option (Bool × List Char)}
    (h : scanExponent cs = some (e, rest)) : rest.length ≤ cs.length := by
  unfold scanExponent at h
  split at h
  next c cs =>
    split at h
    next hletter =>
      split at h
      next negative ds hsign =>
        have hunsigned : ds.length ≤ cs.length := by
          split at hsign
          all_goals cases hsign
          · exact Nat.le_succ _
          · exact Nat.le_succ _
          · exact Nat.le_refl _
        split at h
        next => cases h
        next digits rest' _ hspan =>
          cases h
          have := length_spanDigits hspan
          simp only [List.length_cons]
          omega
    next =>
      cases h
      exact Nat.le_refl _
  next =>
    cases h
    exact Nat.le_refl _

theorem length_scanNumber {cs rest : List Char} {t : NumberText}
    (h : scanNumber cs = some (t, rest)) : rest.length < cs.length := by
  unfold scanNumber at h
  split at h
  next negative unsigned hsign =>
    have hunsigned : unsigned.length ≤ cs.length := by
      split at hsign
      all_goals cases hsign
      · exact Nat.le_succ _
      · exact Nat.le_refl _
    simp only [bind, Option.bind_eq_some_iff, pure] at h
    obtain ⟨⟨whole, afterWhole⟩, hwhole, ⟨fraction, afterFraction⟩, hfraction,
      ⟨exponent, afterExponent⟩, hexponent, heq⟩ := h
    cases heq
    calc afterExponent.length ≤ afterFraction.length := length_scanExponent hexponent
      _ ≤ afterWhole.length := length_scanFraction hfraction
      _ < unsigned.length := length_scanWhole hwhole
      _ ≤ cs.length := hunsigned

/-- **The first token of a text that starts with no blank**, and the rest. -/
def scanToken (c : Char) (cs : List Char) : Option (Token × List Char) :=
  match c with
  | '{' => some (.beginObject, cs)
  | '}' => some (.endObject, cs)
  | '[' => some (.beginArray, cs)
  | ']' => some (.endArray, cs)
  | ',' => some (.comma, cs)
  | ':' => some (.colon, cs)
  | 'n' => (dropWord "ull".toList cs).map fun rest => (.null, rest)
  | 't' => (dropWord "rue".toList cs).map fun rest => (.boolean true, rest)
  | 'f' => (dropWord "alse".toList cs).map fun rest => (.boolean false, rest)
  | '"' => (scanUnits cs).map fun (us, rest) => (textToken us, rest)
  | c => (scanNumber (c :: cs)).map fun (t, rest) => (numberToken t, rest)

/-- A token is never empty. -/
theorem length_scanToken {c : Char} {cs rest : List Char} {t : Token}
    (h : scanToken c cs = some (t, rest)) : rest.length ≤ cs.length := by
  unfold scanToken at h
  split at h
  case h_1 | h_2 | h_3 | h_4 | h_5 | h_6 =>
    cases h
    exact Nat.le_refl _
  case h_7 | h_8 | h_9 =>
    obtain ⟨_, hword, heq⟩ := Option.map_eq_some_iff.1 h
    cases heq
    exact length_dropWord hword
  case h_10 =>
    obtain ⟨⟨_, _⟩, htext, heq⟩ := Option.map_eq_some_iff.1 h
    cases heq
    exact Nat.le_of_lt (length_scanUnits htext)
  case h_11 =>
    obtain ⟨⟨_, _⟩, hnumber, heq⟩ := Option.map_eq_some_iff.1 h
    cases heq
    exact Nat.le_of_lt_succ (length_scanNumber hnumber)

/-- **The tokens of octets**, closed by `junk` where they stop being readable. -/
def Token.scan : List Char → List Token
  | [] => []
  | c :: cs =>
    if isJsonBlank c then Token.scan cs
    else match _h : scanToken c cs with
      | none => [.junk]
      | some (t, rest) => t :: Token.scan rest
termination_by cs => cs.length
decreasing_by
  · simp
  · have := length_scanToken _h
    simp only [List.length_cons]
    omega

/-- The tokens of a text. -/
def Token.scanText (s : String) : List Token := Token.scan (octets (Text.Utf8.bytes s))

end TenantGuard.Json
