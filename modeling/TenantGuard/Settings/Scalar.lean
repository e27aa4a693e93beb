import TenantGuard.Json.Value
import TenantGuard.TimeSpan
import TenantGuard.Settings.Source

/-!
# Reading single settings

A value of the environment is always a text, so a setting accepts every value that can be taken for
one of its kind.

* a text is read from any text, number or truth value;
* a natural number from a number, a truth value or a text;
* a truth value from a truth value, a number or a text;
* nothing is read from `null`.
-/

namespace TenantGuard.Settings

open Decimal (Binary64)

/-- An integer as it is held: those from `2 ^ 63` on are held as doubles. -/
inductive Held where
  | integer (n : Int)
  | float (x : Binary64)
  deriving DecidableEq, Repr

/-- How a number of a document is held. -/
def Held.ofNumber : Json.Number → Held
  | .natural n =>
    if n < Nat.pow 2 63 then .integer n else .float ((Binary64.ofRatio? false n 1).getD .zero)
  | .negative n => .integer (-n)
  | .float x => .float x

/-- A setting that is a text. -/
def text? : Json → Option String
  | .text s => some s
  | .boolean b => some (if b then "true" else "false")
  | .number n => match Held.ofNumber n with
    | .integer i => some (toString i)
    | .float x => some x.toPositional
  | _ => none

def truths : List String := ["true", "on", "yes"]

def falsehoods : List String := ["false", "off", "no"]

/-- A natural number in decimal, with or without a plus. -/
def decimal? (s : String) : Option Nat :=
  let digits := match s.toList with
    | '+' :: cs => cs
    | cs => cs
  if digits.isEmpty || !digits.all Char.isDigit then none
  else some (digits.foldl (fun n c => 10 * n + (c.toNat - '0'.toNat)) 0)

/-- A setting that is a natural number up to a bound.  A double is rounded, and what lies beyond 64
bits is brought to the nearest bound. -/
def nat? (bound : Nat) (j : Json) : Option Nat :=
  let n? : Option Nat := match j with
    | .number n => match Held.ofNumber n with
      | .integer (.ofNat n) => some n
      | .integer (.negSucc _) => none
      | .float x => some (if x.negative then 0 else min x.roundHalfAway (Nat.pow 2 64 - 1))
    | .boolean b => some (if b then 1 else 0)
    | .text s =>
      if truths.contains (lower s) then some 1
      else if falsehoods.contains (lower s) then some 0
      else decimal? s
    | _ => none
  n?.filter (· ≤ bound)

/-- A setting that is a truth value. -/
def bool? : Json → Option Bool
  | .boolean b => some b
  | .number n => match Held.ofNumber n with
    | .integer i => some (i != 0)
    | .float x => some !x.isZero
  | .text s =>
    if s = "1" ∨ truths.contains (lower s) then some true
    else if s = "0" ∨ falsehoods.contains (lower s) then some false
    else none
  | _ => none

/-- A setting that is a span of time. -/
def timeSpan? (j : Json) : Option TimeSpan := (text? j).bind TimeSpan.parse?

/-- A setting that is one of some names, in any case; a table with such a name alone stands for
it. -/
def choice? {α : Type} (names : List (String × α)) : Json → Option α
  | .text s => names.lookup (lower s)
  | .object [(name, _)] => names.lookup (lower name)
  | _ => none

/-- A setting that is a list. -/
def list? {α : Type} (read : Json → Option α) : Json → Option (List α)
  | .array xs => xs.mapM read
  | _ => none

/-! ## Sections -/

/-- **A section**: settings under their names. -/
structure Section where
  entries : List (String × Json)
  /-- Whether the section was written as a list, with its settings in their order. -/
  byPlace : Bool
  deriving Repr

namespace Section

/-- The section in a value, given the names of its settings in their order. -/
def ofJson? (names : List String) : Json → Option Section
  | .object ms => some ⟨ms, false⟩
  | .array xs => some ⟨names.zip xs, true⟩
  | _ => none

variable {α : Type}

/-- A setting that must be there. -/
def required (t : Section) (name : String) (read : Json → Option α) : Option α :=
  (t.entries.lookup name).bind read

/-- A setting with a default. -/
def withDefault (t : Section) (name : String) (read : Json → Option α) (absent : α) : Option α :=
  match t.entries.lookup name with
  | some j => read j
  | none => some absent

/-- A setting that may be missing or `null`. -/
def optional (t : Section) (name : String) (read : Json → Option α) : Option (Option α) :=
  match t.entries.lookup name with
  | some .null => some none
  | some j => (read j).map some
  | none => if t.byPlace then none else some none

end Section

end TenantGuard.Settings
