import TenantGuard.Text.Blank

/-!
# Spans of time

A span of time is written as numbers with units, such as `1h 30m` or `2.5s`.

* each number may have a fraction, which must come out as whole nanoseconds, or as whole seconds
  where the unit is longer than a minute;
* blanks may stand anywhere but within a unit;
* a number, a count of nanoseconds or a count of seconds that does not fit in 64 bits is refused;
* a lone `0` needs no unit.
-/

namespace TenantGuard

/-- **A span of time**, in whole seconds and nanoseconds below one thousand million. -/
structure TimeSpan where
  seconds : Nat
  nanos : Nat
  deriving DecidableEq, Repr, Inhabited

namespace TimeSpan

def ofSeconds (n : Nat) : TimeSpan := ⟨n, 0⟩

/-- The whole milliseconds of a span. -/
def millis (t : TimeSpan) : Nat := 1000 * t.seconds + t.nanos / 1000000

def perSecond : Nat := 1000000000

/-- The units, with their length in nanoseconds. -/
def units : List (List String × Nat) :=
  [(["nanos", "nsec", "ns"], 1),
   (["usec", "us", "\u00b5s"], 1000),
   (["millis", "msec", "ms"], 1000000),
   (["seconds", "second", "secs", "sec", "s"], perSecond),
   (["minutes", "minute", "min", "mins", "m"], 60 * perSecond),
   (["hours", "hour", "hr", "hrs", "h"], 3600 * perSecond),
   (["days", "day", "d"], 86400 * perSecond),
   (["weeks", "week", "wk", "wks", "w"], 7 * 86400 * perSecond),
   (["months", "month", "M"], 2630016 * perSecond),
   (["years", "year", "yr", "yrs", "y"], 31557600 * perSecond)]

/-- The length of a unit in nanoseconds. -/
def unit? (name : List Char) : Option Nat :=
  (units.find? fun u => u.1.contains (String.ofList name)).map (·.2)

/-- What fits in 64 bits. -/
def fits (n : Nat) : Option Nat := if n < Nat.pow 2 64 then some n else none

def digitValue (c : Char) : Nat := c.toNat - '0'.toNat

/-- The letters of units. -/
def isUnitLetter (c : Char) : Bool := c.isAlpha || c == '\u00b5'

/-! ## Numbers -/

/-- Reads on in the digits of a whole number; blanks between them do not count. -/
def whole? (n : Nat) : List Char → Option (Nat × List Char)
  | [] => some (n, [])
  | c :: cs =>
    if c.isDigit then (fits (10 * n + digitValue c)).bind (whole? · cs)
    else if Text.isBlank c then whole? n cs
    else some (n, c :: cs)

/-- Reads on in the digits behind a point: their value and their number. -/
def fraction? (n places : Nat) : List Char → Option (Nat × Nat × List Char)
  | [] => if places = 0 then none else some (n, places, [])
  | c :: cs =>
    if c.isDigit then
      match fits (10 * n + digitValue c), fits (Nat.pow 10 (places + 1)) with
      | some m, some _ => fraction? m (places + 1) cs
      | _, _ => none
    else if Text.isBlank c then fraction? n places cs
    else if places = 0 ∨ !isUnitLetter c then none
    else some (n, places, c :: cs)

/-- A number: its whole part, and the value and number of the digits behind its point. -/
def amount? (n : Nat) (cs : List Char) : Option (Nat × Option (Nat × Nat) × List Char) := do
  match ← whole? n cs with
  | (n, '.' :: rest) =>
    let (f, places, rest) ← fraction? 0 0 rest
    return (n, some (f, places), rest)
  | (n, rest) => return (n, none, rest)

/-! ## Amounts of a unit -/

/-- A whole number of units, in nanoseconds. -/
def wholeNanos? (n unit : Nat) : Option Nat :=
  if unit < perSecond then fits (n * unit)
  else (fits (n * (unit / perSecond))).map (· * perSecond)

/-- A quotient without a remainder. -/
def exactly (n divisor : Nat) : Option Nat := if n % divisor = 0 then some (n / divisor) else none

/-- **A fraction of a unit**, in nanoseconds.  A fraction of a minute or less must come out as whole
nanoseconds, one of a longer unit as whole seconds, and a nanosecond has no fractions. -/
def fractionNanos? (f : Option (Nat × Nat)) (unit : Nat) : Option Nat :=
  match f with
  | none => some 0
  | some (n, places) =>
    let parts := Nat.pow 10 places
    if unit = 1 then none
    else if unit ≤ 60 * perSecond then (fits (n * unit)).bind (exactly · parts)
    else ((fits (n * (unit / perSecond))).bind (exactly · parts)).map (· * perSecond)

/-- Adds a number of a unit to a sum of nanoseconds.  For a unit below a second, what is added and
the sum's part below a second must fit together. -/
def add? (sum n : Nat) (f : Option (Nat × Nat)) (unit : Nat) : Option Nat := do
  let whole ← wholeNanos? n unit
  if unit < perSecond then
    let _ ← fits (sum % perSecond + whole)
  let sum := sum + whole + (← fractionNanos? f unit)
  let _ ← fits (sum / perSecond)
  return sum

/-! ## Reading -/

/-- The unit at the start of a text; a digit, a blank or the end comes behind it. -/
def unitName? (cs : List Char) : Option (List Char × List Char) :=
  let rest := cs.dropWhile isUnitLetter
  if rest.head?.all fun c => c.isDigit || Text.isBlank c then
    some (cs.takeWhile isUnitLetter, rest)
  else none

/-- Adds up the numbers with their units.  The first argument bounds their number. -/
def total? : Nat → Nat → List Char → Option Nat
  | 0, _, _ => none
  | k + 1, sum, cs => do
    match cs.dropWhile Text.isBlank with
    | [] => some sum
    | c :: cs =>
      if !c.isDigit then none
      else do
        let (n, f, rest) ← amount? (digitValue c) cs
        let (name, rest) ← unitName? rest
        total? k (← add? sum n f (← unit? name)) rest

/-- **Reads a span of time.** -/
def parse? (s : String) : Option TimeSpan :=
  let cs := s.toList
  if cs = ['0'] then some ⟨0, 0⟩
  else if cs.all Text.isBlank then none
  else (total? (cs.length + 1) 0 cs).map fun n => ⟨n / perSecond, n % perSecond⟩

end TimeSpan

end TenantGuard
