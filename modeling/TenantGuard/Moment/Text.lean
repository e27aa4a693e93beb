import TenantGuard.Moment
import TenantGuard.Text.Blank

/-!
# Written instants

Instants are written as RFC 3339 timestamps in Coordinated Universal Time: a fraction of no, three,
six or nine digits, whichever is the first that is exact, and a final `Z`.

The reader is wider than the writer.  It takes any offset, digits beyond the ninth of a fraction
(which it drops), a `t` or a single blank between date and time, and blanks between the parts.
-/

namespace TenantGuard.Moment

open Text (isBlank trimStart)

/-! ## Writing -/

/-- The decimal digits of a number, with zeros in front up to a width. -/
def padded (width n : Nat) : String :=
  let ds := toString n
  String.ofList (List.replicate (width - ds.length) '0') ++ ds

def yearText (y : Int) : String :=
  if 0 ≤ y ∧ y ≤ 9999 then padded 4 y.toNat
  else (if y < 0 then "-" else "+") ++ padded 4 y.natAbs

def fractionText (nanos : Nat) : String :=
  if nanos = 0 then ""
  else if nanos % 1000000 = 0 then "." ++ padded 3 (nanos / 1000000)
  else if nanos % 1000 = 0 then "." ++ padded 6 (nanos / 1000)
  else "." ++ padded 9 nanos

/-- **The written instant.** -/
def toText (m : Moment) : String :=
  let d := dateOfDay (m.seconds / 86400)
  let s := (m.seconds % 86400).toNat
  let second := s % 60 + m.nanos / 1000000000
  yearText d.year ++ "-" ++ padded 2 d.month ++ "-" ++ padded 2 d.day ++ "T" ++
    padded 2 (s / 3600) ++ ":" ++ padded 2 (s / 60 % 60) ++ ":" ++ padded 2 second ++
    fractionText (m.nanos % 1000000000) ++ "Z"

/-! ## Reading -/

def digitsToNat (ds : List Char) : Nat := ds.foldl (fun n c => 10 * n + (c.toNat - 48)) 0

/-- A number of at most `width` digits, after blanks. -/
def readNumber (width : Nat) (cs : List Char) : Option (Nat × List Char) :=
  let cs := trimStart cs
  let ds := (cs.take width).takeWhile Char.isDigit
  if ds.isEmpty then none else some (digitsToNat ds, cs.drop ds.length)

/-- A year: at most four digits, or a sign and any number of digits. -/
def readYear (cs : List Char) : Option (Int × List Char) :=
  let cs := trimStart cs
  let signed (cs : List Char) : Option (Nat × List Char) :=
    let ds := cs.takeWhile Char.isDigit
    if ds.isEmpty then none else some (digitsToNat ds, cs.drop ds.length)
  match cs with
  | '-' :: cs => (signed cs).map fun (n, r) => (-(n : Int), r)
  | '+' :: cs => (signed cs).map fun (n, r) => ((n : Int), r)
  | cs => (readNumber 4 cs).map fun (n, r) => ((n : Int), r)

/-- A mark between two numbers, after blanks. -/
def readMark (mark : Char) (cs : List Char) : Option (List Char) :=
  match trimStart cs with
  | c :: rest => if c = mark then some rest else none
  | [] => none

/-- The nanoseconds of a fraction; digits after the ninth are dropped. -/
def readFraction : List Char → Option (Nat × List Char)
  | '.' :: cs =>
    let ds := cs.takeWhile Char.isDigit
    if ds.isEmpty then none
    else some (digitsToNat (ds.take 9) * Nat.pow 10 (9 - ds.length), cs.drop ds.length)
  | cs => some (0, cs)

/-- Two digits, the first of them at most `most`. -/
def readTwoDigits (most : Char) : List Char → Option (Nat × List Char)
  | a :: b :: rest =>
    if a.isDigit && a ≤ most && b.isDigit then some (digitsToNat [a, b], rest) else none
  | _ => none

/-- An offset from Coordinated Universal Time, in seconds. -/
def readOffset (cs : List Char) : Option (Int × List Char) := do
  let cs := trimStart cs
  if (cs.take 3).map Char.toUpper = ['U', 'T', 'C'] then
    return (0, cs.drop 3)
  match cs with
  | 'Z' :: rest => return (0, rest)
  | 'z' :: rest => return (0, rest)
  | sign :: rest =>
    let negative := sign = '-' ∨ sign = '\u2212'
    if ¬ negative ∧ sign ≠ '+' then none
    let (hours, rest) ← readTwoDigits '9' rest
    let (minutes, rest) ← readTwoDigits '5' (rest.dropWhile fun c => c == ':' || isBlank c)
    let offset : Int := hours * 3600 + minutes * 60
    return (if negative then -offset else offset, rest)
  | [] => none

/-- **Reads a written instant**, with the liberties that the module's introduction lists. -/
def readLoose? (s : String) : Option Moment := do
  let (year, cs) ← readYear s.toList
  let cs ← readMark '-' cs
  let (month, cs) ← readNumber 2 cs
  let cs ← readMark '-' cs
  let (day, cs) ← readNumber 2 cs
  let cs ← match cs with
    | c :: cs => if c = 't' ∨ c = 'T' ∨ c = ' ' then some cs else none
    | [] => none
  let (hour, cs) ← readNumber 2 cs
  let cs ← readMark ':' cs
  let (minute, cs) ← readNumber 2 cs
  let cs ← readMark ':' cs
  let (second, cs) ← readNumber 2 cs
  let (nanos, cs) ← readFraction cs
  let (offset, cs) ← readOffset cs
  let date : Date := ⟨year, month, day⟩
  if !(trimStart cs).isEmpty || !date.isValid || 23 < hour || 59 < minute || 60 < second ||
      86400 ≤ offset.natAbs then
    none
  let (second, nanos) := if second = 60 then (59, nanos + 1000000000) else (second, nanos)
  let local_ := ofDateTime date hour minute second nanos
  let m : Moment := ⟨local_.seconds - offset, local_.nanos⟩
  let utc := dateOfDay (m.seconds / 86400)
  if utc.isValid then return m else none

end TenantGuard.Moment
