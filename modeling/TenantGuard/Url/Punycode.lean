/-!
# Names in letters of ASCII

Punycode writes a text with letters, digits and hyphens of ASCII.  The characters that are ASCII
come first, with a hyphen behind them; then numbers say which other characters are inserted where.
Numbers are written in digits of base 36, the least one first, and end at a digit below a threshold
that follows the numbers read before.

`decode?` reads such a text, one digit after the other.  No number may exceed 32 bits.
-/

namespace TenantGuard.Url.Punycode

/-- The value of a digit: letters, then decimal digits. -/
def digit? (c : Char) : Option Nat :=
  let n := c.toNat
  if 0x61 ≤ n ∧ n ≤ 0x7A then some (n - 0x61)
  else if 0x41 ≤ n ∧ n ≤ 0x5A then some (n - 0x41)
  else if 0x30 ≤ n ∧ n ≤ 0x39 then some (n - 0x30 + 26)
  else none

def fits (n : Nat) : Option Nat := if n < Nat.pow 2 32 then some n else none

/-- The character of a code point, if there is one. -/
def char? (n : Nat) : Option Char :=
  if n < 0xD800 ∨ (0xDFFF < n ∧ n < 0x110000) then some (Char.ofNat n) else none

/-! ## Thresholds -/

/-- The threshold of a digit: the digit's place, in steps of 36, less the bias, from 1 to 26. -/
def threshold (place bias : Nat) : Nat := max 1 (min 26 (place - bias))

/-- Divides by 35 down to 455; the places that this takes off are added up. -/
def scaled (places delta : Nat) : Nat :=
  if 455 < delta then scaled (places + 36) (delta / 35)
  else places + 36 * delta / (delta + 38)
termination_by delta
decreasing_by omega

/-- The bias after a number that made a text of some length; the first number counts for less. -/
def adapted (delta length : Nat) (isFirst : Bool) : Nat :=
  let delta := if isFirst then delta / 700 else delta / 2
  scaled 0 (delta + delta / length)

/-! ## Reading -/

/-- **What was read so far**: the text, the last code point and the index behind it, the bias, and
of the number that is being read its value, the weight and the place of the next digit. -/
structure Progress where
  text : List Char
  code : Nat := 128
  index : Nat := 0
  bias : Nat := 72
  value : Nat := 0
  weight : Nat := 1
  place : Nat := 36
  deriving DecidableEq, Repr

namespace Progress

/-- Inserts the character that the number read says. -/
def insert? (p : Progress) (value : Nat) : Option Progress := do
  let length := p.text.length + 1
  let code := p.code + value / length
  let index := value % length
  let c ← char? code
  return {
    text := p.text.take index ++ c :: p.text.drop index
    code
    index := index + 1
    bias := adapted (value - p.index) length (p.index == 0)
    value := index + 1 }

/-- Reads one digit. -/
def digit? (p : Progress) (c : Char) : Option Progress := do
  let d ← Punycode.digit? c
  let value ← fits (p.value + d * p.weight)
  let t := threshold p.place p.bias
  if d < t then p.insert? value
  else return { p with value, weight := ← fits (p.weight * (36 - t)), place := p.place + 36 }

end Progress

/-- **Reads a text written with ASCII.** -/
def decode? (cs : List Char) : Option (List Char) := do
  let digits := (cs.reverse.takeWhile (· != '-')).reverse
  let start := cs.take (cs.length - digits.length - 1)
  let digits := if start.isEmpty then cs else digits
  let p ← digits.foldlM Progress.digit? { text := start }
  if p.place = 36 then return p.text else none

end TenantGuard.Url.Punycode
