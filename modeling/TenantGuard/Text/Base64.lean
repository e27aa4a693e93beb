/-!
# Base64

Three bytes are written as four digits of six bits each; a rest of one or two bytes as two or three
digits, the unused low bits being zero.

* `encode` writes bytes without padding;
* `decode?` reads exactly such texts, `decodePadded?` those filled up with `=` to a multiple of four
  characters.
-/

namespace TenantGuard.Text.Base64

/-- **The digits of a base64 alphabet**: letters and decimal digits, then two characters. -/
structure Alphabet where
  sixtyTwo : Char
  sixtyThree : Char
  deriving DecidableEq, Repr

def standard : Alphabet := ⟨'+', '/'⟩

/-- The alphabet for texts that stand in a URL. -/
def urlSafe : Alphabet := ⟨'-', '_'⟩

namespace Alphabet

/-- The digit for a number below 64. -/
def digit (a : Alphabet) (n : Nat) : Char :=
  if n < 26 then Char.ofNat (n + 65)
  else if n < 52 then Char.ofNat (n + 71)
  else if n < 62 then Char.ofNat (n - 4)
  else if n = 62 then a.sixtyTwo
  else a.sixtyThree

/-- The number that a digit stands for. -/
def value? (a : Alphabet) (c : Char) : Option Nat :=
  let n := c.toNat
  if 65 ≤ n ∧ n ≤ 90 then some (n - 65)
  else if 97 ≤ n ∧ n ≤ 122 then some (n - 71)
  else if 48 ≤ n ∧ n ≤ 57 then some (n + 4)
  else if c = a.sixtyTwo then some 62
  else if c = a.sixtyThree then some 63
  else none

end Alphabet

/-- **Writes bytes**, without padding. -/
def encode (a : Alphabet) : List UInt8 → List Char
  | [] => []
  | [x] => [a.digit (x.toNat / 4), a.digit (x.toNat % 4 * 16)]
  | [x, y] =>
    [a.digit (x.toNat / 4), a.digit (x.toNat % 4 * 16 + y.toNat / 16), a.digit (y.toNat % 16 * 4)]
  | x :: y :: z :: rest =>
    a.digit (x.toNat / 4) :: a.digit (x.toNat % 4 * 16 + y.toNat / 16) ::
      a.digit (y.toNat % 16 * 4 + z.toNat / 64) :: a.digit (z.toNat % 64) :: encode a rest

/-- **Reads digits** without padding.  `none`: a character is no digit, a digit stands alone, or
unused bits are not zero. -/
def decode? (a : Alphabet) : List Char → Option (List UInt8)
  | [] => some []
  | [_] => none
  | [c, d] => do
    let p ← a.value? c
    let q ← a.value? d
    if q % 16 = 0 then some [UInt8.ofNat (p * 4 + q / 16)] else none
  | [c, d, e] => do
    let p ← a.value? c
    let q ← a.value? d
    let r ← a.value? e
    if r % 4 = 0 then
      some [UInt8.ofNat (p * 4 + q / 16), UInt8.ofNat (q % 16 * 16 + r / 4)]
    else none
  | c :: d :: e :: f :: rest => do
    let p ← a.value? c
    let q ← a.value? d
    let r ← a.value? e
    let s ← a.value? f
    let bytes ← decode? a rest
    return UInt8.ofNat (p * 4 + q / 16) :: UInt8.ofNat (q % 16 * 16 + r / 4) ::
      UInt8.ofNat (r % 4 * 64 + s) :: bytes

/-- A text without the padding at its end, of at most two characters. -/
def dropPadding (cs : List Char) : List Char :=
  match cs.reverse with
  | '=' :: '=' :: rest => rest.reverse
  | '=' :: rest => rest.reverse
  | _ => cs

/-- Reads digits that are filled up with `=` to a multiple of four characters. -/
def decodePadded? (a : Alphabet) (cs : List Char) : Option (List UInt8) :=
  if cs.length % 4 = 0 then decode? a (dropPadding cs) else none

end TenantGuard.Text.Base64
