import TenantGuard.Text.Utf8

/-!
# Percent encoding

A byte is written as `%` and two hexadecimal digits.  `decode` reads such triples and leaves a `%`
that starts none as it stands.
-/

namespace TenantGuard.Text.Percent

/-- The value of a byte that is a hexadecimal digit of either case. -/
def hexValue? (b : UInt8) : Option Nat :=
  let n := b.toNat
  if 48 ≤ n ∧ n ≤ 57 then some (n - 48)
  else if 65 ≤ n ∧ n ≤ 70 then some (n - 55)
  else if 97 ≤ n ∧ n ≤ 102 then some (n - 87)
  else none

/-- **Reads the triples** of a byte sequence. -/
def decode : List UInt8 → List UInt8
  | [] => []
  | [b] => [b]
  | [b, c] => [b, c]
  | b :: c :: d :: rest =>
    if b = 37 then
      match hexValue? c, hexValue? d with
      | some x, some y => UInt8.ofNat (16 * x + y) :: decode rest
      | _, _ => b :: decode (c :: d :: rest)
    else b :: decode (c :: d :: rest)

/-- A hexadecimal digit in upper case. -/
def upperDigit (n : Nat) : Char := (Nat.digitChar n).toUpper

/-- The triple for a byte. -/
def triple (b : UInt8) : List Char := ['%', upperDigit (b.toNat / 16), upperDigit (b.toNat % 16)]

end TenantGuard.Text.Percent
