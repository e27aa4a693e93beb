import TenantGuard.Text.Percent
import TenantGuard.Url.DomainName

/-!
# Hosts of URLs

A host is a domain, an address of four numbers or an address of eight numbers in square brackets.

* `Host.parse?` reads the host of a URL of the web: percent triples are read, the text must be a
  domain name, and a name that ends in a number must be an address of four numbers;
* `Host.parseLiteral?` reads the host of any other URL, which keeps its text.
-/

namespace TenantGuard.Url

/-- **A host.** -/
inductive Host where
  | domain (name : List Char)
  | ipv4 (address : Nat)
  | ipv6 (pieces : List Nat)
  /-- The host of a scheme that is not one of the web's. -/
  | literal (text : List Char)
  deriving DecidableEq, Repr, Inhabited

namespace Host

/-! ## Digits -/

/-- The value of a digit, of either case, in a base up to 16. -/
def digit? (base : Nat) (c : Char) : Option Nat :=
  let n := c.toNat
  let value? : Option Nat :=
    if 48 ≤ n ∧ n ≤ 57 then some (n - 48)
    else if 65 ≤ n ∧ n ≤ 70 then some (n - 55)
    else if 97 ≤ n ∧ n ≤ 102 then some (n - 87)
    else none
  value?.filter (· < base)

/-- The number that digits write. -/
def number? (base : Nat) (cs : List Char) : Option Nat :=
  cs.foldlM (fun n c => (digit? base c).map (base * n + ·)) 0

/-! ## Addresses of four numbers -/

/-- One number: hexadecimal after `0x`, octal after `0`, else decimal.  Without digits it is zero
where a base is given. -/
def part? : List Char → Option Nat
  | [] => none
  | '0' :: 'x' :: cs => number? 16 cs
  | '0' :: 'X' :: cs => number? 16 cs
  | '0' :: c :: cs => number? 8 (c :: cs)
  | cs => number? 10 cs

/-- The parts of a name between points; a point at the end does not count. -/
def parts (name : List Char) : List (List Char) :=
  let ps := Text.splitOn '.' name
  if 1 < ps.length ∧ ps.getLast? = some [] then ps.dropLast else ps

/-- Whether a name must be an address because its last part is a number. -/
def endsInNumber (name : List Char) : Bool :=
  match (parts name).getLast? with
  | some last => (!last.isEmpty && last.all Char.isDigit) || (part? last).isSome
  | none => false

/-- The address of at most four numbers: each but the last is one byte, the last one fills up what
is left. -/
def ipv4? (name : List Char) : Option Nat := do
  let ps := parts name
  if 4 < ps.length then none
  else do
    let ns ← ps.mapM part?
    let last ← ns.getLast?
    let front := ns.dropLast
    if front.any (255 < ·) ∨ Nat.pow 256 (4 - front.length) ≤ last then none
    else some (front.foldl (fun n b => 256 * n + b) 0 * Nat.pow 256 (4 - front.length) + last)

/-! ## Addresses of eight numbers -/

/-- A byte of an address in decimal, without a zero in front. -/
def byte? (cs : List Char) : Option Nat :=
  match cs with
  | [] => none
  | '0' :: _ :: _ => none
  | _ => (number? 10 cs).filter (· < 256)

/-- The last two pieces written as four bytes. -/
def embedded? (cs : List Char) : Option (List Nat) := do
  match ← (Text.splitOn '.' cs).mapM byte? with
  | [a, b, c, d] => return [256 * a + b, 256 * c + d]
  | _ => none

/-- One piece of at most four hexadecimal digits. -/
def piece? (cs : List Char) : Option Nat :=
  if cs.isEmpty ∨ 4 < cs.length then none else number? 16 cs

/-- Pieces between colons, the last of which may be written as four bytes. -/
def pieces? : List (List Char) → Option (List Nat)
  | [] => some []
  | [last] => if last.contains '.' then embedded? last else (piece? last).map ([·])
  | p :: ps => do return (← piece? p) :: (← pieces? ps)

/-- The pieces of a text that may be empty. -/
def side? (cs : List Char) : Option (List Nat) :=
  if cs.isEmpty then some [] else pieces? (Text.splitOn ':' cs)

/-- What stands before a double colon, and what stands behind it. -/
def cutDouble : List Char → Option (List Char × List Char)
  | ':' :: ':' :: cs => some ([], cs)
  | c :: cs => (cutDouble cs).map fun (before, after) => (c :: before, after)
  | [] => none

/-- **An address of eight pieces**; a double colon stands for one or more pieces that are zero. -/
def ipv6? (cs : List Char) : Option (List Nat) :=
  match cutDouble cs with
  | none => (side? cs).filter (·.length = 8)
  | some (before, after) => do
    if before.contains '.' then none
    else do
      let front ← side? before
      let back ← side? after
      if front.length + back.length < 8 then
        some (front ++ List.replicate (8 - front.length - back.length) 0 ++ back)
      else none

/-- The address between square brackets. -/
def bracketed? (cs : List Char) : Option Host :=
  match cs.reverse with
  | ']' :: rest => (ipv6? rest.reverse).map ipv6
  | _ => none

/-! ## Names -/

/-- The characters that no host may hold. -/
def isForbidden (c : Char) : Bool :=
  c == '\x00' || c == '\t' || c == '\n' || c == '\r' || " #/:<>?@[\\]^|".toList.contains c

/-- The characters that no domain may hold. -/
def isForbiddenInDomain (c : Char) : Bool :=
  isForbidden c || c.toNat < 0x20 || c == '%' || c.toNat == 0x7F

/-- The domain name that a written host stands for. -/
def domainName? (cs : List Char) : Option (List Char) :=
  DomainName.parse? (Text.Utf8.decodeLossy (Text.Percent.decode (Text.Utf8.encode cs)))

/-- **Reads the host of a URL of the web.** -/
def parse? (cs : List Char) : Option Host :=
  match cs with
  | '[' :: rest => bracketed? rest
  | _ => do
    let name ← domainName? cs
    if name.isEmpty ∨ name.any isForbiddenInDomain then none
    else if endsInNumber name then (ipv4? name).map ipv4
    else return domain name

/-- Reads the host of any other URL; it may be empty. -/
def parseLiteral? (cs : List Char) : Option Host :=
  match cs with
  | '[' :: rest => bracketed? rest
  | _ => if cs.any isForbidden then none else some (literal cs)

end Host

end TenantGuard.Url
