import TenantGuard.Moment
import TenantGuard.Text.Utf8

/-!
# Blocks of ASN.1

A document in the basic encoding of ASN.1 is a row of blocks.  Each block has a tag, a length and
contents; the contents of sequences and sets are blocks again.

* `Der.blocks?` reads a row of blocks.  It takes lengths and tags in any form, and refuses an empty
  row and contents that do not go with their tag.
* `Der.element?` reads one block in the canonical form that keys must have.
-/

namespace TenantGuard.Crypto

/-- **A block.**  Of most kinds only their presence counts. -/
inductive Der where
  | sequence (items : List Der)
  | set (items : List Der)
  | objectId (arcs : List Nat)
  /-- A bit string, without the count of its unused bits. -/
  | bits (bytes : List UInt8)
  | octets (bytes : List UInt8)
  | other
  deriving Repr, Inhabited

namespace Der

/-- The number that bytes write, the most significant first. -/
def bigEndianValue (bytes : List UInt8) : Nat := bytes.foldl (fun n b => 256 * n + b.toNat) 0

/-! ## Tags and lengths -/

/-- Reads on in a number of seven bits a byte, of which the last byte is below 128. -/
def septets? (n : Nat) : List UInt8 → Option (Nat × List UInt8)
  | [] => none
  | b :: bs =>
    let m := 128 * n + b.toNat % 128
    if b.toNat < 128 then some (m, bs) else septets? m bs

theorem length_septets? {n m : Nat} {bs rest : List UInt8} (h : septets? n bs = some (m, rest)) :
    rest.length < bs.length := by
  induction bs generalizing n with
  | nil => simp [septets?] at h
  | cons b bs ih =>
    rw [septets?] at h
    split at h
    · simp_all
    · exact Nat.lt_succ_of_lt (ih h)

/-- The class and the number of a tag, which may go on behind its first byte. -/
def tag? : List UInt8 → Option (Nat × Nat × List UInt8)
  | [] => none
  | b :: bs =>
    let n := b.toNat
    if n % 32 = 31 then (septets? 0 bs).map fun (k, rest) => (n / 64, k, rest)
    else some (n / 64, n % 32, bs)

/-- The length field: one byte below 128, or a count up to eight and that many bytes. -/
def length? : List UInt8 → Option (Nat × List UInt8)
  | [] => none
  | b :: bs =>
    if b.toNat < 128 then some (b.toNat, bs)
    else
      let n := b.toNat - 128
      if 8 < n ∨ bs.length < n then none else some (bigEndianValue (bs.take n), bs.drop n)

/-- One block: its class and number, its contents and the bytes behind it. -/
def block? (bs : List UInt8) : Option (Nat × Nat × List UInt8 × List UInt8) := do
  let (kind, number, bs) ← tag? bs
  let (n, bs) ← length? bs
  if bs.length < n then none else some (kind, number, bs.take n, bs.drop n)

/-! ## Contents -/

/-- Numbers of seven bits a byte, one after the other. -/
def septetsList? (bs : List UInt8) : Option (List Nat) :=
  match bs with
  | [] => some []
  | b :: rest =>
    match _h : septets? 0 (b :: rest) with
    | none => none
    | some (n, more) => (septetsList? more).map (n :: ·)
termination_by bs.length
decreasing_by exact length_septets? _h

/-- The arcs of an object identifier; the first byte holds two of them. -/
def arcs? : List UInt8 → Option (List Nat)
  | [] => none
  | b :: bs =>
    let n := b.toNat
    let first := if n < 40 then [0, n] else if n < 80 then [1, n - 40] else [2, n - 80]
    (septetsList? bs).map (first ++ ·)

/-- The characters of printable texts. -/
def isPrintable (b : UInt8) : Bool :=
  let c := Char.ofNat b.toNat
  c.isAlphanum || " '()+,-./:=?".toList.contains c

/-- Two digits at a place of a text. -/
def twoDigits? (cs : List Char) (place : Nat) : Option Nat :=
  match (cs.drop place).take 2 with
  | [a, b] =>
    if a.isDigit && b.isDigit then some (10 * (a.toNat - 48) + (b.toNat - 48)) else none
  | _ => none

/-- Whether fourteen digits write a date and a time of day, from the year to the second. -/
def isDateTime (cs : List Char) : Bool :=
  match (List.range 7).mapM fun i => twoDigits? cs (2 * i) with
  | some [century, year, month, day, hour, minute, second] =>
    (Moment.Date.isValid ⟨(100 * century + year : Nat), month, day⟩) && hour < 24 &&
      minute < 60 && second < 60
  | _ => false

def chars (bytes : List UInt8) : List Char := bytes.map fun b => Char.ofNat b.toNat

/-- A time in thirteen characters, with the last two digits of a year from 1950 to 2049. -/
def isShortTime (bytes : List UInt8) : Bool :=
  let cs := chars bytes
  let isPast := ['5', '6', '7', '8', '9'].contains (cs.headD '0')
  let century := if isPast then ['1', '9'] else ['2', '0']
  bytes.length == 13 && isDateTime (century ++ cs.take 12) && cs.getLast? == some 'Z'

/-- A time with the full year, and digits for a fraction of a second.  The point before these may be
left out, and a sign may stand before the year. -/
def isLongTime (bytes : List UInt8) : Bool :=
  let cs := chars bytes
  let fraction (ds : List Char) : Bool := ds.getLast? == some 'Z' && ds.dropLast.all Char.isDigit
  15 ≤ bytes.length &&
    if cs.contains '.' then
      let cs := match cs with
        | '+' :: rest | '-' :: rest => rest
        | _ => cs
      isDateTime (cs.take 14) && cs[14]? == some '.' && fraction (cs.drop 15)
    else isDateTime (cs.take 14) && fraction (cs.drop 14)

/-- Whether contents without blocks of their own go with the number of a tag. -/
def areFit (number : Nat) (contents : List UInt8) : Bool :=
  if number = 1 then contents.length == 1
  else if number = 3 then contents.headD 0 |>.toNat |> (· ≤ 8 * (contents.length - 1))
  else if number = 12 ∨ number = 20 ∨ number = 28 ∨ number = 30 then
    (Text.Utf8.decode? contents).isSome
  else if number = 19 then contents.all isPrintable
  else if number = 23 then isShortTime contents
  else if number = 24 then isLongTime contents
  else true

/-! ## Rows of blocks -/

/-- The blocks up to the end.  The first argument bounds the number of blocks and levels. -/
def blocksWithin? : Nat → List UInt8 → Option (List Der)
  | _, [] => some []
  | 0, _ => none
  | n + 1, bs => do
    let (kind, number, contents, rest) ← block? bs
    let row (contents : List UInt8) : Option (List Der) :=
      if contents.isEmpty then none else blocksWithin? n contents
    let block ←
      if kind ≠ 0 then some other
      else if number = 16 then (row contents).map sequence
      else if number = 17 then (row contents).map set
      else if number = 6 then (arcs? contents).map objectId
      else if !areFit number contents then none
      else if number = 3 then some (bits (contents.drop 1))
      else if number = 4 then some (octets contents)
      else some other
    return block :: (← blocksWithin? n rest)

/-- **The blocks of a row**, of which there must be some. -/
def blocks? (bytes : List UInt8) : Option (List Der) :=
  if bytes.isEmpty then none else blocksWithin? bytes.length bytes

mutual

/-- The object identifiers of a block, in order; those within sets do not count. -/
def objectIds : Der → List (List Nat)
  | sequence items => objectIdsOf items
  | objectId arcs => [arcs]
  | _ => []

def objectIdsOf : List Der → List (List Nat)
  | [] => []
  | d :: ds => d.objectIds ++ objectIdsOf ds

end

mutual

/-- The bit and octet strings of a block, in order; those within sets do not count. -/
def strings : Der → List (List UInt8)
  | sequence items => stringsOf items
  | bits bytes => [bytes]
  | octets bytes => [bytes]
  | _ => []

def stringsOf : List Der → List (List UInt8)
  | [] => []
  | d :: ds => d.strings ++ stringsOf ds

end

/-! ## Canonical form -/

/-- A length in its shortest form, of at most two bytes behind the count. -/
def shortestLength? : List UInt8 → Option (Nat × List UInt8)
  | [] => none
  | b :: bs =>
    if b.toNat < 128 then some (b.toNat, bs)
    else match b.toNat, bs with
      | 0x81, c :: rest => if c.toNat < 128 then none else some (c.toNat, rest)
      | 0x82, c :: d :: rest =>
        let n := 256 * c.toNat + d.toNat
        if n < 256 then none else some (n, rest)
      | _, _ => none

/-- The contents of a block of a tag at the start of a row, and the bytes behind it. -/
def element? (tag : UInt8) : List UInt8 → Option (List UInt8 × List UInt8)
  | [] => none
  | b :: bs => do
    if b ≠ tag then none
    else do
      let (n, bs) ← shortestLength? bs
      if bs.length < n then none else some (bs.take n, bs.drop n)

end Der

end TenantGuard.Crypto
