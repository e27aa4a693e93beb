import TenantGuard.Text.Percent

/-!
# Form encoding

Name and value pairs as `application/x-www-form-urlencoded` text: pairs are joined with `&`, a name
and its value with `=`, a space is a `+`, and a byte other than a letter, a digit and `*-._` is a
percent triple.

* `Form.encode` writes pairs;
* `Form.parse` reads any text: empty pieces are skipped, a missing `=` makes an empty value, and
  bytes that are no UTF-8 become `U+FFFD`.
-/

namespace TenantGuard.Form

open Text

/-- A name and a value. -/
abbrev Pair := String × String

/-! ## Reading -/

/-- The pieces of a byte sequence between the marks. -/
def splitBytes (mark : UInt8) : List UInt8 → List (List UInt8)
  | [] => [[]]
  | b :: bs =>
    if b = mark then [] :: splitBytes mark bs
    else match splitBytes mark bs with
      | [] => [[b]]
      | piece :: pieces => (b :: piece) :: pieces

/-- The bytes before the first mark, and those after it. -/
def cutBytes (mark : UInt8) (bs : List UInt8) : List UInt8 × List UInt8 :=
  (bs.takeWhile (· != mark), (bs.dropWhile (· != mark)).drop 1)

/-- A name or a value from its bytes. -/
def decodeBytes (bs : List UInt8) : String :=
  Utf8.lossy (Percent.decode (bs.map fun b => if b = 43 then 32 else b))

/-- **Reads pairs** from bytes. -/
def parseBytes (bs : List UInt8) : List Pair :=
  ((splitBytes 38 bs).filter (!·.isEmpty)).map fun piece =>
    let (name, value) := cutBytes 61 piece
    (decodeBytes name, decodeBytes value)

/-- Reads pairs from a text. -/
def parse (s : String) : List Pair := parseBytes (Utf8.bytes s)

/-! ## Writing -/

/-- The bytes that stand for themselves. -/
def isPlain (b : UInt8) : Bool :=
  let n := b.toNat
  (48 ≤ n && n ≤ 57) || (65 ≤ n && n ≤ 90) || (97 ≤ n && n ≤ 122) ||
    n == 42 || n == 45 || n == 46 || n == 95

def encodeByte (b : UInt8) : List Char :=
  if b = 32 then ['+'] else if isPlain b then [Char.ofNat b.toNat] else Percent.triple b

/-- A name or a value in its written form. -/
def encodeText (s : String) : List Char := (Utf8.bytes s).flatMap encodeByte

def encodePair (p : Pair) : List Char := encodeText p.1 ++ '=' :: encodeText p.2

/-- The characters of the pairs, with `&` between each two. -/
def encodeChars : List Pair → List Char
  | [] => []
  | [p] => encodePair p
  | p :: q :: ps => encodePair p ++ '&' :: encodeChars (q :: ps)

/-- **Writes pairs.** -/
def encode (ps : List Pair) : String := String.ofList (encodeChars ps)

end TenantGuard.Form
