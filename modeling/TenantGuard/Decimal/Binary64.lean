/-!
# Finite binary64 numbers

A finite double is a sign, a mantissa below `2 ^ 53` and a binary exponent, held as exact integers.
Reading rounds a quotient of natural numbers to the nearest double (a tie goes to the even
mantissa); writing finds the fewest decimal digits that read back as the same double.

* `ofRatio?` rounds `num / den`; `none` says that the result would be infinite;
* `mul?` and `div` are the rounded product and quotient, `toNatFloor` and `roundHalfAway` the
  integers near a double;
* `Digits` is a decimal significand with the place of its point, `shortest` picks it, and the two
  layouts `Digits.positional` and `Digits.pretty` write it out.
-/

namespace TenantGuard.Decimal

/-- **A finite double**: `± mantissa · 2 ^ exponent`, with `mantissa < 2 ^ 53` and
`-1074 ≤ exponent ≤ 971`, and `2 ^ 52 ≤ mantissa` unless the exponent is the least. -/
structure Binary64 where
  /-- Whether the sign is a minus; zero has a sign too. -/
  negative : Bool
  mantissa : Nat
  exponent : Int
  deriving DecidableEq, Repr, Inhabited

/-! ## Rounding quotients -/

/-- `num / den` rounded to the nearest natural number, a tie to the even one. -/
def roundHalfEven (num den : Nat) : Nat :=
  let q := num / den
  let r := num % den
  if 2 * r < den then q else if den < 2 * r then q + 1 else if q % 2 == 0 then q else q + 1

namespace Binary64

def zero : Binary64 := ⟨false, 0, -1074⟩

/-- The least exponent with which the mantissa of `num / den` stays below `2 ^ 53`, but for the
carry of the final rounding. -/
def exponentFor (num den : Nat) : Int :=
  let e : Int := (num.log2 : Int) - (den.log2 : Int) - 53
  let scaled :=
    if 0 ≤ e then num / (den * Nat.pow 2 e.toNat) else num * Nat.pow 2 (-e).toNat / den
  max (-1074) (if Nat.pow 2 53 ≤ scaled then e + 1 else e)

/-- **The double nearest to `num / den`**, a tie to the even mantissa; `none` when it is too
large. -/
def ofRatio? (negative : Bool) (num den : Nat) : Option Binary64 :=
  if num = 0 then some ⟨negative, 0, -1074⟩ else
  let e := exponentFor num den
  let m := if 0 ≤ e then roundHalfEven num (den * Nat.pow 2 e.toNat)
    else roundHalfEven (num * Nat.pow 2 (-e).toNat) den
  let (m, e) := if m = Nat.pow 2 53 then (Nat.pow 2 52, e + 1) else (m, e)
  if 971 < e then none else some ⟨negative, m, e⟩

/-- The numerator of the absolute value over `denominator`. -/
def numerator (x : Binary64) : Nat :=
  if 0 ≤ x.exponent then x.mantissa * Nat.pow 2 x.exponent.toNat else x.mantissa

def denominator (x : Binary64) : Nat :=
  if 0 ≤ x.exponent then 1 else Nat.pow 2 (-x.exponent).toNat

/-- The rounded product; `none` when it is too large. -/
def mul? (x y : Binary64) : Option Binary64 :=
  ofRatio? (x.negative != y.negative) (x.numerator * y.numerator) (x.denominator * y.denominator)

/-- The rounded quotient by a number that is not zero and at least one, which is never too
large. -/
def div (x y : Binary64) : Binary64 :=
  (ofRatio? (x.negative != y.negative) (x.numerator * y.denominator)
    (x.denominator * y.numerator)).getD zero

def neg (x : Binary64) : Binary64 := { x with negative := !x.negative }

def isZero (x : Binary64) : Bool := x.mantissa == 0

/-- The nearest integer to the absolute value, a half going away from zero. -/
def roundHalfAway (x : Binary64) : Nat :=
  (2 * x.numerator + x.denominator) / (2 * x.denominator)

/-! ## Reading decimals -/

/-- The double nearest to `10 ^ k`, for `k ≤ 308`. -/
def powerOfTen (k : Nat) : Binary64 := (ofRatio? false (Nat.pow 10 k) 1).getD zero

/-- Divides by `10 ^ k` in steps of at most `10 ^ 308`, rounding at each step. -/
def scaleDown (x : Binary64) (k : Nat) : Binary64 :=
  if k ≤ 308 then x.div (powerOfTen k)
  else if x.isZero then x
  else scaleDown (x.div (powerOfTen 308)) (k - 308)
termination_by k

/-- **A decimal in two roundings**: the significand is rounded to a double first, and that double
is scaled by the power of ten.  `none` when the result is too large. -/
def ofScientific? (significand : Nat) (exponent : Int) : Option Binary64 := do
  let x ← ofRatio? false significand 1
  if exponent < 0 then
    return scaleDown x (-exponent).toNat
  else if x.isZero then
    return x
  else if exponent ≤ 308 then
    x.mul? (powerOfTen exponent.toNat)
  else
    none

end Binary64

/-! ## The shortest decimal -/

/-- **A decimal significand with the place of its point**: `0.d₁d₂… · 10 ^ point`. -/
structure Digits where
  digits : List Char
  point : Int
  deriving DecidableEq, Repr, Inhabited

namespace Binary64

/-- Whether the decimal `n · 10 ^ k` rounds to the double `x`, which is not zero. -/
def readsBack (x : Binary64) (n : Nat) (k : Int) : Bool :=
  let y :=
    if 0 ≤ k then ofRatio? false (n * Nat.pow 10 k.toNat) 1
    else ofRatio? false n (Nat.pow 10 (-k).toNat)
  y == some { x with negative := false }

/-- The decimal exponent of the leading digit: `10 ^ (k - 1) ≤ num / den < 10 ^ k`. -/
def decimalPoint (num den : Nat) : Int :=
  let guess : Int := ((num.log2 : Int) - (den.log2 : Int)) * 30103 / 100000 - 1
  let reaches (k : Int) : Bool :=
    if 0 ≤ k then den * Nat.pow 10 k.toNat ≤ num else den ≤ num * Nat.pow 10 (-k).toNat
  if reaches (guess + 2) then guess + 3
  else if reaches (guess + 1) then guess + 2
  else if reaches guess then guess + 1
  else guess

/-- The two neighbours of `num / den` on the grid of step `10 ^ k`, the nearer first; of two at
the same distance the even one. -/
def neighbours (num den : Nat) (k : Int) : Nat × Nat :=
  let (num, den) :=
    if 0 ≤ k then (num, den * Nat.pow 10 k.toNat) else (num * Nat.pow 10 (-k).toNat, den)
  let q := num / den
  let near := roundHalfEven num den
  (near, if near = q then q + 1 else q)

/-- The shortest decimal, starting the search with `n` digits and going up for `left` more. -/
def shortestFrom (x : Binary64) (point : Int) : Nat → Nat → Nat × Int
  | 0, n => ((neighbours x.numerator x.denominator (point - n)).1, point - n)
  | left + 1, n =>
    let k := point - n
    let (near, other) := neighbours x.numerator x.denominator k
    if x.readsBack near k then (near, k)
    else if x.readsBack other k then (other, k)
    else shortestFrom x point left (n + 1)

/-- **The fewest digits that read back as `x`**, the nearest such digits to `x`.  Seventeen always
suffice. -/
def shortest (x : Binary64) : Digits :=
  if x.isZero then ⟨['0'], 1⟩ else
  let point := decimalPoint x.numerator x.denominator
  let (n, k) := shortestFrom x point 16 1
  let ds := Nat.toDigits 10 n
  let trimmed := (ds.reverse.dropWhile (· == '0')).reverse
  ⟨trimmed, k + ds.length⟩

end Binary64

namespace Digits

/-- The digits with the point in its place and no exponent; `fraction` is what stands for an
absent fractional part. -/
def placed (d : Digits) (fraction : String) : String :=
  let ds := d.digits
  if d.point ≤ 0 then
    "0." ++ String.ofList (List.replicate (-d.point).toNat '0') ++ String.ofList ds
  else
    let p := d.point.toNat
    if ds.length ≤ p then
      String.ofList ds ++ String.ofList (List.replicate (p - ds.length) '0') ++ fraction
    else
      String.ofList (ds.take p) ++ "." ++ String.ofList (ds.drop p)

/-- **Positional layout**: never an exponent, and no point after a whole number. -/
def positional (d : Digits) : String := d.placed ""

/-- **Pretty layout**: positional with at least one fractional digit while the point stands
between `10 ^ -5` and `10 ^ 16`, and scientific otherwise. -/
def pretty (d : Digits) : String :=
  if -5 < d.point ∧ d.point ≤ 16 then d.placed ".0"
  else
    let exponent := toString (d.point - 1)
    match d.digits with
    | [c] => String.singleton c ++ "e" ++ exponent
    | c :: cs => String.singleton c ++ "." ++ String.ofList cs ++ "e" ++ exponent
    | [] => "0.0"

end Digits

namespace Binary64

def signText (x : Binary64) : String := if x.negative then "-" else ""

/-- The number in the pretty layout. -/
def toPretty (x : Binary64) : String := x.signText ++ x.shortest.pretty

/-- The number in the positional layout. -/
def toPositional (x : Binary64) : String := x.signText ++ x.shortest.positional

end Binary64

end TenantGuard.Decimal
