/-!
# Classes of characters given as ranges

A class of characters that a standard lists is a list of ranges of code points, each with its first
and its last member, in order and apart from each other.

`inRanges` looks only at the first range that ends at the number or after it.
-/

namespace TenantGuard.Text

/-- Whether the ranges, which are in order, hold a number.  Only the first range that ends at the
number or after it can. -/
def inRanges (rs : List (Nat × Nat)) (n : Nat) : Bool :=
  match rs with
  | [] => false
  | (first, last) :: rest => if n ≤ last then first ≤ n else inRanges rest n

end TenantGuard.Text
