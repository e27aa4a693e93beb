import TenantGuard.Text.Base64

/-!
# Base64 is read as it was written

* `value?_digit`: a digit stands for the number that it was written for;
* `decode?_encode`: bytes that were written are read back;
* `dot_not_mem_encode`: what is written for a URL holds no point.
-/

namespace TenantGuard.Text.Base64

/-- **A digit stands for its number.** -/
theorem value?_digit : ∀ n < 64, urlSafe.value? (urlSafe.digit n) = some n := by decide

theorem digit_ne_dot : ∀ n < 64, urlSafe.digit n ≠ '.' := by decide

/-- **Bytes that were written are read back.** -/
theorem decode?_encode : ∀ bs : List UInt8, decode? urlSafe (encode urlSafe bs) = some bs
  | [] => rfl
  | [x] => by
    have hx := x.toNat_lt
    have hpart : x.toNat / 4 * 4 + x.toNat % 4 * 16 / 16 = x.toNat := by omega
    have hrest : x.toNat % 4 * 16 % 16 = 0 := by omega
    simp only [encode, decode?, value?_digit (x.toNat / 4) (by omega),
      value?_digit (x.toNat % 4 * 16) (by omega), Option.bind_eq_bind, Option.bind_some]
    rw [if_pos hrest, hpart, UInt8.ofNat_toNat]
  | [x, y] => by
    have hx := x.toNat_lt
    have hy := y.toNat_lt
    have hfirst : x.toNat / 4 * 4 + (x.toNat % 4 * 16 + y.toNat / 16) / 16 = x.toNat := by omega
    have hsecond : (x.toNat % 4 * 16 + y.toNat / 16) % 16 * 16 + y.toNat % 16 * 4 / 4 =
      y.toNat := by omega
    have hrest : y.toNat % 16 * 4 % 4 = 0 := by omega
    simp only [encode, decode?, value?_digit (x.toNat / 4) (by omega),
      value?_digit (x.toNat % 4 * 16 + y.toNat / 16) (by omega),
      value?_digit (y.toNat % 16 * 4) (by omega), Option.bind_eq_bind, Option.bind_some]
    rw [if_pos hrest, hfirst, hsecond, UInt8.ofNat_toNat, UInt8.ofNat_toNat]
  | x :: y :: z :: rest => by
    have hx := x.toNat_lt
    have hy := y.toNat_lt
    have hz := z.toNat_lt
    have hfirst : x.toNat / 4 * 4 + (x.toNat % 4 * 16 + y.toNat / 16) / 16 = x.toNat := by omega
    have hsecond : (x.toNat % 4 * 16 + y.toNat / 16) % 16 * 16 +
      (y.toNat % 16 * 4 + z.toNat / 64) / 4 = y.toNat := by omega
    have hthird : (y.toNat % 16 * 4 + z.toNat / 64) % 4 * 64 + z.toNat % 64 = z.toNat := by omega
    simp only [encode, decode?, value?_digit (x.toNat / 4) (by omega),
      value?_digit (x.toNat % 4 * 16 + y.toNat / 16) (by omega),
      value?_digit (y.toNat % 16 * 4 + z.toNat / 64) (by omega),
      value?_digit (z.toNat % 64) (by omega), decode?_encode rest, Option.bind_eq_bind,
      Option.bind_some]
    rw [hfirst, hsecond, hthird, UInt8.ofNat_toNat, UInt8.ofNat_toNat, UInt8.ofNat_toNat]
    rfl

/-- **What is written for a URL holds no point.** -/
theorem dot_not_mem_encode : ∀ bs : List UInt8, '.' ∉ encode urlSafe bs
  | [] => by simp [encode]
  | [x] => by
    have hx := x.toNat_lt
    simp [encode, (digit_ne_dot (x.toNat / 4) (by omega)).symm,
      (digit_ne_dot (x.toNat % 4 * 16) (by omega)).symm]
  | [x, y] => by
    have hx := x.toNat_lt
    have hy := y.toNat_lt
    simp [encode, (digit_ne_dot (x.toNat / 4) (by omega)).symm,
      (digit_ne_dot (x.toNat % 4 * 16 + y.toNat / 16) (by omega)).symm,
      (digit_ne_dot (y.toNat % 16 * 4) (by omega)).symm]
  | x :: y :: z :: rest => by
    have hx := x.toNat_lt
    have hy := y.toNat_lt
    have hz := z.toNat_lt
    simp [encode, (digit_ne_dot (x.toNat / 4) (by omega)).symm,
      (digit_ne_dot (x.toNat % 4 * 16 + y.toNat / 16) (by omega)).symm,
      (digit_ne_dot (y.toNat % 16 * 4 + z.toNat / 64) (by omega)).symm,
      (digit_ne_dot (z.toNat % 64) (by omega)).symm, dot_not_mem_encode rest]

end TenantGuard.Text.Base64
