import TenantGuard.Query.Dialect
import TenantGuard.Scope
import TenantGuard.Text.Utf8

/-!
# What an accepted identifier holds

`Scope.validateId` lets letters, digits, `_` and `-` through and nothing else, so an accepted
identifier can stand wherever such characters mean nothing: between quotes, in a path, in a header.

* `isIdText_of_validateId`: an accepted identifier has the form that is asked for;
* `toNat_of_isIdChar`: its characters lie between `-` and `z` of ASCII;
* `plain_of_isIdChar`: none of them is a quote, a backslash or a mark of a comment.
-/

namespace TenantGuard.Scope

theorem isIdText_of_validateId {id : String} (h : validateId id = .ok ()) :
    isIdText id.toList = true := by
  unfold validateId at h
  split at h
  · simp at h
  split at h
  · simp at h
  split at h
  next hid => exact hid
  · simp at h

theorem isIdChar_of_isIdText {cs : List Char} (h : isIdText cs = true) {c : Char} (hc : c ∈ cs) :
    isIdChar c = true := by
  cases cs with
  | nil => simp at hc
  | cons d ds =>
    simp only [isIdText, Bool.and_eq_true, List.all_eq_true] at h
    rcases List.mem_cons.1 hc with rfl | hc
    · simp [isIdChar, h.1]
    · exact h.2 c hc

/-- **Every character of an accepted identifier is a letter, a digit, `_` or `-`.** -/
theorem isIdChar_of_validateId {id : String} (h : validateId id = .ok ()) {c : Char}
    (hc : c ∈ id.toList) : isIdChar c = true :=
  isIdChar_of_isIdText (isIdText_of_validateId h) hc

theorem toNat_of_isIdChar {c : Char} (h : isIdChar c = true) : 45 ≤ c.toNat ∧ c.toNat ≤ 122 := by
  simp only [isIdChar, Bool.or_eq_true, beq_iff_eq] at h
  rcases h with (h | rfl) | rfl
  · have := Text.Utf8.toNat_of_isAlphanum h
    omega
  · decide
  · decide

theorem plain_ascii : ∀ n < 123, isIdChar (Char.ofNat n) = true →
    Dialect.isQuote (Char.ofNat n) = false ∧ Char.ofNat n ≠ '\\' ∧ Char.ofNat n ≠ '#' := by
  decide

theorem plain_of_isIdChar {c : Char} (h : isIdChar c = true) :
    Dialect.isQuote c = false ∧ c ≠ '\\' ∧ c ≠ '#' := by
  have := plain_ascii c.toNat (Nat.lt_succ_of_le (toNat_of_isIdChar h).2)
  rw [Char.ofNat_toNat] at this
  exact this h

end TenantGuard.Scope
