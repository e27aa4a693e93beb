/-!
# UTF-8

Bytes are written and read as the encoding form UTF-8.

* `encode` writes characters;
* `next` reads one character, or the longest start of a sequence that no character has;
* `decodeLossy` puts `U+FFFD` for each such start, `decode?` refuses it.
-/

namespace TenantGuard.Text.Utf8

/-- The bytes of a text. -/
def encode (cs : List Char) : List UInt8 := cs.flatMap String.utf8EncodeChar

def bytes (s : String) : List UInt8 := encode s.toList

/-- Letters and digits lie between `0` and `z` of ASCII. -/
theorem toNat_of_isAlphanum {c : Char} (h : c.isAlphanum = true) :
    48 ≤ c.toNat ∧ c.toNat ≤ 122 := by
  change ((decide ('A'.val ≤ c.val ∧ c.val ≤ 'Z'.val) ||
    (decide ('a'.val ≤ c.val) && decide (c.val ≤ 'z'.val))) ||
      (decide ('0'.val ≤ c.val) && decide (c.val ≤ '9'.val))) = true at h
  simp only [Bool.or_eq_true, Bool.and_eq_true, decide_eq_true_eq, UInt32.le_iff_toNat_le] at h
  change ((65 ≤ c.toNat ∧ c.toNat ≤ 90) ∨ (97 ≤ c.toNat ∧ c.toNat ≤ 122)) ∨
    (48 ≤ c.toNat ∧ c.toNat ≤ 57) at h
  omega

/-- A byte that goes on with a sequence, within bounds; its six low bits. -/
def continuation? (low high : Nat) : List UInt8 → Option (Nat × List UInt8)
  | [] => none
  | b :: bs => if low ≤ b.toNat ∧ b.toNat ≤ high then some (b.toNat % 64, bs) else none

/-- The bounds of the second byte, given the first: they keep out overlong forms, surrogate halves
and what lies beyond the last code point. -/
def secondBounds (first : Nat) : Nat × Nat :=
  if first = 0xE0 then (0xA0, 0xBF)
  else if first = 0xED then (0x80, 0x9F)
  else if first = 0xF0 then (0x90, 0xBF)
  else if first = 0xF4 then (0x80, 0x8F)
  else (0x80, 0xBF)

/-- **Reads one character.**  `none`: the bytes up to the rest begin no character. -/
def next (b : UInt8) (bs : List UInt8) : Option Char × List UInt8 :=
  let n := b.toNat
  let (low, high) := secondBounds n
  if n < 0x80 then (some (Char.ofNat n), bs)
  else if n < 0xC2 ∨ 0xF4 < n then (none, bs)
  else match continuation? low high bs with
    | none => (none, bs)
    | some (x, bs) =>
      if n < 0xE0 then (some (Char.ofNat (n % 32 * 64 + x)), bs)
      else match continuation? 0x80 0xBF bs with
        | none => (none, bs)
        | some (y, bs) =>
          if n < 0xF0 then (some (Char.ofNat (n % 16 * 4096 + x * 64 + y)), bs)
          else match continuation? 0x80 0xBF bs with
            | none => (none, bs)
            | some (z, bs) => (some (Char.ofNat (n % 8 * 262144 + x * 4096 + y * 64 + z)), bs)

theorem length_continuation? {low high x : Nat} {bs rest : List UInt8}
    (h : continuation? low high bs = some (x, rest)) : rest.length < bs.length := by
  cases bs with
  | nil => simp [continuation?] at h
  | cons b bs =>
    simp only [continuation?] at h
    split at h
    · simp_all
    · simp at h

/-- The rest is never longer than what followed the first byte. -/
theorem length_next (b : UInt8) (bs : List UInt8) : (next b bs).2.length ≤ bs.length := by
  unfold next
  dsimp only
  split
  · exact Nat.le_refl _
  split
  · exact Nat.le_refl _
  split
  · exact Nat.le_refl _
  next h =>
  have h1 := length_continuation? h
  split
  · exact Nat.le_of_lt h1
  split
  · exact Nat.le_of_lt h1
  next h' =>
  have h2 := length_continuation? h'
  split
  · exact Nat.le_of_lt (Nat.lt_trans h2 h1)
  split
  · exact Nat.le_of_lt (Nat.lt_trans h2 h1)
  next h'' =>
  have h3 := length_continuation? h''
  exact Nat.le_of_lt (Nat.lt_trans h3 (Nat.lt_trans h2 h1))

/-- The steps of reading bytes: each character, or `none` for bytes that begin no character, put in
front of `done`, the last one first. -/
def stepsOnto (done : List (Option Char)) : List UInt8 → List (Option Char)
  | [] => done
  | b :: bs => stepsOnto ((next b bs).1 :: done) (next b bs).2
termination_by bs => bs.length
decreasing_by
  have := length_next b bs
  simp only [List.length_cons]
  omega

/-- The steps of reading bytes, in order. -/
def steps (bs : List UInt8) : List (Option Char) := (stepsOnto [] bs).reverse

theorem stepsOnto_eq (done : List (Option Char)) (bs : List UInt8) :
    stepsOnto done bs = stepsOnto [] bs ++ done := by
  induction h : bs.length using Nat.strongRecOn generalizing done bs with
  | ind n ih =>
    cases bs with
    | nil => simp [stepsOnto]
    | cons b bs =>
      have hlt : (next b bs).2.length < n := by
        have := length_next b bs
        simp only [List.length_cons] at h
        omega
      rw [stepsOnto, stepsOnto, ih _ hlt _ _ rfl, ih _ hlt [(next b bs).1] _ rfl]
      simp

@[simp] theorem steps_nil : steps [] = [] := by simp [steps, stepsOnto]

theorem steps_cons (b : UInt8) (bs : List UInt8) :
    steps (b :: bs) = (next b bs).1 :: steps (next b bs).2 := by
  rw [steps, stepsOnto, stepsOnto_eq]
  simp [steps]

/-- **Decoding that never fails**: `U+FFFD` stands for bytes that begin no character. -/
def decodeLossy (bs : List UInt8) : List Char := (steps bs).map (·.getD '\uFFFD')

/-- `decodeLossy` as a string. -/
def lossy (bs : List UInt8) : String := String.ofList (decodeLossy bs)

/-- Decoding that fails on bytes that begin no character. -/
def decode? (bs : List UInt8) : Option (List Char) :=
  let cs := steps bs
  if cs.all Option.isSome then some (cs.filterMap id) else none

end TenantGuard.Text.Utf8
