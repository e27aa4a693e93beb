import TenantGuard.Text.Utf8
import Mathlib.Data.List.Basic

/-!
# UTF-8 reads back

What UTF-8 writes, it reads: the reader takes the bytes of a character for that character, whatever
follows them, and goes on behind them.

* `next_one` to `next_four`: the first byte announces how many there are, and the bounds of the
  second one let every character pass;
* `steps_utf8EncodeChar_append` puts them together for one character, `steps_encode` for a text;
* `decode?_encode` and `lossy_bytes`: a text is read back from its bytes.
-/

namespace TenantGuard.Text.Utf8

variable {x y z w n low high : Nat} {bs : List UInt8}

/-! ## Bytes of ASCII -/

theorem toNat_ofNat_byte : ∀ n < 256, (Char.ofNat n).toNat = n := by
  decide +kernel

theorem utf8EncodeChar_ofNat : ∀ n < 128,
    String.utf8EncodeChar (Char.ofNat n) = [UInt8.ofNat n] := by
  decide

theorem utf8EncodeChar_ascii {c : Char} (h : c.toNat < 128) :
    String.utf8EncodeChar c = [UInt8.ofNat c.toNat] := by
  have hbyte := utf8EncodeChar_ofNat c.toNat h
  rwa [Char.ofNat_toNat] at hbyte

/-- Any other character has no byte of ASCII. -/
theorem le_of_mem_utf8EncodeChar {c : Char} (h : 128 ≤ c.toNat) :
    ∀ b ∈ String.utf8EncodeChar c, 128 ≤ b.toNat := by
  have hlt : c.val.toNat < 0x110000 := by
    have hvalid : c.val.toNat < 0xD800 ∨ (0xDFFF < c.val.toNat ∧ c.val.toNat < 0x110000) := c.valid
    omega
  have h' : 128 ≤ c.val.toNat := h
  intro b hb
  simp only [String.utf8EncodeChar] at hb
  split_ifs at hb with h1 h2 h3
  · omega
  · simp only [List.mem_cons, List.not_mem_nil, or_false] at hb
    rcases hb with rfl | rfl <;> rw [UInt8.toNat_ofNat'] <;> omega
  · simp only [List.mem_cons, List.not_mem_nil, or_false] at hb
    rcases hb with rfl | rfl | rfl <;> rw [UInt8.toNat_ofNat'] <;> omega
  · simp only [List.mem_cons, List.not_mem_nil, or_false] at hb
    rcases hb with rfl | rfl | rfl | rfl <;> rw [UInt8.toNat_ofNat'] <;> omega

/-! ## One character -/

/-- A byte that goes on carries six bits. -/
theorem continuation?_ofNat (hx : x < 64) (hlow : low ≤ x + 128) (hhigh : x + 128 ≤ high) :
    continuation? low high (UInt8.ofNat (x + 128) :: bs) = some (x, bs) := by
  have hbyte : (UInt8.ofNat (x + 128)).toNat = x + 128 :=
    UInt8.toNat_ofNat_of_lt' (show x + 128 < 256 by omega)
  have hbits : (x + 128) % 64 = x := by omega
  rw [continuation?, hbyte, if_pos ⟨hlow, hhigh⟩, hbits]

theorem next_one (h : n < 128) : next (UInt8.ofNat n) bs = (some (Char.ofNat n), bs) := by
  have hbyte : (UInt8.ofNat n).toNat = n := UInt8.toNat_ofNat_of_lt' (show n < 256 by omega)
  simp only [next, hbyte, if_pos h]

theorem next_two (hx : x < 32) (hy : y < 64) (hlong : 0x80 ≤ x * 64 + y) :
    next (UInt8.ofNat (x + 192)) (UInt8.ofNat (y + 128) :: bs) =
      (some (Char.ofNat (x * 64 + y)), bs) := by
  have hbyte : (UInt8.ofNat (x + 192)).toNat = x + 192 :=
    UInt8.toNat_ofNat_of_lt' (show x + 192 < 256 by omega)
  have hbounds : secondBounds (x + 192) = (0x80, 0xBF) := by
    unfold secondBounds
    rw [if_neg (by omega), if_neg (by omega), if_neg (by omega), if_neg (by omega)]
  have hbits : (x + 192) % 32 = x := by omega
  simp only [next, hbyte, hbounds, continuation?_ofNat hy (show 0x80 ≤ y + 128 by omega)
    (show y + 128 ≤ 0xBF by omega), hbits]
  rw [if_neg (by omega), if_neg (by omega), if_pos (by omega)]

/-- Three bytes: neither an overlong form nor half of a surrogate pair. -/
theorem next_three (hx : x < 16) (hy : y < 64) (hz : z < 64)
    (hlong : 0x800 ≤ x * 4096 + y * 64 + z)
    (hscalar : x * 4096 + y * 64 + z < 0xD800 ∨ 0xDFFF < x * 4096 + y * 64 + z) :
    next (UInt8.ofNat (x + 224)) (UInt8.ofNat (y + 128) :: UInt8.ofNat (z + 128) :: bs) =
      (some (Char.ofNat (x * 4096 + y * 64 + z)), bs) := by
  have hbyte : (UInt8.ofNat (x + 224)).toNat = x + 224 :=
    UInt8.toNat_ofNat_of_lt' (show x + 224 < 256 by omega)
  have hbounds : (secondBounds (x + 224)).1 ≤ y + 128 ∧ y + 128 ≤ (secondBounds (x + 224)).2 := by
    unfold secondBounds
    split_ifs <;> dsimp only <;> omega
  have hbits : (x + 224) % 16 = x := by omega
  simp only [next, hbyte, continuation?_ofNat hy hbounds.1 hbounds.2,
    continuation?_ofNat hz (show 0x80 ≤ z + 128 by omega) (show z + 128 ≤ 0xBF by omega), hbits]
  rw [if_neg (by omega), if_neg (by omega), if_neg (by omega), if_pos (by omega)]

/-- Four bytes: neither an overlong form nor beyond the last code point. -/
theorem next_four (hx : x < 8) (hy : y < 64) (hz : z < 64) (hw : w < 64)
    (hlong : 0x10000 ≤ x * 262144 + y * 4096 + z * 64 + w)
    (hlast : x * 262144 + y * 4096 + z * 64 + w < 0x110000) :
    next (UInt8.ofNat (x + 240))
        (UInt8.ofNat (y + 128) :: UInt8.ofNat (z + 128) :: UInt8.ofNat (w + 128) :: bs) =
      (some (Char.ofNat (x * 262144 + y * 4096 + z * 64 + w)), bs) := by
  have hbyte : (UInt8.ofNat (x + 240)).toNat = x + 240 :=
    UInt8.toNat_ofNat_of_lt' (show x + 240 < 256 by omega)
  have hbounds : (secondBounds (x + 240)).1 ≤ y + 128 ∧ y + 128 ≤ (secondBounds (x + 240)).2 := by
    unfold secondBounds
    split_ifs <;> dsimp only <;> omega
  have hbits : (x + 240) % 8 = x := by omega
  simp only [next, hbyte, continuation?_ofNat hy hbounds.1 hbounds.2,
    continuation?_ofNat hz (show 0x80 ≤ z + 128 by omega) (show z + 128 ≤ 0xBF by omega),
    continuation?_ofNat hw (show 0x80 ≤ w + 128 by omega) (show w + 128 ≤ 0xBF by omega), hbits]
  rw [if_neg (by omega), if_neg (by omega), if_neg (by omega), if_neg (by omega)]

/-- **A character is read from its bytes**, whatever follows them. -/
theorem steps_utf8EncodeChar_append (c : Char) (bs : List UInt8) :
    steps (String.utf8EncodeChar c ++ bs) = some c :: steps bs := by
  have hscalar : c.val.toNat < 0xD800 ∨ (0xDFFF < c.val.toNat ∧ c.val.toNat < 0x110000) := c.valid
  have hread : ∀ n, n = c.val.toNat → Char.ofNat n = c := fun n hn => hn ▸ Char.ofNat_toNat c
  simp only [String.utf8EncodeChar]
  split_ifs with h1 h2 h3
  · rw [List.singleton_append, steps_cons, next_one (by omega), hread _ rfl]
  · rw [List.cons_append, List.singleton_append, steps_cons,
      next_two (by omega) (by omega) (by omega), hread _ (by omega)]
  · rw [List.cons_append, List.cons_append, List.singleton_append, steps_cons,
      next_three (by omega) (by omega) (by omega) (by omega) (by omega), hread _ (by omega)]
  · rw [List.cons_append, List.cons_append, List.cons_append, List.singleton_append, steps_cons,
      next_four (by omega) (by omega) (by omega) (by omega) (by omega) (by omega),
      hread _ (by omega)]

/-! ## Texts -/

@[simp] theorem encode_nil : encode [] = [] := rfl

@[simp] theorem encode_cons (c : Char) (cs : List Char) :
    encode (c :: cs) = String.utf8EncodeChar c ++ encode cs := rfl

@[simp] theorem encode_append (cs ds : List Char) : encode (cs ++ ds) = encode cs ++ encode ds :=
  List.flatMap_append

theorem steps_encode : ∀ cs : List Char, steps (encode cs) = cs.map some
  | [] => steps_nil
  | c :: cs => by rw [encode_cons, steps_utf8EncodeChar_append, steps_encode cs, List.map_cons]

theorem decode?_encode (cs : List Char) : decode? (encode cs) = some cs := by
  rw [decode?, steps_encode]
  simp

/-- **A text is read back from its bytes.** -/
theorem lossy_bytes (s : String) : lossy (bytes s) = s := by
  have hread : decodeLossy (encode s.toList) = s.toList := by
    rw [decodeLossy, steps_encode, List.map_map]
    exact List.map_id _
  rw [lossy, bytes, hread, String.ofList_toList]

end TenantGuard.Text.Utf8
