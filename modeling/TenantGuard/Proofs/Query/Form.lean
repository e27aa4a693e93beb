import TenantGuard.Query.Form
import TenantGuard.Proofs.Text.Utf8

/-!
# Forms read back

Pairs that are written as form-encoded text are read back as they were, whatever their names and
values hold.

* `decode_encodeByte`: a byte is read back from its written form, which is the byte itself, a `+` or
  a percent triple;
* `decodeBytes_written`: so is a name or a value;
* `not_mem_written`: no written form holds a mark that divides pairs or a name from its value, hence
  `splitBytes_encodeChars` and `cutBytes_append`;
* `parse_encode`: reading undoes writing.
-/

namespace TenantGuard

open Text

/-! ## Percent triples -/

namespace Text.Percent

theorem decode_cons {b : UInt8} (h : b ≠ 37) (bs : List UInt8) :
    decode (b :: bs) = b :: decode bs := by
  match bs with
  | [] => rfl
  | [c] => rfl
  | c :: d :: rest => rw [decode, if_neg h]

/-- A hexadecimal digit, as a byte. -/
def digitByte (n : Nat) : UInt8 := UInt8.ofNat (upperDigit n).toNat

theorem toNat_upperDigit : ∀ {n : Nat}, n < 16 → (upperDigit n).toNat < 128 := by
  decide

theorem hexValue?_digitByte : ∀ {n : Nat}, n < 16 → hexValue? (digitByte n) = some n := by
  decide

theorem digitByte_ne : ∀ {n : Nat}, n < 16 →
    digitByte n ≠ 38 ∧ digitByte n ≠ 43 ∧ digitByte n ≠ 61 := by
  decide

/-- **A triple is read back** as the byte that it stands for. -/
theorem decode_triple (b : UInt8) (bs : List UInt8) :
    decode (37 :: digitByte (b.toNat / 16) :: digitByte (b.toNat % 16) :: bs) =
      b :: decode bs := by
  have hb : b.toNat < 256 := b.toNat_lt
  have hhigh := hexValue?_digitByte (show b.toNat / 16 < 16 by omega)
  have hlow := hexValue?_digitByte (show b.toNat % 16 < 16 by omega)
  have hbyte : UInt8.ofNat (16 * (b.toNat / 16) + b.toNat % 16) = b := by
    rw [Nat.div_add_mod, UInt8.ofNat_toNat]
  rw [decode, if_pos rfl, hhigh, hlow]
  exact congrArg (· :: decode bs) hbyte

end Text.Percent

namespace Form

/-! ## Written forms -/

/-- A byte that stands for itself is a letter, a digit or one of four marks. -/
theorem isPlain_bounds {b : UInt8} (h : isPlain b = true) :
    b.toNat < 128 ∧ b.toNat ≠ 37 ∧ b.toNat ≠ 38 ∧ b.toNat ≠ 43 ∧ b.toNat ≠ 61 := by
  simp only [isPlain, Bool.or_eq_true, Bool.and_eq_true, decide_eq_true_eq, beq_iff_eq] at h
  omega

/-- **The bytes of the written form of a byte.** -/
theorem encode_encodeByte (b : UInt8) : Utf8.encode (encodeByte b) =
    if b = 32 then [43] else if isPlain b then [b]
    else [37, Percent.digitByte (b.toNat / 16), Percent.digitByte (b.toNat % 16)] := by
  have hb : b.toNat < 256 := b.toNat_lt
  unfold encodeByte
  split_ifs with hspace hplain
  · rfl
  · rw [Utf8.encode_cons, Utf8.utf8EncodeChar_ofNat _ (isPlain_bounds hplain).1,
      UInt8.ofNat_toNat]
    rfl
  · rw [Percent.triple, Utf8.encode_cons, Utf8.encode_cons, Utf8.encode_cons,
      Utf8.utf8EncodeChar_ascii (c := '%') (by decide),
      Utf8.utf8EncodeChar_ascii (Percent.toNat_upperDigit (by omega)),
      Utf8.utf8EncodeChar_ascii (Percent.toNat_upperDigit (by omega))]
    rfl

/-- The bytes of the written form of a name or a value. -/
def written (s : String) : List UInt8 := Utf8.encode (encodeText s)

/-- A `+` is read as a space. -/
def plusAsSpace (b : UInt8) : UInt8 := if b = 43 then 32 else b

theorem decodeBytes_eq (bs : List UInt8) :
    decodeBytes bs = Utf8.lossy (Percent.decode (bs.map plusAsSpace)) := rfl

/-- **A byte is read back** from its written form. -/
theorem decode_encodeByte (b : UInt8) (bs : List UInt8) :
    Percent.decode ((Utf8.encode (encodeByte b)).map plusAsSpace ++ bs) =
      b :: Percent.decode bs := by
  have hb : b.toNat < 256 := b.toNat_lt
  rw [encode_encodeByte]
  split_ifs with hspace hplain
  · rw [hspace]
    exact Percent.decode_cons (by decide) bs
  · obtain ⟨-, htriple, -, hplus, -⟩ := isPlain_bounds hplain
    have hne : b ≠ 43 := fun h => hplus (by rw [h]; rfl)
    rw [List.map_singleton, plusAsSpace, if_neg hne]
    exact Percent.decode_cons (fun h => htriple (by rw [h]; rfl)) bs
  · have hhigh := (Percent.digitByte_ne (show b.toNat / 16 < 16 by omega)).2.1
    have hlow := (Percent.digitByte_ne (show b.toNat % 16 < 16 by omega)).2.1
    simp only [List.map_cons, List.map_nil, plusAsSpace, if_neg hhigh, if_neg hlow,
      if_neg (show (37 : UInt8) ≠ 43 by decide)]
    exact Percent.decode_triple b bs

theorem decode_encodeBytes : ∀ bs : List UInt8,
    Percent.decode ((Utf8.encode (bs.flatMap encodeByte)).map plusAsSpace) = bs
  | [] => rfl
  | b :: bs => by
    rw [List.flatMap_cons, Utf8.encode_append, List.map_append, decode_encodeByte,
      decode_encodeBytes bs]

/-- **A name or a value is read back** from its written form. -/
theorem decodeBytes_written (s : String) : decodeBytes (written s) = s := by
  rw [decodeBytes_eq, written, encodeText, decode_encodeBytes, Utf8.lossy_bytes]

/-! ## Marks -/

/-- **No written form holds a mark.** -/
theorem not_mem_written (s : String) : 38 ∉ written s ∧ 61 ∉ written s := by
  have hbyte : ∀ b : UInt8, 38 ∉ Utf8.encode (encodeByte b) ∧ 61 ∉ Utf8.encode (encodeByte b) := by
    intro b
    have hb : b.toNat < 256 := b.toNat_lt
    rw [encode_encodeByte]
    split_ifs with hspace hplain
    · decide
    · obtain ⟨-, -, hpair, -, hvalue⟩ := isPlain_bounds hplain
      exact ⟨fun hmem => hpair (List.mem_singleton.1 hmem ▸ rfl),
        fun hmem => hvalue (List.mem_singleton.1 hmem ▸ rfl)⟩
    · have hhigh := Percent.digitByte_ne (show b.toNat / 16 < 16 by omega)
      have hlow := Percent.digitByte_ne (show b.toNat % 16 < 16 by omega)
      simp [hhigh.1.symm, hhigh.2.2.symm, hlow.1.symm, hlow.2.2.symm]
  have hbytes : ∀ bs : List UInt8, 38 ∉ Utf8.encode (bs.flatMap encodeByte) ∧
      61 ∉ Utf8.encode (bs.flatMap encodeByte) := by
    intro bs
    induction bs with
    | nil => decide
    | cons b bs ih =>
      rw [List.flatMap_cons, Utf8.encode_append]
      simp only [List.mem_append, not_or]
      exact ⟨⟨(hbyte b).1, ih.1⟩, ⟨(hbyte b).2, ih.2⟩⟩
  exact hbytes (Utf8.bytes s)

theorem splitBytes_of_not_mem {mark : UInt8} : ∀ {bs : List UInt8}, mark ∉ bs →
    splitBytes mark bs = [bs]
  | [], _ => rfl
  | b :: bs, h => by
    obtain ⟨hb, hbs⟩ := not_or.1 (mt List.mem_cons.2 h)
    rw [splitBytes, if_neg (Ne.symm hb), splitBytes_of_not_mem hbs]

theorem splitBytes_append {mark : UInt8} (rest : List UInt8) : ∀ {bs : List UInt8}, mark ∉ bs →
    splitBytes mark (bs ++ mark :: rest) = bs :: splitBytes mark rest
  | [], _ => if_pos rfl
  | b :: bs, h => by
    obtain ⟨hb, hbs⟩ := not_or.1 (mt List.mem_cons.2 h)
    rw [List.cons_append, splitBytes, if_neg (Ne.symm hb), splitBytes_append rest hbs]

theorem cutBytes_append {mark : UInt8} {bs : List UInt8} (h : mark ∉ bs) (rest : List UInt8) :
    cutBytes mark (bs ++ mark :: rest) = (bs, rest) := by
  have hne : ∀ b ∈ bs, (b != mark) = true := fun b hb => bne_iff_ne.2 fun he => h (he ▸ hb)
  rw [cutBytes, List.takeWhile_append_of_pos hne, List.dropWhile_append_of_pos hne]
  simp

/-! ## Pairs -/

/-- The bytes of the written form of a pair. -/
def writtenPair (p : Pair) : List UInt8 := written p.1 ++ 61 :: written p.2

theorem encode_encodePair (p : Pair) : Utf8.encode (encodePair p) = writtenPair p := by
  rw [encodePair, Utf8.encode_append, Utf8.encode_cons]
  rfl

theorem not_mem_writtenPair (p : Pair) : 38 ∉ writtenPair p := by
  simp [writtenPair, (not_mem_written p.1).1, (not_mem_written p.2).1]

/-- **The pieces between the marks** are the pairs. -/
theorem splitBytes_encodeChars : ∀ (p : Pair) (ps : List Pair),
    splitBytes 38 (Utf8.encode (encodeChars (p :: ps))) = (p :: ps).map writtenPair
  | p, [] => by
    rw [encodeChars, encode_encodePair, splitBytes_of_not_mem (not_mem_writtenPair p)]
    rfl
  | p, q :: ps => by
    rw [encodeChars, Utf8.encode_append, encode_encodePair, Utf8.encode_cons,
      Utf8.utf8EncodeChar_ascii (by decide)]
    exact (splitBytes_append _ (not_mem_writtenPair p)).trans
      (congrArg (writtenPair p :: ·) (splitBytes_encodeChars q ps))

/-- **Reading undoes writing.** -/
theorem parse_encode (ps : List Pair) : parse (encode ps) = ps := by
  rw [parse, encode, Utf8.bytes, String.toList_ofList]
  cases ps with
  | nil => rfl
  | cons p ps =>
    have hpieces : ((p :: ps).map writtenPair).filter (!·.isEmpty) = (p :: ps).map writtenPair := by
      rw [List.filter_eq_self]
      intro piece hpiece
      obtain ⟨q, -, rfl⟩ := List.mem_map.1 hpiece
      simp [writtenPair]
    rw [parseBytes, splitBytes_encodeChars, hpieces, List.map_map]
    refine (List.map_congr_left fun q _ => ?_).trans (List.map_id _)
    simp only [Function.comp, writtenPair, cutBytes_append (not_mem_written q.1).2,
      decodeBytes_written, id]

end Form

end TenantGuard
