import TenantGuard.Json.Printer
import TenantGuard.Json.Token
import TenantGuard.Proofs.Text.Utf8

/-!
# The tokens of a written object

An object whose values are texts, numbers, truth values or nulls is cut into the tokens that it was
written with, whatever characters its texts hold.

* `ReadsAs`: octets that a text literal holds for some bytes; `readsAs_escape` is that of a whole
  text, and `scan_quote` its token;
* `scanNumber_digits`: the digits of a number up to a comma or the end of the object, and
  `scan_single` the token of any value that is one token;
* `scan_object`: the tokens of the object.
-/

namespace TenantGuard.Json

open Text (Utf8.encode)

variable {c : Char} {cs more rest os os' ds : List Char} {bs bs' : List UInt8} {us : List TextUnit}
  {n : Nat}

/-- The octets of characters. -/
def written (cs : List Char) : List Char := octets (Text.Utf8.encode cs)

theorem written_append (cs ds : List Char) : written (cs ++ ds) = written cs ++ written ds := by
  rw [written, Text.Utf8.encode_append, octets, List.map_append]
  rfl

theorem written_cons (c : Char) (cs : List Char) : written (c :: cs) = written [c] ++ written cs :=
  written_append [c] cs

theorem written_ascii (h : c.toNat < 128) : written [c] = [c] := by
  have hbyte : (UInt8.ofNat c.toNat).toNat = c.toNat :=
    UInt8.toNat_ofNat_of_lt' (show c.toNat < 256 by omega)
  rw [written, Text.Utf8.encode_cons, Text.Utf8.utf8EncodeChar_ascii h]
  change [Char.ofNat (UInt8.ofNat c.toNat).toNat] = [c]
  rw [hbyte, Char.ofNat_toNat]

theorem written_of_ascii (h : cs.all (·.toNat < 128) = true) : written cs = cs := by
  induction cs with
  | nil => rfl
  | cons c cs ih =>
    rw [List.all_cons, Bool.and_eq_true, decide_eq_true_eq] at h
    rw [written_cons, written_ascii h.1, ih h.2, List.singleton_append]

/-! ## Text literals -/

/-- **Octets that stand for bytes** within a text literal, whatever stands around them. -/
def ReadsAs (os : List Char) (bs : List UInt8) : Prop :=
  ∃ us, (∀ more us' rest, scanUnits more = some (us', rest) →
      scanUnits (os ++ more) = some (us ++ us', rest)) ∧
    ∀ us', joinUnits (us ++ us') = (joinUnits us').map (bs ++ ·)

theorem readsAs_nil : ReadsAs [] [] :=
  ⟨[], fun _ _ _ h => h, fun us' => by simp⟩

theorem ReadsAs.append (h : ReadsAs os bs) (h' : ReadsAs os' bs') :
    ReadsAs (os ++ os') (bs ++ bs') := by
  obtain ⟨us, hscan, hjoin⟩ := h
  obtain ⟨us', hscan', hjoin'⟩ := h'
  refine ⟨us ++ us', fun more us'' rest hmore => ?_, fun us'' => ?_⟩
  · rw [List.append_assoc, List.append_assoc]
    exact hscan _ _ _ (hscan' _ _ _ hmore)
  · rw [List.append_assoc, hjoin, hjoin', Option.map_map]
    congr 1
    funext tail
    exact (List.append_assoc bs bs' tail).symm

/-- **An octet that stands for itself**: no quote, no backslash and no control character. -/
def IsPlainOctet (c : Char) : Prop := c ≠ '"' ∧ c ≠ '\\' ∧ 0x20 ≤ c.toNat

theorem readsAs_plain (h : IsPlainOctet c) : ReadsAs [c] [UInt8.ofNat c.toNat] := by
  obtain ⟨hquote, hback, hlow⟩ := h
  refine ⟨[.char c], fun more us' rest hmore => ?_, fun us' => rfl⟩
  have hnot : ¬ (c = '\\' ∨ c.toNat < 0x20) := by
    rintro (hc | hc)
    · exact hback hc
    · omega
  rw [List.singleton_append, scanUnits]
  · simp [hnot, hmore]
  · exact hquote
  · exact fun _ _ _ _ _ hc => absurd hc hback
  · exact fun _ _ hc => absurd hc hback

/-- A letter behind a backslash. -/
theorem readsAs_letter {e : Char} (h : unescape? e = some c) :
    ReadsAs ['\\', e] [UInt8.ofNat c.toNat] := by
  have hletter : e ≠ 'u' := by
    rintro rfl
    cases h
  refine ⟨[.char c], fun more us' rest hmore => ?_, fun us' => rfl⟩
  rw [List.cons_append, List.singleton_append, scanUnits]
  · simp [h, hmore]
  · exact fun _ _ _ _ _ he => absurd he hletter

theorem hexValue4?_control : ∀ n < 32,
    hexValue4? '0' '0' (hexDigit (n / 16)) (hexDigit (n % 16)) = some n := by
  decide

/-- The four digits of a control character. -/
theorem readsAs_control (h : n < 32) :
    ReadsAs ['\\', 'u', '0', '0', hexDigit (n / 16), hexDigit (n % 16)]
      (Utf8.encode [Char.ofNat n]) := by
  refine ⟨[.code n], fun more us' rest hmore => ?_, fun us' => ?_⟩
  · change scanUnits
      ('\\' :: 'u' :: '0' :: '0' :: hexDigit (n / 16) :: hexDigit (n % 16) :: more) = _
    rw [scanUnits]
    simp [hexValue4?_control n h, hmore]
  · have hlow : n < 0xD800 ∨ 0xDFFF < n := .inl (by omega)
    rw [List.singleton_append]
    conv_lhs => rw [joinUnits.eq_def]
    simp only [if_pos hlow]

/-- The octets of a character that is not escaped. -/
theorem readsAs_written (hquote : c ≠ '"') (hback : c ≠ '\\') (hlow : 0x20 ≤ c.toNat) :
    ReadsAs (written [c]) (Utf8.encode [c]) := by
  have hplain : ∀ b ∈ Utf8.encode [c], IsPlainOctet (Char.ofNat b.toNat) ∧
      UInt8.ofNat (Char.ofNat b.toNat).toNat = b := by
    intro b hb
    have hvalue : (Char.ofNat b.toNat).toNat = b.toNat :=
      Text.Utf8.toNat_ofNat_byte _ b.toNat_lt
    refine ⟨?_, by rw [hvalue, UInt8.ofNat_toNat]⟩
    rw [Text.Utf8.encode_cons, Text.Utf8.encode_nil, List.append_nil] at hb
    by_cases hascii : c.toNat < 128
    · rw [Text.Utf8.utf8EncodeChar_ascii hascii, List.mem_singleton] at hb
      have hc : Char.ofNat b.toNat = c := by
        rw [hb, UInt8.toNat_ofNat_of_lt' (show c.toNat < 256 by omega), Char.ofNat_toNat]
      rw [hc]
      exact ⟨hquote, hback, hlow⟩
    · -- no octet of such a character is one of ASCII
      have hhigh := Text.Utf8.le_of_mem_utf8EncodeChar (Nat.le_of_not_lt hascii) b hb
      have hne : ∀ d : Char, d.toNat < 128 → Char.ofNat b.toNat ≠ d := by
        rintro d hd rfl
        omega
      exact ⟨hne '"' (by decide), hne '\\' (by decide), by omega⟩
  unfold written octets
  generalize Utf8.encode [c] = bs at hplain
  induction bs with
  | nil => exact readsAs_nil
  | cons b bs ih =>
    obtain ⟨hb, hvalue⟩ := hplain b List.mem_cons_self
    have hfirst := readsAs_plain hb
    rw [hvalue] at hfirst
    exact hfirst.append (ih fun d hd => hplain d (List.mem_cons_of_mem b hd))

/-- **A character is read from what is written for it.** -/
theorem readsAs_escapeChar (c : Char) : ReadsAs (written (escapeChar c)) (Utf8.encode [c]) := by
  have hletter : ∀ e d : Char, e.toNat < 128 → d.toNat < 128 → unescape? e = some d →
      ReadsAs (written ['\\', e]) (Utf8.encode [d]) := by
    intro e d he hd hunescape
    rw [written_cons, written_ascii (by decide), written_ascii he, Text.Utf8.encode_cons,
      Text.Utf8.utf8EncodeChar_ascii hd]
    exact readsAs_letter hunescape
  unfold escapeChar
  split_ifs with hquote hback hb ht hn hf hr hlow
  · exact hquote ▸ hletter '"' '"' (by decide) (by decide) rfl
  · exact hback ▸ hletter '\\' '\\' (by decide) (by decide) rfl
  · exact hb ▸ hletter 'b' '\x08' (by decide) (by decide) rfl
  · exact ht ▸ hletter 't' '\t' (by decide) (by decide) rfl
  · exact hn ▸ hletter 'n' '\n' (by decide) (by decide) rfl
  · exact hf ▸ hletter 'f' '\x0c' (by decide) (by decide) rfl
  · exact hr ▸ hletter 'r' '\r' (by decide) (by decide) rfl
  · have hascii : ∀ n < 32, ['\\', 'u', '0', '0', hexDigit (n / 16), hexDigit (n % 16)].all
        (·.toNat < 128) = true := by decide
    rw [written_of_ascii (hascii _ hlow)]
    have hcode := readsAs_control hlow
    rw [Char.ofNat_toNat] at hcode
    exact hcode
  · exact readsAs_written hquote hback (Nat.le_of_not_lt hlow)

theorem readsAs_escape (cs : List Char) : ReadsAs (written (escape cs)) (Utf8.encode cs) := by
  induction cs with
  | nil => exact readsAs_nil
  | cons c cs ih =>
    have hsplit : Utf8.encode (c :: cs) = Utf8.encode [c] ++ Utf8.encode cs :=
      Text.Utf8.encode_append [c] cs
    rw [escape, written_append, hsplit]
    exact (readsAs_escapeChar c).append ih

/-! ## Tokens -/

theorem scan_cons {t : Token} (hblank : isJsonBlank c = false)
    (h : scanToken c cs = some (t, rest)) :
    Token.scan (c :: cs) = t :: Token.scan rest := by
  rw [Token.scan, hblank, if_neg Bool.false_ne_true]
  split
  next hnone => cases hnone.symm.trans h
  next hsome =>
    cases hsome.symm.trans h
    rfl

/-- **A text is one token**, whatever characters it holds. -/
theorem scan_quote (s : String) (rest : List Char) :
    Token.scan (written (quote s).toList ++ rest) = .text (some s) :: Token.scan rest := by
  have hchars : (quote s).toList = '"' :: (escape s.toList ++ ['"']) := by
    simp [quote]
  have hquote : written ['"'] = ['"'] := written_ascii (by decide)
  have htext : written (quote s).toList ++ rest =
      '"' :: (written (escape s.toList) ++ '"' :: rest) := by
    rw [hchars, written_cons, written_append, hquote]
    simp
  obtain ⟨us, hscan, hjoin⟩ := readsAs_escape s.toList
  have hunits : scanUnits (written (escape s.toList) ++ '"' :: rest) = some (us, rest) := by
    have hend := hscan ('"' :: rest) [] rest rfl
    rwa [List.append_nil] at hend
  have hbytes : joinUnits us = some (Utf8.encode s.toList) := by
    have hend := hjoin []
    rw [List.append_nil] at hend
    rw [hend]
    simp [joinUnits]
  have htoken : textToken us = .text (some s) := by
    simp only [textToken, hbytes, Text.Utf8.decode?_encode, String.ofList_toList]
  rw [htext]
  refine scan_cons rfl ?_
  change (scanUnits _).map _ = _
  rw [hunits]
  exact congrArg (fun t => some (t, rest)) htoken

/-! ### Numbers -/

/-- **What stands behind a value in an object**: a comma or the end. -/
def Closing (rest : List Char) : Prop := ∃ c cs, rest = c :: cs ∧ (c = ',' ∨ c = '}')

theorem spanDigits_closing (hds : ∀ d ∈ ds, d.isDigit = true) (hrest : Closing rest) :
    spanDigits (ds ++ rest) = (ds, rest) := by
  obtain ⟨c, cs, rfl, hc⟩ := hrest
  have hend : c.isDigit = false := by
    rcases hc with rfl | rfl <;> rfl
  have htake : (ds ++ c :: cs).takeWhile Char.isDigit = ds := by
    rw [List.takeWhile_append_of_pos hds, List.takeWhile_cons_of_neg (by simp [hend]),
      List.append_nil]
  have hdrop : (ds ++ c :: cs).dropWhile Char.isDigit = c :: cs := by
    rw [List.dropWhile_append_of_pos hds, List.dropWhile_cons_of_neg (by simp [hend])]
  rw [spanDigits, htake, hdrop]

/-- A number is written with a digit in front. -/
theorem exists_toDigits_eq_cons (n : Nat) :
    ∃ d ds, Nat.toDigits 10 n = d :: ds ∧ d.isDigit = true := by
  obtain ⟨d, ds, hds⟩ := List.exists_cons_of_ne_nil (Nat.toDigits_ne_nil (n := n) (b := 10))
  have hmem : d ∈ Nat.toDigits 10 n := hds ▸ List.mem_cons_self
  exact ⟨d, ds, hds, Nat.isDigit_of_mem_toDigits (by decide) (by decide) hmem⟩

/-- The digits of a number start with a zero only if they are nothing else. -/
theorem head_toDigits (n : Nat) (hn : n ≠ 0) : (Nat.toDigits 10 n).head? ≠ some '0' := by
  induction n using Nat.strongRecOn with
  | ind n ih =>
    rw [Nat.toDigits_eq_if (by decide)]
    by_cases hlt : n < 10
    · have hdigit : ∀ n < 10, n ≠ 0 → n.digitChar ≠ '0' := by decide
      rw [if_pos hlt, List.head?_cons]
      exact fun h => hdigit n hlt hn (Option.some.inj h)
    · have hrest := ih (n / 10) (by omega) (by omega)
      rw [if_neg hlt]
      obtain ⟨d, ds, hds, -⟩ := exists_toDigits_eq_cons (n / 10)
      rw [hds] at hrest ⊢
      exact hrest

theorem scanWhole_toDigits (hrest : Closing rest) (n : Nat) :
    scanWhole (Nat.toDigits 10 n ++ rest) = some (Nat.toDigits 10 n, rest) := by
  have hdigits : ∀ d ∈ Nat.toDigits 10 n, d.isDigit = true := fun d hd =>
    Nat.isDigit_of_mem_toDigits (by decide) (by decide) hd
  have hspan := spanDigits_closing hdigits hrest
  by_cases hn : n = 0
  · subst hn
    rw [scanWhole, hspan]
    rfl
  · have hhead := head_toDigits n hn
    obtain ⟨d, ds, hds, -⟩ := exists_toDigits_eq_cons n
    rw [hds, List.head?_cons] at hhead
    have hd : d ≠ '0' := fun h => hhead (congrArg some h)
    rw [scanWhole, hspan, hds]
    simp [hd]

theorem scanFraction_closing (hrest : Closing rest) : scanFraction rest = some (none, rest) := by
  obtain ⟨c, cs, rfl, rfl | rfl⟩ := hrest
  · rfl
  · rfl

theorem scanExponent_closing (hrest : Closing rest) : scanExponent rest = some (none, rest) := by
  obtain ⟨c, cs, rfl, rfl | rfl⟩ := hrest
  · rfl
  · rfl

/-- **The digits of a number** are cut off whole, with its sign. -/
theorem scanNumber_digits (hrest : Closing rest) (n : Nat) :
    scanNumber (Nat.toDigits 10 n ++ rest) = some (⟨false, Nat.toDigits 10 n, none, none⟩, rest) ∧
      scanNumber ('-' :: (Nat.toDigits 10 n ++ rest)) =
        some (⟨true, Nat.toDigits 10 n, none, none⟩, rest) := by
  have hwhole := scanWhole_toDigits hrest n
  have hfraction := scanFraction_closing hrest
  have hexponent := scanExponent_closing hrest
  constructor
  · obtain ⟨d, ds, hds, hdigit⟩ := exists_toDigits_eq_cons n
    have hminus : d ≠ '-' := by
      rintro rfl
      exact absurd hdigit (by decide)
    rw [hds, List.cons_append] at hwhole ⊢
    simp [scanNumber, hminus, hwhole, hfraction, hexponent]
  · simp [scanNumber, hwhole, hfraction, hexponent]

theorem digitsValue_toDigits (n : Nat) : digitsValue (Nat.toDigits 10 n) = n :=
  Nat.ofDigitChars_toDigits (by decide) (by decide)

theorem numberToken_natural (h : n < 0x10000000000000000) :
    numberToken ⟨false, Nat.toDigits 10 n, none, none⟩ = .number (some (.natural n)) := by
  have hfits : n < Nat.pow 2 64 := h
  simp [numberToken, NumberText.isOverlong, NumberText.value?, digitsValue_toDigits, hfits]

theorem numberToken_negative (hn : n ≠ 0) (h : n ≤ 0x8000000000000000) :
    numberToken ⟨true, Nat.toDigits 10 n, none, none⟩ = .number (some (.negative n)) := by
  have hfits : n < Nat.pow 2 64 := show n < 18446744073709551616 by omega
  have hleast : ¬ Nat.pow 2 63 < n := show ¬ 9223372036854775808 < n by omega
  simp [numberToken, NumberText.isOverlong, NumberText.value?, digitsValue_toDigits, hfits, hn,
    hleast]

/-- A digit or a minus begins a number. -/
theorem scan_number {t : NumberText} (hc : c.isDigit = true ∨ c = '-')
    (h : scanNumber (c :: cs) = some (t, rest)) :
    Token.scan (c :: cs) = numberToken t :: Token.scan rest := by
  have hother : ∀ d : Char, d.isDigit = false → d ≠ '-' → c ≠ d := by
    rintro d hdigit hminus rfl
    rcases hc with hc | hc
    · exact Bool.false_ne_true (hdigit.symm.trans hc)
    · exact hminus hc
  refine scan_cons ?_ ?_
  · simp [isJsonBlank, hother ' ' rfl (by decide), hother '\t' rfl (by decide),
      hother '\n' rfl (by decide), hother '\r' rfl (by decide)]
  · unfold scanToken
    split
    case h_11 => rw [h, Option.map_some]
    all_goals exact absurd rfl (hother _ rfl (by decide))

/-! ### Values -/

/-- **A value that is one token.** -/
def IsSingle : Json → Prop
  | null | boolean _ | text _ => True
  | number (.natural n) => n < 0x10000000000000000
  | number (.negative n) => n ≠ 0 ∧ n ≤ 0x8000000000000000
  | number (.float _) | array _ | object _ => False

/-- The token of such a value. -/
def token : Json → Token
  | null => .null
  | boolean b => .boolean b
  | number k => .number (some k)
  | text s => .text (some s)
  | array _ | object _ => .junk

theorem toList_toString (n : Nat) : (toString n).toList = Nat.toDigits 10 n := Nat.toList_repr

theorem written_toDigits (n : Nat) : written (Nat.toDigits 10 n) = Nat.toDigits 10 n := by
  refine written_of_ascii (List.all_eq_true.2 fun d hd => decide_eq_true ?_)
  have hdigit : d.isDigit = true := Nat.isDigit_of_mem_toDigits (by decide) (by decide) hd
  have halnum : d.isAlphanum = true := by
    rw [Char.isAlphanum, hdigit, Bool.or_true]
  have hbound := Text.Utf8.toNat_of_isAlphanum halnum
  omega

/-- **Such a value is read as its token**, and the rest behind it. -/
theorem scan_single {v : Json} (hv : v.IsSingle) (hrest : Closing rest) :
    Token.scan (written v.render.toList ++ rest) = v.token :: Token.scan rest := by
  have hword : ∀ w : List Char, w.all (·.toNat < 128) = true → written w ++ rest = w ++ rest :=
    fun w hw => by rw [written_of_ascii hw]
  cases v with
  | null =>
    rw [render, hword _ rfl]
    exact scan_cons rfl rfl
  | boolean b =>
    cases b with
    | false =>
      rw [render, hword _ rfl]
      exact scan_cons rfl rfl
    | true =>
      rw [render, hword _ rfl]
      exact scan_cons rfl rfl
  | text s => exact scan_quote s rest
  | number k =>
    cases k with
    | natural n =>
      have hn : n < 0x10000000000000000 := hv
      have hscan := (scanNumber_digits hrest n).1
      obtain ⟨d, ds, hds, hdigit⟩ := exists_toDigits_eq_cons n
      rw [render, Number.toText, toList_toString, written_toDigits, token,
        ← numberToken_natural hn]
      rw [hds] at hscan ⊢
      exact scan_number (.inl hdigit) hscan
    | negative n =>
      obtain ⟨hn, hle⟩ : n ≠ 0 ∧ n ≤ 0x8000000000000000 := hv
      have hscan := (scanNumber_digits hrest n).2
      have hsign : ("-" ++ toString n).toList = '-' :: Nat.toDigits 10 n := by
        rw [String.toList_append, toList_toString]
        rfl
      rw [render, Number.toText, hsign, written_cons, written_ascii (by decide), written_toDigits,
        token, ← numberToken_negative hn hle]
      exact scan_number (.inr rfl) hscan
    | float x => exact hv.elim
  | array items => exact hv.elim
  | object members => exact hv.elim

/-! ### Objects -/

/-- The tokens of the members behind the first one, up to the end of the object. -/
def memberTokens : List (String × Json) → List Token
  | [] => [.endObject]
  | (name, v) :: ms => .comma :: .text (some name) :: .colon :: v.token :: memberTokens ms

theorem closing_renderMembers (ms : List (String × Json)) :
    Closing (written (renderMembers ms).toList ++ ['\x7d']) := by
  cases ms with
  | nil => exact ⟨'\x7d', [], rfl, .inr rfl⟩
  | cons m ms =>
    have hcomma : (renderMembers (m :: ms)).toList =
        ',' :: (quote m.1 ++ ":" ++ render m.2 ++ renderMembers ms).toList := by
      simp [renderMembers]
    rw [hcomma, written_cons, written_ascii (by decide)]
    exact ⟨',', _, rfl, .inl rfl⟩

/-- **A member is its name, a colon and its value**, and the rest behind them. -/
theorem scan_member (name : String) {v : Json} (hv : v.IsSingle) (hrest : Closing rest) :
    Token.scan (written (quote name ++ ":" ++ render v).toList ++ rest) =
      .text (some name) :: .colon :: v.token :: Token.scan rest := by
  have hcolon : written ":".toList = [':'] := written_ascii (by decide)
  have hvalue : Token.scan (':' :: (written v.render.toList ++ rest)) =
      .colon :: Token.scan (written v.render.toList ++ rest) := scan_cons rfl rfl
  rw [String.toList_append, String.toList_append, written_append, written_append, hcolon,
    List.append_assoc, List.append_assoc, scan_quote, List.singleton_append, hvalue,
    scan_single hv hrest]

theorem scan_renderMembers : ∀ {ms : List (String × Json)}, (∀ m ∈ ms, m.2.IsSingle) →
    Token.scan (written (renderMembers ms).toList ++ ['\x7d']) = memberTokens ms
  | [], _ => by
    have hend : Token.scan ['\x7d'] = .endObject :: Token.scan [] := scan_cons rfl rfl
    rw [Token.scan] at hend
    exact hend
  | (name, v) :: ms, h => by
    have hrest := scan_renderMembers fun m hm => h m (List.mem_cons_of_mem _ hm)
    have hmember := scan_member name (h _ List.mem_cons_self)
      (closing_renderMembers ms)
    have hcomma : (renderMembers ((name, v) :: ms)).toList =
        ',' :: ((quote name ++ ":" ++ render v).toList ++ (renderMembers ms).toList) := by
      simp [renderMembers]
    have hwritten : written (renderMembers ((name, v) :: ms)).toList =
        ',' :: (written (quote name ++ ":" ++ render v).toList ++
          written (renderMembers ms).toList) := by
      rw [hcomma, written_cons, written_append, written_ascii (c := ',') (by decide),
        List.singleton_append]
    rw [hwritten, memberTokens, ← hrest, ← hmember, List.cons_append, List.append_assoc]
    exact scan_cons rfl rfl

/-- **The tokens of an object** are those that it was written with. -/
theorem scan_object {name : String} {v : Json} {ms : List (String × Json)} (hv : v.IsSingle)
    (hms : ∀ m ∈ ms, m.2.IsSingle) :
    Token.scan (octets (Text.Utf8.bytes (render (.object ((name, v) :: ms))))) =
      .beginObject :: .text (some name) :: .colon :: v.token :: memberTokens ms := by
  have hmember := scan_member name hv (closing_renderMembers ms)
  have hbraces : (render (.object ((name, v) :: ms))).toList =
      '\x7b' :: ((quote name ++ ":" ++ render v).toList ++
        ((renderMembers ms).toList ++ ['\x7d'])) := by
    simp [render]
  have hwritten : written (render (.object ((name, v) :: ms))).toList =
      '\x7b' :: (written (quote name ++ ":" ++ render v).toList ++
        (written (renderMembers ms).toList ++ ['\x7d'])) := by
    rw [hbraces, written_cons, written_append, written_append,
      written_ascii (c := '\x7b') (by decide), written_ascii (c := '\x7d') (by decide),
      List.singleton_append]
  change Token.scan (written _) = _
  rw [hwritten, ← scan_renderMembers hms, ← hmember]
  exact scan_cons rfl rfl

end TenantGuard.Json
