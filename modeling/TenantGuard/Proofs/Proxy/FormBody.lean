import TenantGuard.Proofs.Proxy.Confinement
import TenantGuard.Proofs.Query.Restriction

/-!
# Form bodies

A body that goes out as a form holds parameters, so it has to be restricted like the address.  Which
bodies are forms is read off the first `Content-Type` header, if it is a text; what goes out is
every `Content-Type` header, byte by byte.

* `Http.SaysForm`: the bytes of a header's value name form encoding, whatever else they hold;
  `namesForm_eq_true_iff` ties them to what is read off a text;
* `saysForm_of_outboundHeaders`: a header that goes out and names form encoding is the client's own;
* `FormOverlooked`: the first header does not name form encoding or is no text, whereas a later one,
  or the part of it before its parameters, may;
* `form_bodies_restricted`: what becomes of the body of a form, overlooked or not.
-/

namespace TenantGuard

open Http (Request Outbound Transport Header)
open Plan (Oracle)
open Store (Query)

/-! ## Media types as bytes -/

namespace Http

/-- The blanks that may stand around a part of a header's value. -/
def isBlankByte (b : UInt8) : Bool := b == 9 || b == 32

def trimBytes (bs : List UInt8) : List UInt8 :=
  ((bs.dropWhile isBlankByte).reverse.dropWhile isBlankByte).reverse

def lowerByte (b : UInt8) : UInt8 := if 65 ≤ b.toNat ∧ b.toNat ≤ 90 then b + 32 else b

/-- **The media type of a value**: what stands before the first semicolon, in lower case. -/
def mediaTypeBytes (value : List UInt8) : List UInt8 :=
  (trimBytes (value.takeWhile (· != 59))).map lowerByte

/-- **A value names form encoding.** -/
def SaysForm (value : List UInt8) : Prop :=
  mediaTypeBytes value = Text.Utf8.bytes "application/x-www-form-urlencoded"

instance (value : List UInt8) : Decidable (SaysForm value) :=
  inferInstanceAs (Decidable (_ = _))

/-- The character that a byte of ASCII stands for. -/
def charOf (b : UInt8) : Char := Char.ofNat b.toNat

theorem charOf_injective : Function.Injective charOf := by
  intro a b h
  have hnat := congrArg Char.toNat h
  rw [charOf, charOf, Text.Utf8.toNat_ofNat_byte _ a.toNat_lt,
    Text.Utf8.toNat_ofNat_byte _ b.toNat_lt] at hnat
  exact UInt8.toNat_inj.1 hnat

theorem visible_ascii : ∀ n < 128, isVisible (UInt8.ofNat n) = true →
    Text.isBlank (Char.ofNat n) = isBlankByte (UInt8.ofNat n) ∧
      (Char.ofNat n).toLower = charOf (lowerByte (UInt8.ofNat n)) := by
  decide +kernel

theorem charOf_of_isVisible {b : UInt8} (h : isVisible b = true) :
    Text.isBlank (charOf b) = isBlankByte b ∧ (charOf b).toLower = charOf (lowerByte b) := by
  have hlt : b.toNat < 128 := by
    simp only [isVisible, Bool.or_eq_true, Bool.and_eq_true, decide_eq_true_eq, beq_iff_eq] at h
    omega
  have hbyte : UInt8.ofNat b.toNat = b := UInt8.ofNat_toNat
  have := visible_ascii b.toNat hlt
  rw [hbyte] at this
  exact this h

theorem visible?_eq_some_iff {value : List UInt8} {cs : List Char} :
    visible? value = some cs ↔ (∀ b ∈ value, isVisible b = true) ∧ cs = value.map charOf := by
  unfold visible?
  split
  next h =>
    rw [List.all_eq_true] at h
    exact ⟨fun hcs => ⟨h, (Option.some.inj hcs).symm⟩, fun hcs => congrArg some hcs.2.symm⟩
  next h =>
    rw [List.all_eq_true] at h
    exact ⟨nofun, fun hcs => absurd hcs.1 h⟩

theorem dropWhile_isBlank_map {bs : List UInt8} (h : ∀ b ∈ bs, isVisible b = true) :
    (bs.map charOf).dropWhile Text.isBlank = (bs.dropWhile isBlankByte).map charOf := by
  induction bs with
  | nil => rfl
  | cons b bs ih =>
    have hb := (charOf_of_isVisible (h b List.mem_cons_self)).1
    rw [List.map_cons, List.dropWhile_cons, List.dropWhile_cons, hb,
      ih fun c hc => h c (List.mem_cons_of_mem b hc)]
    split <;> rfl

theorem mem_of_mem_trimBytes {bs : List UInt8} {b : UInt8} (h : b ∈ trimBytes bs) : b ∈ bs :=
  (List.dropWhile_sublist _).subset
    (List.mem_reverse.1 ((List.dropWhile_sublist _).subset (List.mem_reverse.1 h)))

theorem trim_map {bs : List UInt8} (h : ∀ b ∈ bs, isVisible b = true) :
    Text.trim (bs.map charOf) = (trimBytes bs).map charOf := by
  have hstart : ∀ b ∈ (bs.dropWhile isBlankByte).reverse, isVisible b = true := fun b hb =>
    h b ((List.dropWhile_sublist _).subset (List.mem_reverse.1 hb))
  rw [Text.trim, Text.trimStart, Text.trimEnd, dropWhile_isBlank_map h, ← List.map_reverse,
    dropWhile_isBlank_map hstart, ← List.map_reverse, trimBytes]

theorem fst_cut (mark : Char) : ∀ cs : List Char,
    (Text.cut mark cs).1 = cs.takeWhile (· != mark)
  | [] => rfl
  | c :: cs => by
    rw [Text.cut, List.takeWhile_cons]
    by_cases h : c = mark
    · simp [h]
    · simp [h, fst_cut mark cs]

theorem fst_cut_map (value : List UInt8) :
    (Text.cut ';' (value.map charOf)).1 = (value.takeWhile (· != 59)).map charOf := by
  have hmark : ((· != ';') ∘ charOf) = (· != (59 : UInt8)) := by
    funext b
    have : charOf b = ';' ↔ b = 59 := charOf_injective.eq_iff' (by decide)
    rw [Function.comp, Bool.eq_iff_iff, bne_iff_ne, bne_iff_ne, ne_eq, ne_eq, this]
  rw [fst_cut, List.takeWhile_map, hmark]

/-- **What is read off a text is what its bytes say.** -/
theorem namesForm_eq_true_iff {value : List UInt8} (h : ∀ b ∈ value, isVisible b = true) :
    namesForm (value.map charOf) = true ↔ SaysForm value := by
  have hbefore : ∀ b ∈ value.takeWhile (· != 59), isVisible b = true := fun b hb =>
    h b ((List.takeWhile_subset _) hb)
  have hlower : ((trimBytes (value.takeWhile (· != 59))).map charOf).map Char.toLower =
      (mediaTypeBytes value).map charOf := by
    rw [mediaTypeBytes, List.map_map, List.map_map]
    refine List.map_congr_left fun b hb => ?_
    exact (charOf_of_isVisible (hbefore b (mem_of_mem_trimBytes hb))).2
  have htext : "application/x-www-form-urlencoded".toList =
      (Text.Utf8.bytes "application/x-www-form-urlencoded").map charOf := by decide +kernel
  rw [namesForm, beq_iff_eq, fst_cut_map, trim_map hbefore, hlower, htext]
  exact (List.map_injective_iff.2 charOf_injective).eq_iff

/-- A value that names form encoding has a slash. -/
theorem SaysForm.slash_mem {value : List UInt8} (h : SaysForm value) : 47 ∈ value := by
  have hmem : (47 : UInt8) ∈ mediaTypeBytes value := by
    rw [h]
    decide
  obtain ⟨b, hb, hlower⟩ := List.mem_map.1 hmem
  have hslash : b = 47 := by
    unfold lowerByte at hlower
    split at hlower
    next hupper =>
      have hnat := congrArg UInt8.toNat hlower
      rw [UInt8.toNat_add] at hnat
      change (b.toNat + 32) % 256 = 47 at hnat
      omega
    next => exact hlower
  exact hslash ▸ (List.takeWhile_subset _) (mem_of_mem_trimBytes hb)

/-- **When a body is taken for a form**: the first `Content-Type` header is a text that names it. -/
theorem isForm_eq_true_iff {hs : List Header} : isForm hs = true ↔
    ∃ v, firstValue? "content-type" hs = some v ∧ (∀ b ∈ v, isVisible b = true) ∧ SaysForm v := by
  simp only [isForm, contentType?, Option.any_eq_true, Option.bind_eq_some_iff,
    visible?_eq_some_iff]
  constructor
  · rintro ⟨-, ⟨v, hv, hvis, rfl⟩, hform⟩
    exact ⟨v, hv, hvis, (namesForm_eq_true_iff hvis).1 hform⟩
  · rintro ⟨v, hv, hvis, hform⟩
    exact ⟨v.map charOf, ⟨v, hv, hvis, rfl⟩, (namesForm_eq_true_iff hvis).2 hform⟩

end Http

namespace Proxy

/-! ## The headers that go out -/

theorem slash_ascii : ∀ n < 123, Scope.isIdChar (Char.ofNat n) = true →
    47 ∉ String.utf8EncodeChar (Char.ofNat n) := by
  decide +kernel

/-- No identifier names form encoding. -/
theorem not_saysForm_of_validateId {id : String} (h : Scope.validateId id = .ok ()) :
    ¬ Http.SaysForm (Text.Utf8.bytes id) := by
  intro hform
  obtain ⟨c, hc, hmem⟩ := List.mem_flatMap.1 hform.slash_mem
  have hid := Scope.isIdChar_of_validateId h hc
  have := slash_ascii c.toNat (Nat.lt_succ_of_le (Scope.toNat_of_isIdChar hid).2)
  rw [Char.ofNat_toNat] at this
  exact this hid hmem

theorem mem_values {name : String} {hs : List Header} {v : List UInt8} :
    v ∈ Http.values name hs ↔ ⟨name, v⟩ ∈ hs := by
  simp only [Http.values, List.mem_map, List.mem_filter, beq_iff_eq]
  constructor
  · rintro ⟨⟨n, w⟩, ⟨hmem, rfl⟩, rfl⟩
    exact hmem
  · intro hmem
    exact ⟨⟨name, v⟩, ⟨hmem, rfl⟩, rfl⟩

/-- **A header that goes out and names form encoding is the client's own.** -/
theorem saysForm_of_outboundHeaders {tenantHeader projectId : String} {hs : List Header}
    {v : List UInt8} (hid : Scope.validateId projectId = .ok ())
    (hmem : v ∈ Http.values "content-type" (outboundHeaders tenantHeader projectId hs))
    (hform : Http.SaysForm v) : v ∈ Http.values "content-type" hs := by
  rw [mem_values] at hmem ⊢
  unfold outboundHeaders at hmem
  split at hmem
  next h hread =>
    rcases List.mem_append.1 hmem with hmem | hmem
    · exact (List.mem_filter.1 (List.mem_filter.1 hmem).1).1
    · have hvalue : h.value = Text.Utf8.bytes projectId := by
        rw [Header.read?, value?_of_validateId hid] at hread
        split at hread
        next hvalue =>
          cases hread
          exact (Option.some.inj hvalue).symm
        · cases hread
      have hv : v = h.value := congrArg Header.value (List.mem_singleton.1 hmem)
      rw [hv, hvalue] at hform
      exact absurd hform (not_saysForm_of_validateId hid)
  next => exact (List.mem_filter.1 hmem).1

/-- **The header that decides does not name form encoding**, or is no text. -/
def FormOverlooked (hs : List Header) : Prop :=
  ∃ v, Http.firstValue? "content-type" hs = some v ∧
    ((∃ b ∈ v, Http.isVisible b = false) ∨ ¬ Http.SaysForm v)

/-- A body with a `Content-Type` is taken for a form unless its header is overlooked. -/
theorem isForm_eq_false_iff {hs : List Header} {v : List UInt8}
    (h : v ∈ Http.values "content-type" hs) : Http.isForm hs = false ↔ FormOverlooked hs := by
  obtain ⟨w, hw⟩ : ∃ w, Http.firstValue? "content-type" hs = some w := by
    rw [← Option.isSome_iff_exists, Http.firstValue?, List.isSome_head?]
    exact List.ne_nil_of_mem h
  rw [Bool.eq_false_iff, ne_eq, Http.isForm_eq_true_iff, FormOverlooked]
  simp only [hw, Option.some.injEq, exists_eq_left', not_and_or, not_forall, Bool.not_eq_true,
    exists_prop]

variable {σ : Type}

/-- **Form bodies are restricted unless their header is overlooked.**  Whatever the headers of a
request that is sent: if one that goes out names form encoding, the body that goes out is the
written form of the client's parameters, restricted to the resource, and it is read as them.  Only
where the first `Content-Type` header is no text or names another type does the body go out as it
came. -/
theorem form_bodies_restricted (p : Proxy) (store : Oracle Query Query.Answer σ)
    (transport : Transport) (now : Moment) (caller : Option Identity) (r : Request) (x : σ)
    (out : Outbound) (hsent : (p.handleWith store transport now caller r x).sent = some out)
    (hform : ∃ v ∈ Http.values "content-type" out.headers, Http.SaysForm v) :
    ∃ t, TenantPath.parse (p.belowMount r.path) = .ok t ∧
      (¬ FormOverlooked r.headers → ∃ pairs,
        p.dialect.restrictPairs (Form.parse (Text.Utf8.lossy r.body)) t.resourceId = .ok pairs ∧
        out.body = Text.Utf8.bytes (Form.encode pairs) ∧
        Form.parse (Text.Utf8.lossy out.body) = pairs ∧
        p.dialect.Restriction t.resourceId (Form.parse (Text.Utf8.lossy r.body)) pairs) ∧
      (FormOverlooked r.headers → out.body = r.body) := by
  have hready : (p.prepareWith store caller r x).1 = .ok out := by
    rw [handleWith_sent] at hsent
    exact toOption_eq_some_iff.1 hsent
  obtain ⟨-, t, -, ht, -, hout⟩ := prepareWith_ok_iff.1 hready
  have hid := (TenantPath.validateId_of_parse ht).1
  have hconfined := confined_of_outbound hid hout
  obtain ⟨v, hv, hsays⟩ := hform
  have hclient : v ∈ Http.values "content-type" r.headers := by
    obtain ⟨_, _, -, -, rfl⟩ := outbound_eq_ok hout
    exact saysForm_of_outboundHeaders hid hv hsays
  have hoverlooked := isForm_eq_false_iff hclient
  refine ⟨t, ht, fun hseen => ?_, fun hmissed => hconfined.plain (hoverlooked.2 hmissed)⟩
  have hisForm : Http.isForm r.headers = true := by
    rw [← hoverlooked, Bool.not_eq_false] at hseen
    exact hseen
  obtain ⟨pairs, hpairs, hbody⟩ := hconfined.form hisForm
  refine ⟨pairs, hpairs, hbody, ?_, Dialect.restrictPairs_eq_ok_iff_restriction.1 hpairs⟩
  rw [hbody, Text.Utf8.lossy_bytes, Form.parse_encode]

/-- A question put to the logs in a body, under some `Content-Type` headers. -/
def posted (types : List (List UInt8)) (body : String) : Request :=
  { method := "POST", path := logsPath "/query", headers := types.map (⟨"content-type", ·⟩)
    body := Text.Utf8.bytes body }

/-- Letters in upper case, blanks and parameters hide no form. -/
theorem form_bodies_restricted_mixedCase :
    let types := [Text.Utf8.bytes "Application/X-WWW-Form-Urlencoded ; charset=UTF-8"]
    ∃ out, sentBy (posted types "query=*") = some out ∧
      (∃ v ∈ Http.values "content-type" out.headers, Http.SaysForm v) ∧
      ∃ pairs, Dialect.logs.restrictPairs
          (Form.parse (Text.Utf8.lossy (Text.Utf8.bytes "query=*"))) "r1" = .ok pairs ∧
        out.body = Text.Utf8.bytes (Form.encode pairs) := by
  intro types
  obtain ⟨out, hout⟩ : ∃ out, sentBy (posted types "query=*") = some out :=
    Option.isSome_iff_exists.1 (by decide +kernel)
  have hform : ∃ v ∈ Http.values "content-type" out.headers, Http.SaysForm v := by
    have : ∀ sent ∈ sentBy (posted types "query=*"),
      ∃ v ∈ Http.values "content-type" sent.headers, Http.SaysForm v := by decide +kernel
    exact this out hout
  obtain ⟨t, ht, hseen, -⟩ := form_bodies_restricted logsProxy
    (Execution.ask (logsProxy.limitsFrom 0) ⟨9, 0⟩) down ⟨9, 0⟩ (some ⟨"ann", none⟩)
    (posted types "query=*") ⟨Engine.sampleStore, 0⟩ out hout hform
  have hparse : TenantPath.parse (logsProxy.belowMount (posted types "query=*").path) =
      .ok ⟨"p1", "r1", "/query"⟩ := toOption_eq_some_iff.1 (by decide +kernel)
  cases hparse.symm.trans ht
  have hvalue : types.head (by decide) ∈
      Http.values "content-type" (posted types "query=*").headers := by decide +kernel
  have hnot : ¬ FormOverlooked (posted types "query=*").headers := by
    rw [← isForm_eq_false_iff hvalue]
    decide +kernel
  obtain ⟨pairs, hpairs, hbody, -⟩ := hseen hnot
  exact ⟨out, hout, hform, pairs, hpairs, hbody⟩

/-- **A form goes out as it came**, though it cannot be restricted. -/
def GoesOutUnrestricted (types : List (List UInt8)) (body : String) : Prop :=
  ∃ out, sentBy (posted types body) = some out ∧
    (∃ v ∈ Http.values "content-type" out.headers, Http.SaysForm v) ∧
    out.body = Text.Utf8.bytes body ∧
    ∀ pairs, Dialect.logs.restrictPairs (Form.parse (Text.Utf8.lossy out.body)) "r1" ≠ .ok pairs

theorem goesOutUnrestricted {types : List (List UInt8)} {body : String}
    (hgoes : (sentBy (posted types body)).isSome)
    (hlooks : ∀ out ∈ sentBy (posted types body),
      (∃ v ∈ Http.values "content-type" out.headers, Http.SaysForm v) ∧
        out.body = Text.Utf8.bytes body)
    (hrefused : (Dialect.logs.restrictPairs
      (Form.parse (Text.Utf8.lossy (Text.Utf8.bytes body))) "r1").toOption = none) :
    GoesOutUnrestricted types body := by
  obtain ⟨out, hout⟩ := Option.isSome_iff_exists.1 hgoes
  obtain ⟨hform, hbody⟩ := hlooks out hout
  refine ⟨out, hout, hform, hbody, fun pairs hpairs => ?_⟩
  rw [hbody] at hpairs
  rw [hpairs] at hrefused
  cases hrefused

/-- Form encoding is overlooked behind another type, and where a parameter is no text. -/
theorem form_goes_out_unrestricted :
    GoesOutUnrestricted
        [Text.Utf8.bytes "text/plain", Text.Utf8.bytes "application/x-www-form-urlencoded"]
        "query=(" ∧
      GoesOutUnrestricted
        [Text.Utf8.bytes "application/x-www-form-urlencoded;x=" ++ [255]] "query=(" :=
  ⟨goesOutUnrestricted (by decide +kernel) (by decide +kernel) (by decide +kernel),
    goesOutUnrestricted (by decide +kernel) (by decide +kernel) (by decide +kernel)⟩

end Proxy

end TenantGuard
