import TenantGuard.Proofs.Auth.Issuer
import TenantGuard.Proofs.Json.ReadBack

/-!
# A signed token carries its claims

What a verifier signs it reads back, whatever characters the claims hold.

* `read_claims` and `read_checked`: the claims that are written are read, and so are those that are
  checked;
* `Opens.verify_eq` and `claims_of_other_secret`: what becomes of a token that is opened, and of one
  that was signed with another secret;
* `earliestExpiry_eq` and `earliestExpiry_wraps`: when a token has expired, for a tolerance that
  goes back to 1970 at most and for a greater one;
* `ReadsBack` says what becomes of a signed token, and `signed_claims_read_back` what a verifier
  makes of the tokens that it signs, and another one of the same tokens.
-/

namespace TenantGuard

open Json (Fits Number Shape present)

namespace Claims

variable {c : Claims} {m : String × Json}

/-! ## What is written -/

/-- **The integers that a time may be**, those of 64 bits. -/
def IsTime (t : Int) : Prop := -0x8000000000000000 ≤ t ∧ t ≤ 0x7FFFFFFFFFFFFFFF

/-- The members of written claims, those that are left out included. -/
def rows (c : Claims) : List (String × Option Json) :=
  [("sub", some (.text c.subject)), ("email", c.email.map .text),
   ("email_verified", c.emailVerified.map .boolean), ("iat", some (integer c.issuedAt)),
   ("exp", some (integer c.expiry)), ("iss", c.issuer.map .text), ("aud", c.audience.map .text)]

theorem toJson_eq (c : Claims) : c.toJson = .object (present c.rows) := rfl

theorem names_rows (c : Claims) : (c.rows.map Prod.fst).Nodup := by
  have hnames : c.rows.map Prod.fst =
      ["sub", "email", "email_verified", "iat", "exp", "iss", "aud"] := rfl
  rw [hnames]
  decide

theorem present_rows_ne_nil (c : Claims) : present c.rows ≠ [] := by
  simp [rows, present]

theorem integer?_integer (t : Int) : integer? (integer t) = some t := by
  cases t with
  | ofNat n => rfl
  | negSucc n => rfl

theorem nat?_integer (t : Int) : (integer t).nat? = t.toNat? := by
  cases t with
  | ofNat n => rfl
  | negSucc n => rfl

theorem single_integer {t : Int} (ht : IsTime t) : (integer t).IsSingle := by
  obtain ⟨hleast, hgreatest⟩ := ht
  cases t with
  | ofNat n =>
    rw [Int.ofNat_eq_natCast] at hgreatest
    change n < 18446744073709551616
    omega
  | negSucc n =>
    change n + 1 ≠ 0 ∧ n + 1 ≤ 9223372036854775808
    omega

theorem takes_time {t : Int} (ht : IsTime t) : time.Takes (integer t) := by
  cases t with
  | ofNat n => exact Json.takes_integer rfl ht
  | negSucc n => exact Json.takes_integer rfl ht

/-- What holds of each member that is written holds of all. -/
theorem forall_mem_rows {P : String × Json → Prop} (hsub : P ("sub", .text c.subject))
    (hemail : ∀ e, P ("email", .text e)) (hverified : ∀ b, P ("email_verified", .boolean b))
    (hiat : P ("iat", integer c.issuedAt)) (hexp : P ("exp", integer c.expiry))
    (hiss : ∀ i, P ("iss", .text i)) (haud : ∀ a, P ("aud", .text a)) :
    ∀ m ∈ present c.rows, P m := by
  rintro ⟨name, v⟩ h
  rw [Json.mem_present] at h
  simp only [rows, List.mem_cons, Prod.mk.injEq, List.not_mem_nil, or_false, Option.some.injEq,
    eq_comm (a := some v), Option.map_eq_some_iff] at h
  rcases h with ⟨rfl, rfl⟩ | ⟨rfl, e, -, rfl⟩ | ⟨rfl, b, -, rfl⟩ | ⟨rfl, rfl⟩ | ⟨rfl, rfl⟩ |
    ⟨rfl, i, -, rfl⟩ | ⟨rfl, a, -, rfl⟩
  · exact hsub
  · exact hemail e
  · exact hverified b
  · exact hiat
  · exact hexp
  · exact hiss i
  · exact haud a

/-! ## What is read -/

theorem takes_maybe {s : Shape} {v : Json} (h : s.Takes v) (hv : v.token ≠ .null) :
    (maybe s).Takes v := (h.optional hv).defaulting

/-- Each field of the claims takes the member that is written for it. -/
theorem fits_shape (hissued : IsTime c.issuedAt) (hexpiry : IsTime c.expiry) :
    ∀ m ∈ present c.rows, Fits shape.fields m :=
  forall_mem_rows
    (Json.fits_of_field trivial rfl (Json.takes_text _))
    (fun e => Json.fits_of_field trivial rfl (takes_maybe (Json.takes_text e) nofun))
    (fun b => Json.fits_of_field trivial rfl (takes_maybe (Json.takes_boolean b) nofun))
    (Json.fits_of_field (single_integer hissued) rfl (takes_time hissued).defaulting)
    (Json.fits_of_field (single_integer hexpiry) rfl (takes_time hexpiry))
    (fun i => Json.fits_of_field trivial rfl (takes_maybe (Json.takes_text i) nofun))
    (fun a => Json.fits_of_field trivial rfl (takes_maybe (Json.takes_text a) nofun))

theorem exists_or_some (o : Option Json) (absent : Json) :
    ∃ w, o.or (some absent) = some w := by
  cases o with
  | none => exact ⟨absent, rfl⟩
  | some w => exact ⟨w, rfl⟩

/-- What may be left out is read as it was, there or not. -/
theorem text?_or_null (o : Option String) :
    ((o.map Json.text).or (some .null)).bind Json.text? = o := by
  cases o with
  | none => rfl
  | some t => rfl

theorem bool?_or_null (o : Option Bool) :
    ((o.map Json.boolean).or (some .null)).bind Json.bool? = o := by
  cases o with
  | none => rfl
  | some b => rfl

/-- **The claims are read back** as they were written. -/
theorem read_claims (hissued : IsTime c.issuedAt) (hexpiry : IsTime c.expiry) :
    (shape.readWhole? (Text.Utf8.bytes c.toJson.render)).bind ofJson? = some c := by
  have hlookup := Json.lookup_present c.names_rows
  have hneeded : ∀ f ∈ shape.fields, ∃ w,
      ((present c.rows).lookup f.1).or f.2.absent? = some w := by
    intro f hf
    rw [hlookup]
    simp only [shape, Shape.fields, List.mem_cons, List.not_mem_nil, or_false] at hf
    rcases hf with rfl | rfl | rfl | rfl | rfl | rfl | rfl
    · exact ⟨.text c.subject, rfl⟩
    · exact exists_or_some _ _
    · exact exists_or_some _ _
    · exact ⟨integer c.issuedAt, rfl⟩
    · exact ⟨integer c.expiry, rfl⟩
    · exact exists_or_some _ _
    · exact exists_or_some _ _
  obtain ⟨j, hj, hmember⟩ := Json.read_object (show shape = .record shape.fields from rfl)
    (by decide) c.present_rows_ne_nil (c.names_rows.sublist (Json.names_present _))
    (fits_shape hissued hexpiry) hneeded
  simp only [hlookup] at hmember
  have hsub : j.member? "sub" = some (.text c.subject) := hmember "sub" _ rfl
  have hemail : (j.member? "email").bind Json.text? = c.email := by
    rw [hmember "email" _ rfl]
    exact text?_or_null c.email
  have hverified : (j.member? "email_verified").bind Json.bool? = c.emailVerified := by
    rw [hmember "email_verified" _ rfl]
    exact bool?_or_null c.emailVerified
  have hiat : j.member? "iat" = some (integer c.issuedAt) := hmember "iat" _ rfl
  have hexp : j.member? "exp" = some (integer c.expiry) := hmember "exp" _ rfl
  have hiss : (j.member? "iss").bind Json.text? = c.issuer := by
    rw [hmember "iss" _ rfl]
    exact text?_or_null c.issuer
  have haud : (j.member? "aud").bind Json.text? = c.audience := by
    rw [hmember "aud" _ rfl]
    exact text?_or_null c.audience
  rw [toJson_eq, hj, Option.bind_some, ofJson?, hsub, hemail, hverified, hiat, hexp, hiss, haud]
  simp [Json.text?, integer?_integer]

/-! ## What is checked -/

theorem fits_checked (hissued : IsTime c.issuedAt) (hexpiry : IsTime c.expiry) :
    ∀ m ∈ present c.rows, Fits CheckedClaims.shape.fields m := by
  have htext : ∀ t, (Shape.optional .plain).Takes (.text t) := fun t =>
    (Json.takes_plain (v := .text t) trivial).optional nofun
  exact forall_mem_rows
    (Json.fits_of_field trivial rfl (htext _))
    (fun e => Json.fits_of_no_field trivial rfl)
    (fun b => Json.fits_of_no_field trivial rfl)
    (Json.fits_of_no_field (single_integer hissued) rfl)
    (Json.fits_of_field (single_integer hexpiry) rfl
      (Json.takes_plain (single_integer hexpiry)).defaulting)
    (fun i => Json.fits_of_field trivial rfl (htext i))
    (fun a => Json.fits_of_field trivial rfl (htext a))

/-- **The claims that are checked** are the expiry, if it is no time before 1970, and the issuer. -/
theorem read_checked (hissued : IsTime c.issuedAt) (hexpiry : IsTime c.expiry) :
    (CheckedClaims.shape.readWhole? (Text.Utf8.bytes c.toJson.render)).map CheckedClaims.ofJson =
      some ⟨c.expiry.toNat?, c.issuer⟩ := by
  have hlookup := Json.lookup_present c.names_rows
  have hneeded : ∀ f ∈ CheckedClaims.shape.fields, ∃ w,
      ((present c.rows).lookup f.1).or f.2.absent? = some w := by
    intro f hf
    simp only [CheckedClaims.shape, Shape.fields, List.mem_cons, List.not_mem_nil, or_false] at hf
    rcases hf with rfl | rfl | rfl | rfl | rfl
    all_goals exact exists_or_some _ _
  obtain ⟨j, hj, hmember⟩ := Json.read_object
    (show CheckedClaims.shape = .record CheckedClaims.shape.fields from rfl)
    (by decide) c.present_rows_ne_nil (c.names_rows.sublist (Json.names_present _))
    (fits_checked hissued hexpiry) hneeded
  simp only [hlookup] at hmember
  have hexp : j.member? "exp" = some (integer c.expiry) := hmember "exp" _ rfl
  have hiss : (j.member? "iss").bind Json.text? = c.issuer := by
    rw [hmember "iss" _ rfl]
    exact text?_or_null c.issuer
  rw [toJson_eq, hj, Option.map_some, CheckedClaims.ofJson, hexp, hiss, Option.bind_some,
    nat?_integer]

/-! ## Whom the claims speak of -/

/-- **Somebody is spoken of** if the subject holds a character that is no blank. -/
theorem identity_of_named (h : ∃ ch ∈ c.subject.toList, Text.isBlank ch = false) :
    c.identity = .ok
      { userId := c.subject, email := if c.emailVerified = some false then none else c.email } := by
  obtain ⟨ch, hmem, hch⟩ := h
  have hnamed : Text.allBlank c.subject = false := by
    rw [Text.allBlank, List.all_eq_false]
    exact ⟨ch, hmem, by rw [hch]; decide⟩
  rw [identity, hnamed]
  rfl

theorem identity_of_blank (h : ∀ ch ∈ c.subject.toList, Text.isBlank ch = true) :
    c.identity = .error .invalidToken := by
  have hnobody : Text.allBlank c.subject = true := List.all_eq_true.2 h
  rw [identity, hnobody]
  rfl

end Claims

namespace Verifier

variable {v w : Verifier} {now : Int} {token : String} {c : Claims} {checked : CheckedClaims}
  {t : TokenText} {header payload secret other : List UInt8}

/-! ## Tokens that are opened -/

/-- **A token that is opened** is accepted or refused by the check. -/
theorem Opens.claims_of_check (h : v.Opens token c checked t header payload) :
    v.claims now token = (v.check now checked).map fun _ => c := by
  obtain ⟨j, hj, rfl⟩ := Option.map_eq_some_iff.1 h.checked_eq
  cases hcheck : v.check now (CheckedClaims.ofJson j) with
  | ok u =>
    exact claims_eq_ok_iff.2 ⟨_, t, header, payload, h, hcheck⟩
  | error e =>
    simp [claims, h.parts, h.header_eq, h.algorithm, h.signature, h.payload_eq, h.claims_eq, hj,
      expected, hcheck, bind, Except.bind, Except.map]

theorem Opens.verify_eq (h : v.Opens token c checked t header payload) :
    v.verify now token = (v.check now checked).bind fun _ => c.identity := by
  change (v.claims now token).bind _ = _
  rw [h.claims_of_check]
  cases v.check now checked with
  | ok u => rfl
  | error e => rfl

theorem check_of_passed {n : Nat} (hexpiry : checked.expiry = some n)
    (hpassed : (n : Int) < v.earliestExpiry now) : v.check now checked = .error .tokenExpired := by
  rw [check, hexpiry]
  exact if_pos hpassed

/-- Where the tolerance does not reach behind 1970, the earliest expiry is the time less the
tolerance. -/
theorem earliestExpiry_eq (hstart : (v.leeway : Int) ≤ now) (hend : now < 0x10000000000000000) :
    v.earliestExpiry now = now - v.leeway :=
  Int.emod_eq_of_lt (by omega) (by omega)

/-- **A tolerance that reaches behind 1970** wraps around.  Where one would expect that nothing has
expired, everything before the end of time has. -/
theorem earliestExpiry_wraps (hearly : now < v.leeway)
    (hbound : (v.leeway : Int) ≤ now + 0x10000000000000000) :
    v.earliestExpiry now = now - v.leeway + 0x10000000000000000 := by
  rw [earliestExpiry, ← Int.add_emod_right]
  exact Int.emod_eq_of_lt (by omega) (by omega)

/-! ## Other secrets -/

/-- What is signed of claims. -/
def signedText (c : Claims) : List UInt8 :=
  TokenText.message ⟨part Verifier.header, part c.toJson, []⟩

/-- **A signature tells secrets apart** whose tags differ. -/
theorem sharedSignature_ne {message : List UInt8}
    (h : Crypto.Hmac.tag other message ≠ Crypto.Hmac.tag secret message) :
    sharedSignature secret message ≠ sharedSignature other message := by
  intro heq
  have hread := congrArg (Text.Base64.decode? Text.Base64.urlSafe) heq
  rw [sharedSignature, sharedSignature, Text.Base64.decode?_encode,
    Text.Base64.decode?_encode] at hread
  exact h (Option.some.inj hread).symm

/-- **A token that was signed with another secret is refused**, whatever it says. -/
theorem claims_of_other_secret (hsign : v.sign c = .ok token) (hv : v.key = .shared secret)
    (hw : w.key = .shared other)
    (htags : Crypto.Hmac.tag other (signedText c) ≠ Crypto.Hmac.tag secret (signedText c)) :
    w.claims now token = .error .invalidToken := by
  obtain ⟨secret', hkey, t, htoken, hheader, hpayload, hsignature⟩ := sign_eq_ok hsign
  cases hv.symm.trans hkey
  have hparts : TokenText.parse? t.text = some t := TokenText.parse?_text
    (hpayload ▸ Text.Base64.dot_not_mem_encode _) (hsignature ▸ Text.Base64.dot_not_mem_encode _)
  have hdocument : document t.header = .ok (Text.Utf8.bytes Verifier.header.render) := by
    rw [hheader, document_part]
  have hmessage : t.message = signedText c := by
    rw [signedText, TokenText.message, TokenText.message, hheader, hpayload]
  have hrefused : w.checkSignature t = .error .invalidToken := by
    rw [checkSignature, hw]
    refine if_neg ?_
    rw [hsignature, hmessage]
    exact sharedSignature_ne htags
  simp [claims, htoken, hparts, hdocument, algorithm_of_header, hw, VerificationKey.algorithm,
    hrefused, expected, bind, Except.bind]

/-! ## Tokens that are read back -/

/-- **What becomes of a signed token**, if the expiries from an instant on have not passed: it is
read as the subject, with an address that the issuer does not call unverified; a subject of blanks
is nobody; and a token that has expired is refused. -/
structure ReadsBack (v : Verifier) (now : Int) (token : String) (c : Claims) (earliest : Int) :
    Prop where
  named : earliest ≤ c.expiry → (∃ ch ∈ c.subject.toList, Text.isBlank ch = false) →
    v.verify now token = .ok
      { userId := c.subject, email := if c.emailVerified = some false then none else c.email }
  blank : earliest ≤ c.expiry → (∀ ch ∈ c.subject.toList, Text.isBlank ch = true) →
    v.verify now token = .error .invalidToken
  expired : c.expiry < earliest → v.verify now token = .error .tokenExpired

/-- **A signed token carries the identity back.**  A verifier with a shared secret signs any claims
with an expiry from 1970 on, and no issuer but its own.  It reads the token back as long as the
expiry is not before the time less the tolerance, provided that this is no time before 1970; a
greater tolerance wraps around (`earliestExpiry_wraps`).  A verifier whose secret gives another tag
for the same text refuses the token. -/
theorem signed_claims_read_back (hkey : v.key = .shared secret)
    (hissued : Claims.IsTime c.issuedAt) (hexpiry : Claims.IsTime c.expiry)
    (hpositive : 0 ≤ c.expiry)
    (hissuer : ∀ wanted named, v.issuer = some wanted → c.issuer = some named → named = wanted)
    (now : Int) : ∃ token, v.sign c = .ok token ∧
      ((v.leeway : Int) ≤ now → now < 0x10000000000000000 →
        v.earliestExpiry now = now - v.leeway ∧ v.ReadsBack now token c (now - v.leeway)) ∧
      v.ReadsBack now token c (v.earliestExpiry now) ∧
      ∀ (w : Verifier) (other : List UInt8), w.key = .shared other →
        Crypto.Hmac.tag other (signedText c) ≠ Crypto.Hmac.tag secret (signedText c) →
          w.verify now token = .error .invalidToken := by
  obtain ⟨token, hsign⟩ := exists_sign hkey c
  obtain ⟨n, hn⟩ := Int.eq_ofNat_of_zero_le hpositive
  have hchecked := Claims.read_checked hissued hexpiry
  rw [hn] at hchecked
  obtain ⟨t, header, payload, hopens⟩ :=
    Opens.of_sign hsign (Claims.read_claims hissued hexpiry) hchecked
  have hverify : v.verify now token =
      (v.check now ⟨some n, c.issuer⟩).bind fun _ => c.identity := hopens.verify_eq
  have haccepted : v.earliestExpiry now ≤ c.expiry → v.verify now token = c.identity := by
    intro hlate
    have hcheck : v.check now ⟨some n, c.issuer⟩ = .ok () :=
      check_eq_ok_iff.2 ⟨⟨n, rfl, hn ▸ hlate⟩, hissuer⟩
    rw [hverify, hcheck]
    rfl
  have hread : v.ReadsBack now token c (v.earliestExpiry now) := by
    refine ⟨fun hlate hnamed => ?_, fun hlate hblank => ?_, fun hpassed => ?_⟩
    · rw [haccepted hlate, Claims.identity_of_named hnamed]
    · rw [haccepted hlate, Claims.identity_of_blank hblank]
    · have hcheck : v.check now ⟨some n, c.issuer⟩ = .error .tokenExpired :=
        check_of_passed rfl (hn ▸ hpassed)
      rw [hverify, hcheck]
      rfl
  refine ⟨token, hsign, fun hstart hend => ?_, hread, fun w other hother htags => ?_⟩
  · have hearliest := earliestExpiry_eq hstart hend
    exact ⟨hearliest, hearliest ▸ hread⟩
  · have hrefused : w.claims now token = .error .invalidToken :=
      claims_of_other_secret hsign hkey hother htags
    rw [verify, hrefused]
    rfl

/-- Claims with quotes, letters of several bytes and an address that is not verified. -/
def quotedClaims : Claims :=
  { subject := "\"Zoë\"\n", email := some "zoë@example.com", emailVerified := some false
    expiry := 2000, issuer := some "https://id" }

/-- A verifier signs such claims and reads their subject back. -/
theorem signed_claims_read_back_quoted : ∃ token, gate.sign quotedClaims = .ok token ∧
    gate.verify 1000 token = .ok { userId := "\"Zoë\"\n", email := none } ∧
    gate.verify 3000 token = .error .tokenExpired := by
  have hissuer : ∀ wanted named, gate.issuer = some wanted →
      quotedClaims.issuer = some named → named = wanted := by
    rintro wanted named ⟨⟩ ⟨⟩
    rfl
  have htime : Claims.IsTime quotedClaims.issuedAt := ⟨by decide, by decide⟩
  have htime' : Claims.IsTime quotedClaims.expiry := ⟨by decide, by decide⟩
  have hread := signed_claims_read_back (v := gate) rfl htime htime' (by decide) hissuer
  obtain ⟨token, hsign, hbefore, -⟩ := hread 1000
  obtain ⟨token', hsign', hafter, -⟩ := hread 3000
  cases hsign.symm.trans hsign'
  have hnamed := (hbefore (by decide) (by decide)).2.named (by decide) ⟨'Z', by decide, by decide⟩
  have hexpired := (hafter (by decide) (by decide)).2.expired (by decide)
  exact ⟨token, hsign, hnamed, hexpired⟩

end Verifier

end TenantGuard
