import TenantGuard.Auth.SignedToken
import TenantGuard.Proofs.Json.Record
import TenantGuard.Proofs.Text.Base64

/-!
# Which tokens a configured issuer refuses

* `issuer_agrees`: the claims of a token are read once for what they say and once for what is
  checked, and the issuer that is checked is the one that is said;
* `Verifier.Opens`: the key of a verifier fits a token, and the token says something;
  `claims_eq_ok_iff` makes acceptance of this and of the check;
* `Verifier.Opens.of_sign`: what a verifier signs, it opens;
* `Verifier.settings_refuse_other_issuers`: beside the key and the tolerance, settings refuse the
  tokens that name another issuer and no others.
-/

namespace TenantGuard

variable {j k : Json}

/-! ## Claims that are read twice -/

theorem Claims.issuer_of_ofJson? {c : Claims} (h : Claims.ofJson? j = some c) :
    c.issuer = (j.member? "iss").bind Json.text? := by
  simp only [Claims.ofJson?, Option.bind_eq_bind, Option.bind_eq_some_iff, Option.pure_def] at h
  obtain ⟨_, _, _, _, _, _, _, _, _, _, _, _, h⟩ := h
  cases h
  rfl

/-- **What is checked is what is said**: of a payload that holds claims and an expiry to check, the
issuer that is checked is that of the claims. -/
theorem issuer_agrees {payload : List UInt8} {c : Claims}
    (hj : Claims.shape.readWhole? payload = some j) (hc : Claims.ofJson? j = some c)
    (hk : CheckedClaims.shape.readWhole? payload = some k)
    (hexpiry : ∃ t, (CheckedClaims.ofJson k).expiry = some t) :
    (CheckedClaims.ofJson k).issuer = c.issuer := by
  obtain ⟨n, hj⟩ := Json.readShape_of_readWhole? hj
  obtain ⟨m, hk⟩ := Json.readShape_of_readWhole? hk
  obtain ⟨ts, hts | hts⟩ := Json.begins_of_readShape hj
  · -- an array begins with the subject, which is no expiry
    rw [hts] at hj hk
    rcases Json.first_of_array (by decide) hj with ⟨-, hdefaults⟩ | ⟨_, behind, _, hsub, -⟩
    · exact absurd hdefaults (by decide)
    obtain ⟨t, rfl, -⟩ := Json.text_of_readShape hsub
    rcases Json.first_of_array (by decide) hk with ⟨hend, -⟩ | ⟨_, _, w, hread, hw⟩
    · cases hend
    cases Json.plain_of_readShape rfl hread
    simp [CheckedClaims.ofJson, hw, Json.nat?] at hexpiry
  · -- an object gives the same value to both
    rw [hts] at hj hk
    obtain ⟨ms, hms, hclaims⟩ := Json.values_of_object (by decide) (by decide) hj
    obtain ⟨ms', hms', hchecked⟩ := Json.values_of_object (by decide) (by decide) hk
    cases hms.unique hms'
    obtain ⟨v, hv, hsaid⟩ := hclaims "iss" _ rfl
    obtain ⟨w, hw, hmeant⟩ := hchecked "iss" _ rfl
    have hsame : v = w := by
      generalize ms.lookup "iss" = here at hsaid hmeant
      cases hsaid with
      | absent hsaid =>
        cases hmeant with
        | absent hmeant => exact Option.some.inj (hsaid.symm.trans hmeant)
      | read hsaid => exact Json.Value.unique rfl rfl (.read hsaid) hmeant
    rw [Claims.issuer_of_ofJson? hc, CheckedClaims.ofJson, hv, hw, hsame]

/-! ## What is accepted -/

namespace Verifier

variable {v w : Verifier} {now : Int} {token : String} {c : Claims} {checked : CheckedClaims}

/-- **A token that a verifier opens**: it is signed with the key and says something, part of which
is to be checked. -/
structure Opens (v : Verifier) (token : String) (c : Claims) (checked : CheckedClaims)
    (t : TokenText) (header payload : List UInt8) : Prop where
  parts : TokenText.parse? token.toList = some t
  header_eq : document t.header = .ok header
  algorithm : (headerShape.readWhole? header).bind headerAlgorithm? = some v.key.algorithm
  signature : v.checkSignature t = .ok ()
  payload_eq : document t.payload = .ok payload
  claims_eq : (Claims.shape.readWhole? payload).bind Claims.ofJson? = some c
  checked_eq : (CheckedClaims.shape.readWhole? payload).map CheckedClaims.ofJson = some checked

theorem expected_eq_ok {α : Type} {o : Option α} {a : α} : expected o = .ok a ↔ o = some a := by
  cases o <;> simp [expected]

/-- **A token is accepted** that the verifier opens and the check lets through. -/
theorem claims_eq_ok_iff : v.claims now token = .ok c ↔ ∃ checked t header payload,
    v.Opens token c checked t header payload ∧ v.check now checked = .ok () := by
  constructor
  · intro h
    unfold claims at h
    split at h
    · cases h
    next t hparts =>
    obtain ⟨header, hheader, h⟩ := bind_eq_ok.1 h
    obtain ⟨algorithm, halgorithm, h⟩ := bind_eq_ok.1 h
    split at h
    · cases h
    next hkey =>
    obtain ⟨⟨⟩, hsignature, h⟩ := bind_eq_ok.1 h
    obtain ⟨payload, hpayload, h⟩ := bind_eq_ok.1 h
    obtain ⟨c', hclaims, h⟩ := bind_eq_ok.1 h
    obtain ⟨j, hj, h⟩ := bind_eq_ok.1 h
    obtain ⟨⟨⟩, hcheck, hdone⟩ := bind_eq_ok.1 h
    cases hdone
    refine ⟨_, t, header, payload, ⟨hparts, hheader, ?_, hsignature, hpayload,
      expected_eq_ok.1 hclaims, ?_⟩, hcheck⟩
    · rw [expected_eq_ok.1 halgorithm, Decidable.not_not.1 hkey]
    · rw [expected_eq_ok.1 hj, Option.map_some]
  · rintro ⟨checked, t, header, payload, h, hcheck⟩
    obtain ⟨j, hj, rfl⟩ := Option.map_eq_some_iff.1 h.checked_eq
    simp [claims, h.parts, h.header_eq, h.algorithm, h.signature, h.payload_eq, h.claims_eq, hj,
      expected, hcheck, bind, Except.bind, pure, Except.pure]

/-- The key is all that matters for opening. -/
theorem Opens.of_key {t : TokenText} {header payload : List UInt8} (hkey : w.key = v.key)
    (h : v.Opens token c checked t header payload) : w.Opens token c checked t header payload where
  parts := h.parts
  header_eq := h.header_eq
  algorithm := hkey ▸ h.algorithm
  signature := by
    have hsignature := h.signature
    unfold checkSignature at hsignature ⊢
    rw [hkey]
    exact hsignature
  payload_eq := h.payload_eq
  claims_eq := h.claims_eq
  checked_eq := h.checked_eq

/-- **The check asks for an expiry that has not passed**, and for the configured issuer of those
that name one. -/
theorem check_eq_ok_iff : v.check now checked = .ok () ↔
    (∃ t : Nat, checked.expiry = some t ∧ v.earliestExpiry now ≤ t) ∧
      ∀ wanted named, v.issuer = some wanted → checked.issuer = some named → named = wanted := by
  unfold check
  cases hexpiry : checked.expiry with
  | none => simp
  | some t =>
    by_cases hpassed : (t : Int) < v.earliestExpiry now
    · have hnot : ¬ v.earliestExpiry now ≤ t := Int.not_le.2 hpassed
      simp [hpassed, hnot]
    · simp only [hpassed, if_false, Option.some.injEq, exists_eq_left', Int.not_lt.1 hpassed,
        true_and]
      cases checked.issuer <;> cases v.issuer <;> simp

/-- The issuer that is checked is the one that is said. -/
theorem Opens.issuer_eq {t : TokenText} {header payload : List UInt8}
    (h : v.Opens token c checked t header payload) (hexpiry : ∃ t, checked.expiry = some t) :
    checked.issuer = c.issuer := by
  obtain ⟨j, hj, hc⟩ := Option.bind_eq_some_iff.1 h.claims_eq
  obtain ⟨k, hk, rfl⟩ := Option.map_eq_some_iff.1 h.checked_eq
  exact issuer_agrees hj hc hk hexpiry

/-- **A verifier that asks for an issuer** accepts what one accepts that does not, but for the
tokens that name another issuer. -/
theorem claims_eq_ok_iff_of_key (hkey : w.key = v.key) (hleeway : w.leeway = v.leeway)
    (hissuer : w.issuer = none) : v.claims now token = .ok c ↔ w.claims now token = .ok c ∧
      ∀ wanted named, v.issuer = some wanted → c.issuer = some named → named = wanted := by
  have hearliest : w.earliestExpiry now = v.earliestExpiry now := by
    rw [earliestExpiry, earliestExpiry, hleeway]
  simp only [claims_eq_ok_iff, check_eq_ok_iff, hearliest, hissuer]
  constructor
  · rintro ⟨checked, t, header, payload, h, hexpiry, hnamed⟩
    have hsame : checked.issuer = c.issuer := h.issuer_eq (hexpiry.imp fun _ ht => ht.1)
    exact ⟨⟨checked, t, header, payload, h.of_key hkey, hexpiry, by simp⟩, hsame ▸ hnamed⟩
  · rintro ⟨⟨checked, t, header, payload, h, hexpiry, -⟩, hnamed⟩
    have hsame : checked.issuer = c.issuer := h.issuer_eq (hexpiry.imp fun _ ht => ht.1)
    exact ⟨checked, t, header, payload, h.of_key hkey.symm, hexpiry, hsame ▸ hnamed⟩

end Verifier

/-! ## What is signed -/

namespace Text

/-- A text without marks is what stands before the first one. -/
theorem cut_of_not_mem {mark : Char} : ∀ {cs : List Char}, mark ∉ cs → ∀ rest : List Char,
    cut mark (cs ++ mark :: rest) = (cs, some rest)
  | [], _, rest => by simp [cut]
  | c :: cs, h, rest => by
    obtain ⟨hc, hcs⟩ := not_or.1 (mt List.mem_cons.2 h)
    rw [List.cons_append, cut, if_neg (Ne.symm hc), cut_of_not_mem hcs rest]

/-- **The last mark** is the one with no mark behind it. -/
theorem cutLast_of_not_mem {mark : Char} {after : List Char} (h : mark ∉ after)
    (before : List Char) : cutLast mark (before ++ mark :: after) = some (before, after) := by
  have hreverse : mark ∉ after.reverse := fun hmem => h (List.mem_reverse.1 hmem)
  have hmirror : (before ++ mark :: after).reverse = after.reverse ++ mark :: before.reverse := by
    simp
  rw [cutLast, hmirror, cut_of_not_mem hreverse]
  simp

end Text

/-- **A token is read in its parts** when the last two hold no point. -/
theorem TokenText.parse?_text {t : TokenText} (hpayload : '.' ∉ t.payload)
    (hsignature : '.' ∉ t.signature) : TokenText.parse? t.text = some t := by
  have hmessage := Text.cutLast_of_not_mem hsignature (t.header ++ '.' :: t.payload)
  have hheader := Text.cutLast_of_not_mem hpayload t.header
  simp only [parse?, text, hmessage, hheader, Option.bind_eq_bind, Option.bind_some,
    Option.pure_def]

namespace Verifier

variable {v w : Verifier} {now : Int} {token : String} {c said : Claims} {checked : CheckedClaims}

theorem document_part (j : Json) : document (part j) = .ok (Text.Utf8.bytes j.render) := by
  rw [document, part, Text.Base64.decode?_encode]

/-- The header of a signed token names its algorithm. -/
theorem algorithm_of_header :
    (headerShape.readWhole? (Text.Utf8.bytes header.render)).bind headerAlgorithm? =
      some "HS256" := by
  rw [Json.Shape.readWhole?, Json.scan_eq_scanWithin (Nat.le_refl _)]
  decide +kernel

/-- **A signed token** is its header, the claims and the signature of both under a shared secret. -/
theorem sign_eq_ok (h : v.sign c = .ok token) : ∃ secret, v.key = .shared secret ∧
    ∃ t : TokenText, token.toList = t.text ∧ t.header = part header ∧ t.payload = part c.toJson ∧
      t.signature = sharedSignature secret t.message := by
  unfold sign at h
  split at h
  · cases h
  next secret hkey =>
    -- what the two parts are written with does not matter here
    generalize part header = front, part c.toJson = back at h ⊢
    rw [← Except.ok.inj h]
    exact ⟨secret, hkey, _, String.toList_ofList, rfl, rfl, rfl⟩

/-- Who knows the secret signs any claims. -/
theorem exists_sign {secret : List UInt8} (hkey : v.key = .shared secret) (c : Claims) :
    ∃ token, v.sign c = .ok token := by
  unfold sign
  rw [hkey]
  exact ⟨_, rfl⟩

/-- **What a verifier signs, it opens**, with the claims that are read from what it wrote. -/
theorem Opens.of_sign (h : v.sign c = .ok token)
    (hsaid : (Claims.shape.readWhole? (Text.Utf8.bytes c.toJson.render)).bind Claims.ofJson? =
      some said)
    (hchecked : (CheckedClaims.shape.readWhole? (Text.Utf8.bytes c.toJson.render)).map
      CheckedClaims.ofJson = some checked) :
    ∃ t header payload, v.Opens token said checked t header payload := by
  obtain ⟨secret, hkey, t, htoken, hheader, hpayload, hsignature⟩ := sign_eq_ok h
  have hparts : TokenText.parse? t.text = some t := TokenText.parse?_text
    (hpayload ▸ Text.Base64.dot_not_mem_encode _) (hsignature ▸ Text.Base64.dot_not_mem_encode _)
  exact ⟨t, Text.Utf8.bytes header.render, Text.Utf8.bytes c.toJson.render,
    { parts := htoken ▸ hparts
      header_eq := by rw [hheader, document_part]
      algorithm := by rw [algorithm_of_header, hkey, VerificationKey.algorithm]
      signature := by rw [checkSignature, hkey]; exact if_pos hsignature
      payload_eq := by rw [hpayload, document_part]
      claims_eq := hsaid
      checked_eq := hchecked }⟩

end Verifier

/-! ## What settings come to -/

namespace Verifier

variable {v : Verifier} {token : String}

/-- **The key does not depend on the issuer and the audience** that are configured. -/
theorem ofSettings_eq_ok {s : TokenSettings} (h : ofSettings s = .ok v) :
    v = ⟨v.key, s.issuer, s.audience, s.leeway⟩ ∧ ∀ issuer audience,
      ofSettings { s with issuer, audience } = .ok ⟨v.key, issuer, audience, s.leeway⟩ := by
  unfold ofSettings at h ⊢
  split at h
  next halgorithm =>
    split at h
    next secret hsecret =>
      cases h
      exact ⟨rfl, fun _ _ => by simp [halgorithm, hsecret, pure, Except.pure, bind, Except.bind]⟩
    · cases h
  next hother =>
  split at h
  next halgorithm =>
    split at h
    · cases h
    next pem hpem =>
    split at h
    next der hder =>
      cases h
      exact ⟨rfl, fun _ _ => by
        simp [halgorithm, hpem, hder, pure, Except.pure, bind, Except.bind]⟩
    · cases h
  · cases h

/-- **Settings refuse the tokens that name another issuer**: a verifier accepts what the verifier of
the same settings accepts without an issuer and an audience, but for those tokens. -/
theorem settings_refuse_other_issuers {s : TokenSettings} {plain : Verifier}
    (hv : ofSettings s = .ok v)
    (hplain : ofSettings { s with issuer := none, audience := none } = .ok plain)
    (now : Int) (token : String) (i : Identity) :
    v.verify now token = .ok i ↔ ∃ c, plain.claims now token = .ok c ∧ c.identity = .ok i ∧
      ∀ wanted named, s.issuer = some wanted → c.issuer = some named → named = wanted := by
  obtain ⟨heq, hsettings⟩ := ofSettings_eq_ok hv
  cases (hsettings none none).symm.trans hplain
  have hissuer : v.issuer = s.issuer := by rw [heq]
  have hleeway : s.leeway = v.leeway := by rw [heq]
  have hclaims : ∀ c, v.claims now token = .ok c ↔ _ := fun c =>
    claims_eq_ok_iff_of_key (w := ⟨v.key, none, none, s.leeway⟩) rfl hleeway rfl
  rw [verify, bind_eq_ok]
  refine exists_congr fun c => ?_
  rw [hclaims, hissuer, and_assoc, and_comm (b := c.identity = _)]

/-- Settings that ask for an issuer and an audience. -/
def gateSettings : TokenSettings :=
  { secret := some "s", issuer := some "https://id", audience := some "gate" }

def gate : Verifier :=
  { key := .shared (Text.Utf8.bytes "s"), issuer := some "https://id", audience := some "gate",
    leeway := 30 }

/-- What a token says that is meant for another service. -/
def claimsForAnother (issuer : Option String) : Claims :=
  { subject := "ann", expiry := 2000, issuer, audience := some "other" }

/-- **What is signed for another service is accepted** as long as its issuer is not refused. -/
theorem claims_of_sign_forAnother {issuer : Option String} (hcase : issuer ∈ [none, some "other"])
    (hsign : v.sign (claimsForAnother issuer) = .ok token) (hleeway : v.leeway = 30)
    (hissuer : v.issuer = none ∨ issuer = none) :
    v.claims 1000 token = .ok (claimsForAnother issuer) := by
  have hread : ∀ issuer ∈ [none, some "other"],
      (Claims.shape.readWhole? (Text.Utf8.bytes (claimsForAnother issuer).toJson.render)).bind
        Claims.ofJson? = some (claimsForAnother issuer) ∧
      (CheckedClaims.shape.readWhole?
        (Text.Utf8.bytes (claimsForAnother issuer).toJson.render)).map CheckedClaims.ofJson =
          some ⟨some 2000, issuer⟩ := by
    simp only [Json.Shape.readWhole?, Json.scan_eq_scanWithin (Nat.le_refl _)]
    decide +kernel
  obtain ⟨hsaid, hchecked⟩ := hread issuer hcase
  obtain ⟨t, header, payload, h⟩ := Opens.of_sign hsign hsaid hchecked
  refine claims_eq_ok_iff.2 ⟨_, t, header, payload, h, check_eq_ok_iff.2 ⟨⟨2000, rfl, ?_⟩, ?_⟩⟩
  · rw [earliestExpiry, hleeway]
    decide
  · rintro wanted named hwanted hnamed
    rcases hissuer with hissuer | rfl
    · cases hissuer.symm.trans hwanted
    · cases hnamed

/-- A token of another issuer is refused, and the verifier without an issuer accepts it. -/
theorem settings_refuse_other_issuers_signed : ∃ v plain token,
    ofSettings gateSettings = .ok v ∧
    ofSettings { gateSettings with issuer := none, audience := none } = .ok plain ∧
    plain.claims 1000 token = .ok (claimsForAnother (some "other")) ∧
    ∀ i, v.verify 1000 token ≠ .ok i := by
  have hv : ofSettings gateSettings = .ok gate := rfl
  have hplain : ofSettings { gateSettings with issuer := none, audience := none } =
    .ok { gate with issuer := none, audience := none } := rfl
  obtain ⟨token, hsign⟩ := exists_sign (v := { gate with issuer := none, audience := none }) rfl
    (claimsForAnother (some "other"))
  have hclaims := claims_of_sign_forAnother (by simp) hsign rfl (.inl rfl)
  refine ⟨gate, _, token, hv, hplain, hclaims, fun i h => ?_⟩
  obtain ⟨c, hc, -, hissuer⟩ := (settings_refuse_other_issuers hv hplain 1000 token i).1 h
  cases hclaims.symm.trans hc
  exact absurd (hissuer _ _ rfl rfl) (by decide)

/-- **A configured audience is not asked for**, and neither is an issuer of a token that names
none. -/
theorem accepts_claims_for_another : ∃ v token, ofSettings gateSettings = .ok v ∧
    v.claims 1000 token = .ok { subject := "ann", expiry := 2000, audience := some "other" } ∧
    v.verify 1000 token = .ok { userId := "ann", email := none } := by
  obtain ⟨token, hsign⟩ := exists_sign (v := gate) rfl (claimsForAnother none)
  have hclaims := claims_of_sign_forAnother (by simp) hsign rfl (.inr rfl)
  exact ⟨gate, token, rfl, hclaims, by rw [verify, hclaims]; rfl⟩

end Verifier

end TenantGuard
