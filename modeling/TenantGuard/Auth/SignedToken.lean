import TenantGuard.Auth.Identity
import TenantGuard.Auth.KeyDescription
import TenantGuard.Crypto.Hmac
import TenantGuard.Crypto.Rsa
import TenantGuard.Fault
import TenantGuard.Json.Printer
import TenantGuard.Json.Shape
import TenantGuard.Text.Utf8

/-!
# Signed tokens

A JSON Web Token is three base64url texts between points: a header, the claims and a signature of
the first two.

* `Verifier.ofSettings` chooses the key: a shared secret (HS256) or an RSA public key (RS256);
* `Verifier.claims` reads the claims of a token after checking its signature, then its expiry and
  its issuer;
* `Verifier.sign` writes a token; only who knows the shared secret can.
-/

namespace TenantGuard

open Text (Base64.encode Base64.decode? Base64.urlSafe)

/-! ## Claims -/

/-- **What a token says.**  Times are in seconds since 1970. -/
structure Claims where
  subject : String
  email : Option String := none
  emailVerified : Option Bool := none
  issuedAt : Int := 0
  expiry : Int
  issuer : Option String := none
  audience : Option String := none
  deriving DecidableEq, Repr, Inhabited

namespace Claims

/-- The integers that a time may be. -/
def time : Json.Shape := .integer (-0x8000000000000000) 0x7FFFFFFFFFFFFFFF

def maybe (s : Json.Shape) : Json.Shape := .defaulting (.optional s) .null

/-- The claims in their order. -/
def shape : Json.Shape :=
  .record
    [("sub", .text), ("email", maybe .text), ("email_verified", maybe .boolean),
     ("iat", .defaulting time (.ofNat 0)), ("exp", time), ("iss", maybe .text),
     ("aud", maybe .text)]

def integer : Int → Json
  | .ofNat n => .number (.natural n)
  | .negSucc n => .number (.negative (n + 1))

def toJson (c : Claims) : Json :=
  .object (Json.present
    [("sub", some (.text c.subject)), ("email", c.email.map .text),
     ("email_verified", c.emailVerified.map .boolean), ("iat", some (integer c.issuedAt)),
     ("exp", some (integer c.expiry)), ("iss", c.issuer.map .text), ("aud", c.audience.map .text)])

def integer? : Json → Option Int
  | .number n => n.toInt?
  | _ => none

/-- The claims in a document of their shape. -/
def ofJson? (j : Json) : Option Claims := do
  return {
    subject := ← (← j.member? "sub").text?
    email := (j.member? "email").bind Json.text?
    emailVerified := (j.member? "email_verified").bind Json.bool?
    issuedAt := ← integer? (← j.member? "iat")
    expiry := ← integer? (← j.member? "exp")
    issuer := (j.member? "iss").bind Json.text?
    audience := (j.member? "aud").bind Json.text? }

/-- **Whom the claims speak of.**  A subject of blanks is nobody, and an address that the issuer has
not verified does not count. -/
def identity (c : Claims) : Except Refusal Identity :=
  if Text.allBlank c.subject then .error .invalidToken
  else .ok
    { userId := c.subject
      email := if c.emailVerified = some false then none else c.email }

end Claims

/-- **The claims that are checked.**  They are read on their own: by name from an object, by place
from an array. -/
structure CheckedClaims where
  expiry : Option Nat
  issuer : Option String
  deriving DecidableEq, Repr

namespace CheckedClaims

def shape : Json.Shape :=
  .record
    [("exp", .defaulting .plain .null), ("nbf", .defaulting .plain .null),
     ("sub", .optional .plain), ("iss", .optional .plain), ("aud", .optional .plain)]

def ofJson (j : Json) : CheckedClaims :=
  { expiry := (j.member? "exp").bind Json.nat?
    issuer := (j.member? "iss").bind Json.text? }

end CheckedClaims

/-! ## Headers -/

/-- The signature algorithms that a header may name. -/
def knownAlgorithms : List String :=
  ["HS256", "HS384", "HS512", "ES256", "ES384", "RS256", "RS384", "RS512", "PS256", "PS384",
   "PS512", "EdDSA"]

def headerShape : Json.Shape :=
  .record
    [("typ", .optional .text), ("alg", .oneOf knownAlgorithms), ("cty", .optional .text),
     ("jku", .optional .text), ("jwk", .optional .anyObject), ("kid", .optional .text),
     ("x5u", .optional .text), ("x5c", .optional (.listOf .text)), ("x5t", .optional .text),
     ("x5t#S256", .optional .text)]

/-- The algorithm that a header names.  A key that it describes must be described as a key. -/
def headerAlgorithm? (header : Json) : Option String := do
  match header.member? "jwk" with
  | none | some .null => (← header.member? "alg").text?
  | some key => if isKeyDescription key then (← header.member? "alg").text? else none

/-! ## Verification -/

/-- **What signatures are checked with.** -/
inductive VerificationKey where
  | shared (secret : List UInt8)
  | rsa (key : List UInt8)
  deriving DecidableEq, Repr

namespace VerificationKey

/-- The algorithm that goes with a key. -/
def algorithm : VerificationKey → String
  | shared _ => "HS256"
  | rsa _ => "RS256"

end VerificationKey

/-- **What a verifier is made from.** -/
structure TokenSettings where
  algorithm : String := "HS256"
  secret : Option String := none
  publicKeyPem : Option String := none
  issuer : Option String := none
  audience : Option String := none
  /-- The tolerance for clocks that differ, in seconds. -/
  leeway : Nat := 30
  deriving DecidableEq, Repr, Inhabited

/-- **What decides on tokens.** -/
structure Verifier where
  key : VerificationKey
  issuer : Option String
  /-- Kept from the settings; no token is refused for its audience. -/
  audience : Option String
  leeway : Nat
  deriving DecidableEq, Repr

/-- **A token in its parts**, as they are written. -/
structure TokenText where
  header : List Char
  payload : List Char
  signature : List Char
  deriving DecidableEq, Repr

namespace TokenText

/-- The parts of a token, at its last two points. -/
def parse? (token : List Char) : Option TokenText := do
  let (message, signature) ← Text.cutLast '.' token
  let (header, payload) ← Text.cutLast '.' message
  return { header, payload, signature }

/-- What the signature is made of. -/
def message (t : TokenText) : List UInt8 := Text.Utf8.encode (t.header ++ '.' :: t.payload)

def text (t : TokenText) : List Char := t.header ++ '.' :: t.payload ++ '.' :: t.signature

end TokenText

namespace Verifier

/-- Chooses the key; fails without the key that the algorithm needs. -/
def ofSettings (s : TokenSettings) : Except Fault Verifier := do
  let key : VerificationKey ←
    if s.algorithm = "HS256" then
      match s.secret with
      | some secret => pure (.shared (Text.Utf8.bytes secret))
      | none => throw (.configuration "JWT secret required for HS256")
    else if s.algorithm = "RS256" then
      match s.publicKeyPem with
      | none => throw (.configuration "JWT public key required for RS256")
      | some pem =>
        match Crypto.Rsa.keyOfPem pem with
        | .ok der => pure (.rsa der)
        | .error e => throw (.configuration ("Invalid RSA public key: " ++ e.name))
    else throw (.configuration ("Unsupported JWT algorithm: " ++ s.algorithm))
  return { key, issuer := s.issuer, audience := s.audience, leeway := s.leeway }

/-- The bytes of a part of a token. -/
def document (part : List Char) : Except Refusal (List UInt8) :=
  match Base64.decode? Base64.urlSafe part with
  | some bytes => .ok bytes
  | none => .error (.malformedToken "Base64 error")

/-- A value that must be there, or else the document is not what it should be. -/
def expected {α : Type} (o : Option α) : Except Refusal α :=
  match o with
  | some a => .ok a
  | none => .error (.malformedToken "JSON error")

/-- The signature of a message under a shared secret, as it is written. -/
def sharedSignature (secret message : List UInt8) : List Char :=
  Base64.encode Base64.urlSafe (Crypto.Hmac.tag secret message)

/-- A tag is compared as it is written; an RSA signature must be readable. -/
def checkSignature (v : Verifier) (t : TokenText) : Except Refusal Unit :=
  match v.key with
  | .shared secret =>
    if t.signature = sharedSignature secret t.message then .ok () else .error .invalidToken
  | .rsa der =>
    match Base64.decode? Base64.urlSafe t.signature with
    | none => .error (.malformedToken "Base64 error")
    | some signature =>
      match Crypto.Rsa.PublicKey.ofDer? der with
      | some key => if key.verifies t.message signature then .ok () else .error .invalidToken
      | none => .error .invalidToken

/-- The earliest expiry that counts as not passed.  Times are numbers of 64 bits: a tolerance that
reaches behind 1970 leads to the end of time. -/
def earliestExpiry (v : Verifier) (now : Int) : Int := (now - v.leeway) % 0x10000000000000000

/-- There must be an expiry that has not passed, and an issuer must be the configured one.  A token
that names no issuer passes. -/
def check (v : Verifier) (now : Int) (c : CheckedClaims) : Except Refusal Unit :=
  match c.expiry with
  | none => .error (.malformedToken "Missing required claim")
  | some t =>
    if (t : Int) < v.earliestExpiry now then .error .tokenExpired
    else match c.issuer, v.issuer with
      | some i, some wanted =>
        if i = wanted then .ok () else .error (.malformedToken "InvalidIssuer")
      | _, _ => .ok ()

/-- **The claims of a token that holds at the time `now`.** -/
def claims (v : Verifier) (now : Int) (token : String) : Except Refusal Claims :=
  match TokenText.parse? token.toList with
  | none => .error .invalidToken
  | some t => do
    let header ← document t.header
    let algorithm ← expected ((headerShape.readWhole? header).bind headerAlgorithm?)
    if algorithm ≠ v.key.algorithm then throw (.malformedToken "InvalidAlgorithm")
    v.checkSignature t
    let payload ← document t.payload
    let c ← expected ((Claims.shape.readWhole? payload).bind Claims.ofJson?)
    v.check now (.ofJson (← expected (CheckedClaims.shape.readWhole? payload)))
    return c

/-- **The identity that a token stands for.** -/
def verify (v : Verifier) (now : Int) (token : String) : Except Refusal Identity := do
  (← v.claims now token).identity

/-! ## Signing -/

/-- The header of a token that is signed with a shared secret. -/
def header : Json := .object [("typ", .text "JWT"), ("alg", .text "HS256")]

/-- A document as a part of a token. -/
def part (j : Json) : List Char := Base64.encode Base64.urlSafe (Text.Utf8.bytes j.render)

/-- **Signs claims.** -/
def sign (v : Verifier) (c : Claims) : Except Refusal String :=
  match v.key with
  | .rsa _ => .error (.internal "JWT encoding key not configured")
  | .shared secret =>
    let unsigned : TokenText := ⟨part header, part c.toJson, []⟩
    .ok (String.ofList
      { unsigned with signature := sharedSignature secret unsigned.message : TokenText }.text)

end Verifier

end TenantGuard
