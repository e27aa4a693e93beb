import TenantGuard.Crypto.Der
import TenantGuard.Crypto.Pem
import TenantGuard.Crypto.Sha256

/-!
# RSA signatures

Verification of signatures by RSASSA-PKCS1-v1_5 with SHA-256.

* `Rsa.keyOfPem` finds the key's bytes in a PEM document;
* `PublicKey.ofDer?` reads modulus and exponent from them;
* `PublicKey.verifies` checks a signature: raised to the exponent it must give the padded hash of
  the message.
-/

namespace TenantGuard.Crypto.Rsa

/-! ## Keys -/

/-- The object identifier of RSA encryption. -/
def rsaId : List Nat := [1, 2, 840, 113549, 1, 1, 1]

/-- The object identifiers that say what a key is for: RSA, elliptic curves, Ed25519. -/
def knownIds : List (List Nat) := [rsaId, [1, 2, 840, 10045, 2, 1], [1, 3, 101, 112]]

/-- The labels of documents that wrap a key and say what it is for. -/
def wrapped : List String := ["PRIVATE KEY", "PUBLIC KEY", "CERTIFICATE"]

/-- The labels of documents that hold an RSA key as it is. -/
def bare : List String := ["RSA PRIVATE KEY", "RSA PUBLIC KEY"]

/-- **Why a PEM document gives no key.** -/
inductive KeyFault where
  /-- It is no document of blocks that holds an RSA key. -/
  | badFormat
  /-- It says that it holds an RSA key, but there is none in it. -/
  | noKey
  deriving DecidableEq, Repr

/-- The names of these faults. -/
def KeyFault.name : KeyFault → String
  | badFormat => "InvalidKeyFormat"
  | noKey => "InvalidEcdsaKey"

/-- **The bytes of the RSA key in a PEM document.** -/
def keyOfPem (s : String) : Except KeyFault (List UInt8) := do
  let pem ← (Pem.parse? s).elim (.error .badFormat) .ok
  let blocks ← (Der.blocks? pem.contents).elim (.error .badFormat) .ok
  let label := String.ofList pem.label
  if bare.contains label then return pem.contents
  else if wrapped.contains label &&
      (Der.objectIdsOf blocks).find? knownIds.contains == some rsaId then
    (Der.stringsOf blocks).head?.elim (.error .noKey) .ok
  else throw .badFormat

/-- **A public key.** -/
structure PublicKey where
  modulus : Nat
  exponent : Nat
  deriving DecidableEq, Repr

namespace PublicKey

/-- The bytes of a positive integer in their shortest form. -/
def positive? (bytes : List UInt8) : Option Nat :=
  match bytes with
  | [] => none
  | [b] => if b = 0 ∨ 128 ≤ b.toNat then none else some b.toNat
  | b :: c :: rest =>
    if 128 ≤ b.toNat ∨ (b = 0 ∧ c.toNat < 128) then none
    else some (Der.bigEndianValue (b :: c :: rest))

/-- The width of a number in bits. -/
def bitLength (n : Nat) : Nat := if n = 0 then 0 else n.log2 + 1

/-- The length of a signature in bytes. -/
def size (k : PublicKey) : Nat := (bitLength k.modulus + 7) / 8

/-- Keys that may be used: odd, of 2048 to 8192 bits counted in whole bytes, with an odd exponent
from 3 below `2 ^ 33`. -/
def isUsable (k : PublicKey) : Bool :=
  256 ≤ k.size && k.size ≤ 1024 && k.modulus % 2 == 1 && 3 ≤ k.exponent &&
    k.exponent < Nat.pow 2 33 && k.exponent % 2 == 1

/-- Reads a key: a sequence of the modulus and the exponent, and nothing else. -/
def ofDer? (bytes : List UInt8) : Option PublicKey := do
  let (contents, []) ← Der.element? 0x30 bytes | none
  let (n, rest) ← Der.element? 0x02 contents
  let (e, []) ← Der.element? 0x02 rest | none
  let key : PublicKey := ⟨← positive? n, ← positive? e⟩
  if key.isUsable then some key else none

end PublicKey

/-! ## Signatures -/

/-- Raises to a power, modulo `m`. -/
def powMod (base exponent m : Nat) : Nat :=
  if exponent = 0 then 1 % m
  else
    let half := powMod (base * base % m) (exponent / 2) m
    if exponent % 2 = 1 then base * half % m else half
termination_by exponent
decreasing_by omega

/-- What precedes a SHA-256 hash and names the hash function. -/
def hashLabel : List UInt8 :=
  [0x30, 0x31, 0x30, 0x0d, 0x06, 0x09, 0x60, 0x86, 0x48, 0x01, 0x65, 0x03, 0x04, 0x02, 0x01, 0x05,
   0x00, 0x04, 0x20]

/-- The hash of a message, labelled and filled up to a signature's length. -/
def encoded (size : Nat) (message : List UInt8) : List UInt8 :=
  let tail := hashLabel ++ Sha256.hash message
  0x00 :: 0x01 :: List.replicate (size - 3 - tail.length) 0xff ++ 0x00 :: tail

/-- **Whether a signature of a message was made with the key's other half.** -/
def PublicKey.verifies (k : PublicKey) (message signature : List UInt8) : Bool :=
  let s := Der.bigEndianValue signature
  signature.length == k.size && s < k.modulus &&
    Sha256.bigEndian k.size (powMod s k.exponent k.modulus) == encoded k.size message

end TenantGuard.Crypto.Rsa
