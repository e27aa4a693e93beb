import TenantGuard.Crypto.Sha256

/-!
# Keyed hashing

HMAC with SHA-256: a tag of a message that only who holds the key can make.
-/

namespace TenantGuard.Crypto.Hmac

/-- The key as one block: a long key is hashed first, a short one filled up with zeros. -/
def keyBlock (key : List UInt8) : List UInt8 :=
  let key := if 64 < key.length then Sha256.hash key else key
  key ++ List.replicate (64 - key.length) 0

/-- **The tag of a message** under a key. -/
def tag (key message : List UInt8) : List UInt8 :=
  let block := keyBlock key
  Sha256.hash (block.map (· ^^^ 0x5c) ++ Sha256.hash (block.map (· ^^^ 0x36) ++ message))

end TenantGuard.Crypto.Hmac
