import SealedToken.Crypto.Sha256

/-!
HMAC and HKDF over SHA-256, with the empty salt. One expansion block is one key.
-/

set_option autoImplicit false

namespace SealedToken.Hkdf

def blockSize : Nat := 64

def hmac (key message : Bytes) : Bytes :=
  let key := if key.length ≤ blockSize then key else Sha256.digest key
  let key := key ++ List.replicate (blockSize - key.length) 0
  let inner := Sha256.digest (key.map (· ^^^ 0x36) ++ message)
  Sha256.digest (key.map (· ^^^ 0x5C) ++ inner)

/-- An absent salt stands for a block of zeros of the hash's size. -/
def extract (material : Bytes) : Bytes := hmac (List.replicate 32 0) material

/-- The first expansion block: 32 bytes bound to the given information. -/
def derive (material info : Bytes) : Bytes := hmac (extract material) (info ++ [1])

theorem length_derive (material info : Bytes) : (derive material info).length = 32 :=
  Sha256.length_digest _

end SealedToken.Hkdf
