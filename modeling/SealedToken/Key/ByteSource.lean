import SealedToken.Key.Jwk

/-!
The stream of random bytes, read in order and never twice, and the secrets and nonces it feeds.
-/

set_option autoImplicit false

namespace SealedToken

/-- An endless byte stream and how much of it is used up. -/
structure ByteSource where
  byteAt : Nat → UInt8
  position : Nat

namespace ByteSource

/-- The given bytes, then zeros. -/
def ofBytes (bytes : Bytes) : ByteSource := ⟨fun i => bytes.getD i 0, 0⟩

def peek (source : ByteSource) (count : Nat) : Bytes :=
  (List.range count).map fun i => source.byteAt (source.position + i)

def advance (source : ByteSource) (count : Nat) : ByteSource :=
  { source with position := source.position + count }

theorem length_peek (source : ByteSource) (count : Nat) : (source.peek count).length = count := by
  simp [peek]

/-- A fresh symmetric key text of so many bits, whole bytes only. -/
def secret (source : ByteSource) (bits : Nat) : Text × ByteSource :=
  (Jwk.write (source.peek (bits / 8)), source.advance (bits / 8))

end ByteSource

/-- A number used once: twelve bytes. -/
structure Nonce where
  bytes : Bytes
  size : bytes.length = 12

/-- The next nonce. -/
def ByteSource.nonce (source : ByteSource) : Nonce := ⟨source.peek 12, source.length_peek 12⟩

/-- Every nonce is the next of some stream. -/
theorem ByteSource.nonce_ofBytes (nonce : Nonce) : (ofBytes nonce.bytes).nonce = nonce := by
  obtain ⟨bytes, size⟩ := nonce
  have same : (ofBytes bytes).peek 12 = bytes := by
    apply List.ext_getElem
    · rw [length_peek, size]
    · intro i _ within
      simp [peek, ofBytes, List.getElem?_eq_getElem within]
  simp only [ByteSource.nonce, same]

/-- What is left behind the next nonce. -/
def ByteSource.afterNonce (source : ByteSource) : ByteSource := source.advance 12

end SealedToken
