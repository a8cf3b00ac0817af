import SealedToken.Crypto.Aes
import SealedToken.Crypto.Gcm
import SealedToken.Draw
import SealedToken.Token.Fault

/-!
Sealing payloads under the key of an issuer, which is also bound as associated data. A sealed
payload is the base64 text of nonce, ciphertext and tag. Failures to open one look the same, unless
the issuer has no UTF-8 form.
-/

set_option autoImplicit false

namespace SealedToken.Sealing

def nonceSize : Nat := 12

def cipher (key : Key) : Gcm.BlockCipher := Aes.encryptWith (Aes.roundKeys key.bytes)

def sealedBytes (key : Key) (associated plain : Bytes) (nonce : Nonce) : Bytes :=
  nonce.bytes ++ Gcm.encrypt (cipher key) nonce.bytes associated plain

/-- The sealed form of a payload, given texts that have a UTF-8 form. -/
def sealed (key : Key) (issuer payload : Text) (nonce : Nonce) : Text :=
  Base64.encode (sealedBytes key (Utf8.encode issuer) (Utf8.encode payload) nonce)

/-- The payload of sealed bytes under a key. -/
def unseal? (key : Key) (associated bytes : Bytes) : Option Text :=
  (Gcm.decrypt? (cipher key) (bytes.take nonceSize) associated (bytes.drop nonceSize)).bind
    Utf8.decode?

def askKey (resolver : Resolver) (issuer : Text) : Attempt KeyFault Key :=
  ⟨resolver issuer, [.keyAsked issuer]⟩

/-- The key is asked for, then the nonce is drawn, and only then the texts are encoded. -/
def sealFor (resolver : Resolver) (issuer payload : Text) : Draw SealFault Text := do
  let key ← .ofAttempt ((askKey resolver issuer).mapFault .key)
  let nonce ← Draw.nonce
  let plain ← .ofExcept ((Utf8.encode? payload).mapError .unencodable)
  let associated ← .ofExcept ((Utf8.encode? issuer).mapError .unencodable)
  return Base64.encode (sealedBytes key associated plain nonce)

/-- The bytes of a text that has the form of a sealed payload. -/
def wellFormed? (text : Text) : Option Bytes :=
  match Base64.decode? text with
  | none => none
  | some bytes => if nonceSize + Gcm.tagSize ≤ bytes.length then some bytes else none

/-- Why sealed bytes do not open. -/
inductive OpenFault where
  | key (fault : KeyFault)
  | unencodable (fault : EncodingFault)
  | garbled
  deriving DecidableEq, Repr

/-- The key is asked for before the issuer is encoded. -/
def openFor (resolver : Resolver) (issuer : Text) (bytes : Bytes) : Attempt OpenFault Text := do
  let key ← (askKey resolver issuer).mapFault .key
  let associated ← .ofExcept ((Utf8.encode? issuer).mapError .unencodable)
  match unseal? key associated bytes with
  | none => .fail .garbled
  | some payload => return payload

/-- A missing key and garbled bytes are noted and look the same. A fault of encoding passes. -/
def answerFor : OpenFault → Attempt ParseFault Text
  | .key (.unencodable fault) | .unencodable fault => .fail (.unencodable fault)
  | .key _ | .garbled => ⟨.error (.rejected .undecryptable), [.payloadRejected]⟩

/-- No key is asked for a text that has not the form of a sealed payload. -/
def unsealFor (resolver : Resolver) (issuer text : Text) : Attempt ParseFault Text :=
  match wellFormed? text with
  | none => .fail (.rejected .undecryptable)
  | some bytes => (openFor resolver issuer bytes).recover answerFor

end SealedToken.Sealing
