import SealedToken.Crypto.Hkdf
import SealedToken.Key.Jwk
import SealedToken.Text.Encoding

/-!
Secrets long enough to derive keys from, the keys derived from them for each issuer, and resolvers,
which answer for the key of an issuer.
-/

set_option autoImplicit false

namespace SealedToken

/-- A secret has at least sixteen bytes. -/
structure Secret where
  bytes : Bytes
  long : 16 ≤ bytes.length
  deriving DecidableEq

inductive SecretFault where
  | jwk (fault : Jwk.Fault)
  | notSymmetric
  | short
  | shortMaster
  deriving DecidableEq, Repr

def SecretFault.message : SecretFault → Text
  | .jwk fault => "Invalid JWK secret: " ++ fault.message
  | .notSymmetric => "Secret must be a symmetric key (kty=oct)"
  | .short => "Secret must be at least 16 bytes"
  | .shortMaster => "Master secret must be at least 16 bytes"

/-- Why no key is available for an issuer. -/
inductive KeyFault where
  | issuerRequired
  | unknownIssuer (issuer : Text)
  | unencodable (fault : EncodingFault)
  deriving DecidableEq, Repr

def KeyFault.message : KeyFault → Text
  | .issuerRequired => "Issuer is required to resolve a key"
  | .unknownIssuer issuer => "No key configured for issuer " ++ issuer
  | .unencodable fault => fault.message

structure Key where
  bytes : Bytes
  size : bytes.length = 32
  deriving DecidableEq

abbrev Resolver := Text → Except KeyFault Key

namespace Secret

def ofBytes? (bytes : Bytes) : Option Secret :=
  if long : 16 ≤ bytes.length then some ⟨bytes, long⟩ else none

def ofMaster (bytes : Bytes) : Except SecretFault Secret :=
  match ofBytes? bytes with
  | some secret => .ok secret
  | none => .error .shortMaster

/-- The secret of a symmetric key text. -/
def ofJwk (text : Text) : Except SecretFault Secret :=
  match Jwk.read text with
  | .error fault => .error (.jwk fault)
  | .ok (keyType, members) =>
    if keyType = .oct then
      match ofBytes? (Jwk.symmetricBytes members) with
      | some secret => .ok secret
      | none => .error .short
    else .error .notSymmetric

/-- The key bound to one issuer. -/
def keyFor (secret : Secret) (issuer : Text) : Key :=
  ⟨Hkdf.derive secret.bytes (Utf8.encode issuer), Hkdf.length_derive _ _⟩

/-- A key is derived from the UTF-8 form of the issuer, which must have one. -/
def derive (secret : Secret) (issuer : Text) : Except KeyFault Key :=
  match issuer.encodingFault? with
  | some fault => .error (.unencodable fault)
  | none => .ok (secret.keyFor issuer)

theorem derive_of_isEncodable (secret : Secret) {issuer : Text}
    (encodable : issuer.isEncodable = true) :
    secret.derive issuer = .ok (secret.keyFor issuer) := by
  rw [derive, Text.encodingFault?_eq_none_iff.mpr encodable]

/-- One secret answers for every issuer that has a name. -/
def resolver (secret : Secret) : Resolver := fun issuer =>
  if issuer.isEmpty then .error .issuerRequired else secret.derive issuer

end Secret

end SealedToken
