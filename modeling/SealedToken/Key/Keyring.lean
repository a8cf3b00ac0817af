import SealedToken.Key.Secret
import SealedToken.OrderedMap

/-!
A keyring: one secret for each of its issuers, in the order in which the issuers came, and beside it
the identifiers of the keys.
-/

set_option autoImplicit false

namespace SealedToken

/-- A key as it is configured. -/
structure KeyConfig where
  issuer : Text
  secretJwk : Text
  keyId : Option Text
  deriving DecidableEq, Repr

inductive KeyringFault where
  | issuerMissing
  | secret (fault : SecretFault)
  | entry (index : Nat) (fault : KeyringFault)
  deriving DecidableEq, Repr

def KeyringFault.message : KeyringFault → Text
  | .issuerMissing => "KeyConfig requires an issuer"
  | .secret fault => fault.message
  | .entry index fault =>
    "Invalid key at index " ++ Decimal.ofNat index ++ ": " ++ fault.message

/-- The secrets and the identifiers of the keys are kept apart, each under the issuers. -/
structure Keyring where
  secrets : OrderedMap Text Secret
  keyIds : OrderedMap Text (Option Text)

namespace Keyring

def empty : Keyring := ⟨.empty, .empty⟩

def issuers (ring : Keyring) : List Text := ring.secrets.keys

def size (ring : Keyring) : Nat := ring.secrets.size

def keyId (ring : Keyring) (issuer : Text) : Option Text := (ring.keyIds.find? issuer).join

/-- The keyring after adding a key, which needs an issuer and a usable secret. -/
def add (ring : Keyring) (config : KeyConfig) : Except KeyringFault Unit × Keyring :=
  if config.issuer.isEmpty then (.error .issuerMissing, ring)
  else
    match Secret.ofJwk config.secretJwk with
    | .error fault => (.error (.secret fault), ring)
    | .ok secret =>
      (.ok (), {
        secrets := ring.secrets.insert config.issuer secret
        keyIds := ring.keyIds.insert config.issuer config.keyId })

/-- Whether there was a key to remove, and the keyring after that. -/
def remove (ring : Keyring) (issuer : Text) : Bool × Keyring :=
  if ring.secrets.contains issuer then
    (true, { secrets := ring.secrets.erase issuer, keyIds := ring.keyIds.erase issuer })
  else (false, ring)

/-- Keys added one after the other; the first fault names its place in the list. -/
def addAll (ring : Keyring) (index : Nat) : List KeyConfig → Except KeyringFault Unit × Keyring
  | [] => (.ok (), ring)
  | config :: rest =>
    match ring.add config with
    | (.error fault, ring) => (.error (.entry index fault), ring)
    | (.ok (), ring) => ring.addAll (index + 1) rest

/-- Keys that cannot all be added make no keyring. -/
def ofConfigs (configs : List KeyConfig) : Except KeyringFault Keyring :=
  match empty.addAll 0 configs with
  | (.error fault, _) => .error fault
  | (.ok (), ring) => .ok ring

def resolver (ring : Keyring) : Resolver := fun issuer =>
  match ring.secrets.find? issuer with
  | none => .error (.unknownIssuer issuer)
  | some secret => secret.derive issuer

end Keyring

end SealedToken
