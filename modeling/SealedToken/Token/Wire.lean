import SealedToken.Payload
import SealedToken.Sealing
import SealedToken.Token.Basic

/-!
Token strings: the mark of the variant, then the sealed payload of the common fields and the parts.
Reading never looks at expiry, which is for the place of use to judge.
-/

set_option autoImplicit false

namespace SealedToken

namespace Wire

def commonCount : Nat := 5

def commonFields (common : Common) : Except Decimal.LimitExceeded (List Text) :=
  match Payload.disguise common.issuedAt with
  | .error exceeded => .error exceeded
  | .ok issuedAt =>
    match Decimal.write? common.lifespan with
    | .error exceeded => .error exceeded
    | .ok lifespan =>
      .ok [issuedAt, lifespan, common.subject.getD [], common.schema.getD [], common.issuer]

/-- The payload of common and extension fields. -/
def payload (common : Common) (extension : List Text) : Except SealFault Text :=
  match commonFields common with
  | .error exceeded => .error (.limit exceeded)
  | .ok fields =>
    match Payload.join (fields ++ extension) with
    | .error index => .error (.delimiter index)
    | .ok payload => .ok payload

/-- No key is asked for fields that make no payload. -/
def encode (mark : Text) (common : Common) (extension : List Text) (resolver : Resolver) :
    Draw SealFault Text :=
  match payload common extension with
  | .error fault => .fail fault
  | .ok payload => do
    let body ← Sealing.sealFor resolver common.issuer payload
    return mark ++ body

def fieldAt (fields : List Text) (index : Nat) : Except ParseFault Text :=
  match fields[index]? with
  | none => .error .fieldMissing
  | some field => .ok field

/-- The common fields and the extension fields of a record. -/
def readRecord (fields : List Text) : Except ParseFault (Common × List Text) := do
  let issuedAt ← Payload.restore (← fieldAt fields 0)
  let lifespan ← Payload.number Payload.lifespanField (← fieldAt fields 1)
  if lifespan = 0 then throw (.rejected (.notNumeric Payload.lifespanField))
  let subject ← fieldAt fields 2
  let schema ← fieldAt fields 3
  let issuer ← fieldAt fields 4
  return (⟨issuedAt, lifespan, absentIfEmpty (some subject), absentIfEmpty (some schema), issuer⟩,
    fields.drop commonCount)

def readPayload (payload : Text) (extensions : Int) : Except ParseFault (Common × List Text) :=
  match Payload.split payload (commonCount + extensions) with
  | .error fault => .error fault
  | .ok fields => readRecord fields

/-- The fields of a sealed body that opens under the key of the expected issuer. -/
def decode (body issuer : Text) (extensions : Int) (resolver : Resolver) :
    Attempt ParseFault (Common × List Text) := do
  let payload ← Sealing.unsealFor resolver issuer body
  .ofExcept (readPayload payload extensions)

end Wire

namespace Token

/-- The token string. -/
def encode (token : Token) (resolver : Resolver) : Draw SealFault Text :=
  match token.contents.fields token.variant.layout with
  | .error fault => .fail (.ofRole fault)
  | .ok extension => Wire.encode token.variant.mark token.common extension resolver

end Token

namespace Variant

/-- The token of a variant that fields stand for. -/
def tokenOf (variant : Variant) (common : Common) (extension : List Text) :
    Except ParseFault Token :=
  match Contents.empty.ofFields variant.layout extension with
  | .error fault => .error (.rejected (.badReference fault))
  | .ok contents =>
    match Token.make variant common contents with
    | .error (.reference fault) => .error (.rejected (.badReference fault))
    | .error fault => .error (.rejected (.badFields variant.title fault))
    | .ok token => .ok token

/-- A credential is text or nothing readable; the mark comes first, then the issuer, then the
seal. -/
def parse (variant : Variant) (resolver : Resolver) (credential issuer : Option Text) :
    Attempt ParseFault Token :=
  match credential.bind (Text.strip? variant.mark) with
  | none => .fail (.rejected (.wrongMark variant.title))
  | some body =>
    match absentIfEmpty issuer with
    | none => .fail (.rejected .issuerRequired)
    | some issuer => do
      let (common, extension) ← Wire.decode body issuer variant.extensionCount resolver
      .ofExcept (variant.tokenOf common extension)

end Variant

end SealedToken
