import SealedToken.Json.Reader
import SealedToken.Number.Shortest
import SealedToken.Text.Base64

/-!
Symmetric secrets as JSON Web Keys. A key text is read by the rules of its key type; only the
bytes of a symmetric key are kept.
-/

set_option autoImplicit false

namespace SealedToken.Jwk

inductive Fault where
  | unreadable
  | notAnObject (found : Text)
  | selfMember
  | unknownType (shown : Text)
  | unhashable (found : Text)
  | missing (parameter : Text)
  | notBase64 (parameter : Text)
  | notNumber (parameter : Text)
  | unsupported (parameter : Text)
  | algorithmMissing
  | unknownAlgorithm (shown : Text)
  | unsized (found : Text)
  | tooManyOperations
  | repeatedOperations
  | conflictingUse
  | foreign (parameter keyType : Text)
  deriving DecidableEq, Repr

/-- An unreadable text is refused without a reason. -/
def Fault.message : Fault → Text
  | .unreadable => []
  | .notAnObject found =>
    "jwcrypto.jwk.JWK.import_key() argument after ** must be a mapping, not " ++ found
  | .selfMember => "JWK.import_key() got multiple values for argument 'self'"
  | .unknownType shown =>
    "Unknown type \"" ++ shown ++ "\", valid types are: ['EC', 'RSA', 'oct', 'OKP', 'AKP']"
  | .unhashable found => "unhashable type: '" ++ found ++ "'"
  | .missing parameter => "Missing required value " ++ parameter
  | .notBase64 parameter => "\"" ++ parameter ++ "\" is not base64url encoded"
  | .notNumber parameter => "\"" ++ parameter ++ "\" is not Base64urlUInt encoded"
  | .unsupported parameter => "Unsupported parameter " ++ parameter
  | .algorithmMissing => "\"alg\" is required for AKP key type"
  | .unknownAlgorithm shown =>
    "Invalid \"alg\" for AKP key type: \"" ++ shown ++
      "\". Valid values: ['ML-DSA-44', 'ML-DSA-65', 'ML-DSA-87']"
  | .unsized found => "object of type '" ++ found ++ "' has no len()"
  | .tooManyOperations => "Unknown or duplicate \"key_ops\" values"
  | .repeatedOperations => "Duplicate values in \"key_ops\""
  | .conflictingUse => "Incompatible \"use\" and \"key_ops\" values specified at the same time"
  | .foreign parameter keyType =>
    "\"Cannot set '" ++ parameter ++ "' on '" ++ keyType ++ "' key type\""

inductive KeyType where
  | ec
  | rsa
  | oct
  | okp
  | akp
  deriving DecidableEq, Repr

/-- What a parameter holds. All but names are in base64. -/
inductive Form where
  | name
  /-- Bytes, in any number. -/
  | secret
  /-- At least one byte. -/
  | bytes
  /-- A number, of at least one byte. -/
  | number
  | unsupported
  deriving DecidableEq, Repr

structure Parameter where
  name : Text
  required : Bool
  form : Form

namespace KeyType

def all : List KeyType := [.ec, .rsa, .oct, .okp, .akp]

def name : KeyType → Text
  | .ec => "EC"
  | .rsa => "RSA"
  | .oct => "oct"
  | .okp => "OKP"
  | .akp => "AKP"

def parameters : KeyType → List Parameter
  | .ec => [⟨"crv", true, .name⟩, ⟨"x", true, .bytes⟩, ⟨"y", true, .bytes⟩, ⟨"d", false, .bytes⟩]
  | .rsa =>
    [⟨"n", true, .bytes⟩, ⟨"e", true, .number⟩, ⟨"d", false, .number⟩, ⟨"p", false, .number⟩,
      ⟨"q", false, .number⟩, ⟨"dp", false, .number⟩, ⟨"dq", false, .number⟩,
      ⟨"qi", false, .number⟩, ⟨"oth", false, .unsupported⟩]
  | .oct => [⟨"k", true, .secret⟩]
  | .okp => [⟨"crv", true, .name⟩, ⟨"x", true, .bytes⟩, ⟨"d", false, .bytes⟩]
  | .akp => [⟨"pub", true, .bytes⟩, ⟨"priv", false, .bytes⟩]

def owns (keyType : KeyType) (name : Text) : Bool :=
  keyType.parameters.any fun p => p.name = name

end KeyType

/-- The word for a value's type in messages. -/
def typeWord : Json → Text
  | .null => "NoneType"
  | .bool _ => "bool"
  | .int _ => "int"
  | .float _ => "float"
  | .str _ => "str"
  | .arr _ => "list"
  | .obj _ => "dict"

/-- The text of a scalar in messages. -/
def shownScalar : Json → Text
  | .bool value => if value then "True" else "False"
  | .int value => Decimal.ofInt value
  | .float value => Shortest.write value
  | .str value => value
  | _ => "None"

/-- A double equals an integer when it is exactly that integer. -/
def floatIsInt (x : Float) (n : Int) : Bool :=
  match Binary64.ofFloat x with
  | .finite negative mantissa exponent =>
    let signed : Int := if negative then -mantissa else mantissa
    if 0 ≤ exponent then signed * Binary64.twoTo exponent.toNat = n
    else signed = n * Binary64.twoTo (-exponent).toNat
  | _ => false

/-- Equality of scalars across their types: truth values are numbers, and one is one however it is
written. -/
def same : Json → Json → Bool
  | .null, .null => true
  | .str a, .str b => a = b
  | .bool a, .bool b => a = b
  | .bool a, .int b => (if a then 1 else 0) = b
  | .int a, .bool b => a = if b then 1 else 0
  | .bool a, .float b => floatIsInt b (if a then 1 else 0)
  | .float a, .bool b => floatIsInt a (if b then 1 else 0)
  | .int a, .int b => a = b
  | .int a, .float b => floatIsInt b a
  | .float a, .int b => floatIsInt a b
  | .float a, .float b => a == b || (a.isNaN && b.isNaN)
  | _, _ => false

def hasRepeat : List Json → Bool
  | [] => false
  | op :: rest => rest.any (same op) || hasRepeat rest

/-- The bytes of a parameter that must be text in base64. -/
def bytes? : Json → Option Bytes
  | .str text => if text.isEncodable then Base64.decodeLenient? text else none
  | _ => none

/-- Whether a value is in base64 and not empty. -/
def holdsBytes (value : Json) : Bool := (bytes? value).any (!·.isEmpty)

def Parameter.fault? (parameter : Parameter) : Option Json → Option Fault
  | none => if parameter.required then some (.missing parameter.name) else none
  | some value =>
    match parameter.form with
    | .name => none
    | .secret | .bytes =>
      if (bytes? value).isSome then none else some (.notBase64 parameter.name)
    | .number => if holdsBytes value then none else some (.notNumber parameter.name)
    | .unsupported => some (.unsupported parameter.name)

def checkParameters (members : List (Text × Json)) : List Parameter → Except Fault Unit
  | [] => .ok ()
  | parameter :: rest =>
    match parameter.fault? (Json.member? parameter.name members) with
    | some fault => .error fault
    | none => checkParameters members rest

/-- No parameter that must hold bytes is empty. -/
def checkFilled (members : List (Text × Json)) : List Parameter → Except Fault Unit
  | [] => .ok ()
  | parameter :: rest =>
    let empty := (Json.member? parameter.name members).any (!holdsBytes ·)
    if parameter.form = .bytes ∧ empty then .error (.notBase64 parameter.name)
    else checkFilled members rest

/-- The algorithms of keys whose type leaves the algorithm open. -/
def algorithms : List Text := ["ML-DSA-44", "ML-DSA-65", "ML-DSA-87"]

/-- A key of an open type names its algorithm. -/
def checkAlgorithm (keyType : KeyType) (members : List (Text × Json)) : Except Fault Unit :=
  if keyType = .akp then
    match (Json.member? "alg" members).getD .null with
    | .null => .error .algorithmMissing
    | .arr items => .error (.unhashable (typeWord (.arr items)))
    | .obj inner => .error (.unhashable (typeWord (.obj inner)))
    | value =>
      if algorithms.any fun name => same value (.str name) then .ok ()
      else .error (.unknownAlgorithm (shownScalar value))
  else .ok ()

def signing : List Text := ["sign", "verify"]

def encrypting : List Text :=
  ["encrypt", "decrypt", "wrapKey", "unwrapKey", "deriveKey", "deriveBits"]

/-- The use that a key operation belongs to. -/
def useOf (op : Json) : Text :=
  match op with
  | .str op =>
    if signing.contains op then "sig" else if encrypting.contains op then "enc" else "bad"
  | _ => "bad"

/-- The elements of a value that has a length. -/
def elements? : Json → Option (List Json)
  | .str text => some (text.map fun c => .str [c])
  | .arr items => some items
  | .obj members => some (members.map fun (name, _) => .str name)
  | _ => none

def isHashable : Json → Bool
  | .arr _ | .obj _ => false
  | _ => true

/-- At most eight operations, without repeats, and in accord with the declared use. -/
def checkOperations (members : List (Text × Json)) : Except Fault Unit :=
  match Json.member? "key_ops" members with
  | none => .ok ()
  | some value =>
    match elements? value with
    | none => .error (.unsized (typeWord value))
    | some ops =>
      if 8 < ops.length then .error .tooManyOperations
      else
        match ops.find? (!isHashable ·) with
        | some op => .error (.unhashable (typeWord op))
        | none =>
          if hasRepeat ops then .error .repeatedOperations
          else
            match Json.member? "use" members with
            | none => .ok ()
            | some use =>
              if ops.all fun op => same use (.str (useOf op)) then .ok ()
              else .error .conflictingUse

/-- Parameters of other key types are refused; unknown members are free. -/
def checkForeign (keyType : KeyType) : List (Text × Json) → Except Fault Unit
  | [] => .ok ()
  | (name, _) :: rest =>
    if !keyType.owns name && KeyType.all.any (·.owns name) then
      .error (.foreign name keyType.name)
    else checkForeign keyType rest

def keyType? (members : List (Text × Json)) : Except Fault KeyType :=
  let value := (Json.member? "kty" members).getD .null
  match value with
  | .arr _ | .obj _ => .error (.unhashable (typeWord value))
  | _ =>
    match KeyType.all.find? fun t => same value (.str t.name) with
    | some t => .ok t
    | none => .error (.unknownType (shownScalar value))

/-- The key type of a well-formed key and its members. -/
def read (text : Text) : Except Fault (KeyType × List (Text × Json)) :=
  match Json.read? text with
  | none => .error .unreadable
  | some (.obj members) => do
    if (Json.member? "self" members).isSome then throw .selfMember
    let keyType ← keyType? members
    checkParameters members keyType.parameters
    checkAlgorithm keyType members
    checkOperations members
    checkFilled members keyType.parameters
    checkForeign keyType members
    return (keyType, members)
  | some value => .error (.notAnObject (typeWord value))

/-- The bytes of a symmetric key. -/
def symmetricBytes (members : List (Text × Json)) : Bytes :=
  ((Json.member? "k" members).bind bytes?).getD []

/-- The text of a symmetric key. -/
def write (bytes : Bytes) : Text :=
  "\x7b\"k\":\"" ++ Base64.encode bytes ++ "\",\"kty\":\"oct\"\x7d"

end SealedToken.Jwk
