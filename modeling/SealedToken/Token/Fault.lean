import SealedToken.Number.Decimal
import SealedToken.Number.Binary64
import SealedToken.Role
import SealedToken.Key.Secret

/-!
Why a token is not made, not sealed, or not read. Each fault is a cause; its text is derived.
-/

set_option autoImplicit false

namespace SealedToken

/-- A clock reading that is no instant. -/
inductive ClockFault where
  | infinite
  | notANumber
  deriving DecidableEq, Repr

def ClockFault.message : ClockFault → Text
  | .infinite => "cannot convert float infinity to integer"
  | .notANumber => "cannot convert float NaN to integer"

/-- The current time in whole milliseconds, from a clock in seconds. -/
def nowMillis (clock : Float) : Except ClockFault Int :=
  match Binary64.ofFloat (clock * 1000) with
  | .infinite _ => .error .infinite
  | .notANumber => .error .notANumber
  | .finite negative mantissa exponent =>
    let magnitude : Int := Binary64.truncated mantissa exponent
    .ok (if negative then -magnitude else magnitude)

/-- The given time, or that of the clock. -/
def instantOr (clock : Float) : Option Int → Except ClockFault Int
  | some instant => .ok instant
  | none => nowMillis clock

/-- Why a token cannot be made from what is asked for. -/
inductive FormFault where
  | clock (fault : ClockFault)
  | unexpected (call argument : Text)
  | negativeIssuedAt
  | lifespanNotPositive
  | issuerRequired
  | invalidScope (item : Text)
  | notARole (found : Text)
  | reference (fault : ReferenceFault)
  deriving DecidableEq, Repr

def FormFault.message : FormFault → Text
  | .clock fault => fault.message
  | .unexpected call argument =>
    call ++ "() got an unexpected keyword argument '" ++ argument ++ "'"
  | .negativeIssuedAt => "issued_at must be >= 0"
  | .lifespanNotPositive => "lifespan must be > 0"
  | .issuerRequired => "issuer is required"
  | .invalidScope item => "Invalid scope value: " ++ Text.quoted item
  | .notARole found => "Expected Role, got " ++ found
  | .reference fault => fault.message

/-- Why a token cannot be sealed. -/
inductive SealFault where
  | reference (fault : ReferenceFault)
  | limit (exceeded : Decimal.LimitExceeded)
  | delimiter (index : Nat)
  | key (fault : KeyFault)
  | unencodable (fault : EncodingFault)
  deriving DecidableEq, Repr

/-- A role without an entry keeps a token from being sealed. -/
def SealFault.ofRole : RoleFault → SealFault
  | .reference fault => .reference fault
  | .unencodable fault => .unencodable fault

def SealFault.message : SealFault → Text
  | .reference fault => fault.message
  | .limit exceeded => exceeded.message
  | .delimiter index => "Field " ++ Decimal.ofNat index ++ " contains the reserved delimiter"
  | .key fault => fault.message
  | .unencodable fault => fault.message

/-- Why a token string is refused. -/
inductive Rejection where
  | wrongMark (title : Text)
  | unrecognized
  | issuerRequired
  | undecryptable
  | fieldCount (expected : Int) (actual : Nat)
  | notNumeric (field : Text)
  | badReference (fault : ReferenceFault)
  | badFields (title : Text) (fault : FormFault)
  | kindNotAccepted (kind : Text)
  deriving DecidableEq, Repr

namespace Rejection

/-- The class of a rejection, as audits record it. -/
def reason : Rejection → Text
  | .wrongMark _ => "malformed_prefix"
  | .unrecognized => "unrecognized_variant"
  | .undecryptable => "decrypt_failed"
  | .fieldCount _ _ => "field_count"
  | .notNumeric _ => "numeric_field"
  | .issuerRequired | .badReference _ | .badFields _ _ | .kindNotAccepted _ => "parse_failed"

def message : Rejection → Text
  | .wrongMark title => "Token is not a " ++ title
  | .unrecognized => "Unrecognized token kind"
  | .issuerRequired => "Issuer is required to parse a token"
  | .undecryptable => "Token could not be decrypted"
  | .fieldCount expected actual =>
    "Expected " ++ Decimal.ofInt expected ++ " token fields, got " ++ Decimal.ofNat actual
  | .notNumeric field => "Field '" ++ field ++ "' is not a valid non-negative integer"
  | .badReference fault => "Invalid role list: " ++ fault.message
  | .badFields title _ => "Invalid " ++ title ++ " fields"
  | .kindNotAccepted kind => "Token kind " ++ kind ++ " is not accepted"

end Rejection

/-- How reading a token string fails: by a rejection, or beyond what reading is prepared for. -/
inductive ParseFault where
  | rejected (rejection : Rejection)
  | limit (exceeded : Decimal.LimitExceeded)
  | unencodable (fault : EncodingFault)
  | fieldMissing
  deriving DecidableEq, Repr

def ParseFault.message : ParseFault → Text
  | .rejected rejection => rejection.message
  | .limit exceeded => exceeded.message
  | .unencodable fault => fault.message
  | .fieldMissing => "list index out of range"

end SealedToken
