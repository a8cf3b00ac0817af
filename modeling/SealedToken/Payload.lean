import SealedToken.Token.Fault

/-!
Payloads: an ordered list of fields joined by tabs, which no field contains. Numbers are plain
decimal digits; the issue time is written back to front.
-/

set_option autoImplicit false

namespace SealedToken.Payload

def delimiter : CodePoint := '\t'

/-- The payload of the fields, or the index of the first that holds the delimiter. -/
def join (fields : List Text) : Except Nat Text :=
  match fields.findIdx? (delimiter ∈ ·) with
  | some index => .error index
  | none => .ok (Text.join delimiter fields)

/-- The fields of a payload that has exactly so many. A count beyond the digit limit cannot even be
reported. -/
def split (payload : Text) (expected : Int) : Except ParseFault (List Text) :=
  let fields := Text.split delimiter payload
  if (fields.length : Int) = expected then .ok fields
  else
    match Decimal.write? expected with
    | .error exceeded => .error (.limit exceeded)
    | .ok _ => .error (.rejected (.fieldCount expected fields.length))

/-- The value of a field of decimal digits. -/
def number (field text : Text) : Except ParseFault Nat :=
  if text.isEmpty || !text.all Decimal.isDigit then .error (.rejected (.notNumeric field))
  else
    match Decimal.read? text with
    | .error exceeded => .error (.limit exceeded)
    | .ok value => .ok value

/-- An issue time back to front. -/
def disguise (issuedAt : Int) : Except Decimal.LimitExceeded Text :=
  match Decimal.write? issuedAt with
  | .error exceeded => .error exceeded
  | .ok text => .ok text.reverse

def issuedAtField : Text := "issued_at"

def lifespanField : Text := "lifespan"

def restore (text : Text) : Except ParseFault Nat := number issuedAtField text.reverse

end SealedToken.Payload
