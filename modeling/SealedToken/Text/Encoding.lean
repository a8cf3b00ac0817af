import SealedToken.Number.Decimal
import SealedToken.Text.Quoted
import SealedToken.Text.Utf8

/-!
Encoding, which refuses surrogates: the first run of them in a text is the fault.
-/

set_option autoImplicit false

namespace SealedToken

/-- The first surrogate of a text, its position, and how many more follow it at once. -/
structure EncodingFault where
  surrogate : Fin 0x800
  position : Nat
  further : Nat
  deriving DecidableEq, Repr

/-- A single surrogate is shown, a run of them is only placed. -/
def EncodingFault.message (fault : EncodingFault) : Text :=
  if fault.further = 0 then
    "'utf-8' codec can't encode character '\\u" ++
      Text.hexField 4 (CodePoint.surrogate fault.surrogate).toNat ++ "' in position " ++
      Decimal.ofNat fault.position ++ ": surrogates not allowed"
  else
    "'utf-8' codec can't encode characters in position " ++ Decimal.ofNat fault.position ++ "-" ++
      Decimal.ofNat (fault.position + fault.further) ++ ": surrogates not allowed"

namespace Text

/-- The fault of a text that goes on at the given position. -/
def encodingFaultFrom? (position : Nat) : Text → Option EncodingFault
  | [] => none
  | .char _ :: rest => encodingFaultFrom? (position + 1) rest
  | .surrogate index :: rest => some ⟨index, position, (rest.takeWhile (!·.isChar)).length⟩

def encodingFault? (text : Text) : Option EncodingFault := encodingFaultFrom? 0 text

theorem encodingFaultFrom?_eq_none_iff {text : Text} {position : Nat} :
    encodingFaultFrom? position text = none ↔ text.isEncodable = true := by
  induction text generalizing position with
  | nil => simp [encodingFaultFrom?, isEncodable]
  | cons c rest ih =>
    cases c with
    | char c => simp [encodingFaultFrom?, ih, isEncodable, CodePoint.isChar]
    | surrogate index => simp [encodingFaultFrom?, isEncodable, CodePoint.isChar]

theorem encodingFault?_eq_none_iff {text : Text} :
    encodingFault? text = none ↔ text.isEncodable = true :=
  encodingFaultFrom?_eq_none_iff

end Text

/-- The UTF-8 bytes of a text without surrogates. -/
def Utf8.encode? (text : Text) : Except EncodingFault Bytes :=
  match text.encodingFault? with
  | some fault => .error fault
  | none => .ok (encode text)

namespace Utf8

theorem encode?_of_isEncodable {text : Text} (encodable : text.isEncodable = true) :
    encode? text = .ok (encode text) := by
  rw [encode?, Text.encodingFault?_eq_none_iff.mpr encodable]

theorem encode?_eq_ok_iff {text : Text} {bytes : Bytes} :
    encode? text = .ok bytes ↔ text.isEncodable = true ∧ bytes = encode text := by
  unfold encode?
  rw [← Text.encodingFault?_eq_none_iff]
  cases text.encodingFault? with
  | none => simp [eq_comm]
  | some fault => simp

theorem encode?_eq_error_iff {text : Text} {fault : EncodingFault} :
    encode? text = .error fault ↔ text.encodingFault? = some fault := by
  unfold encode?
  cases text.encodingFault? with
  | none => simp
  | some other => simp

/-- A text that is not encodable has a fault. -/
theorem exists_encode?_error {text : Text} (surrogates : text.isEncodable = false) :
    ∃ fault, encode? text = .error fault := by
  cases found : text.encodingFault? with
  | none => simp [Text.encodingFault?_eq_none_iff.mp found] at surrogates
  | some fault => exact ⟨fault, encode?_eq_error_iff.mpr found⟩

end Utf8

end SealedToken
