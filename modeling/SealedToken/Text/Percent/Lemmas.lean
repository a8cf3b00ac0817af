import SealedToken.Text.Percent
import SealedToken.Text.Utf8.Lemmas

/-!
Percent coding read back. Every byte is written in ASCII and its escape reads as that byte, so
reading what was written gives the name back, whatever its characters.
-/

set_option autoImplicit false

namespace SealedToken.Percent

/-- The bytes of a byte's written form. -/
def escape (byte : UInt8) : Bytes := (encodeByte byte).map fun c => .ofNat c.toNat

theorem decodeBytes_cons {byte : UInt8} (plain : byte ≠ 0x25) (rest : Bytes) :
    decodeBytes (byte :: rest) = byte :: decodeBytes rest := by
  match rest with
  | [] => rfl
  | [_] => rfl
  | high :: low :: after =>
    rw [decodeBytes]
    split
    · rw [if_neg plain]
    · rfl

theorem decodeBytes_escape {high low : UInt8} {h l : Nat} (first : hexValue? high = some h)
    (second : hexValue? low = some l) (rest : Bytes) :
    decodeBytes (0x25 :: high :: low :: rest) = .ofNat (h * 16 + l) :: decodeBytes rest := by
  simp [decodeBytes, first, second]

theorem upperHexDigit_small : ∀ n < 16, (upperHexDigit n).toNat < 0x80 := by decide

theorem hexValue?_upperHexDigit :
    ∀ n < 16, hexValue? (.ofNat (upperHexDigit n).toNat) = some n := by decide

theorem small_of_isUnreserved {byte : UInt8} (unreserved : isUnreserved byte) :
    byte.toNat < 0x80 ∧ byte ≠ 0x25 := by
  constructor
  · simp only [isUnreserved, Bool.or_eq_true, Bool.and_eq_true, decide_eq_true_eq,
      beq_iff_eq] at unreserved
    omega
  · rintro rfl
    exact absurd unreserved (by decide)

theorem escape_of_isUnreserved {byte : UInt8} (unreserved : isUnreserved byte) :
    escape byte = [byte] := by
  have small := (small_of_isUnreserved unreserved).1
  have same : (CodePoint.ofNat byte.toNat).toNat = byte.toNat := CodePoint.toNat_ofNat (by omega)
  rw [escape, encodeByte, if_pos unreserved, List.map_singleton, same, UInt8.ofNat_toNat]

theorem escape_of_not_isUnreserved {byte : UInt8} (reserved : ¬ isUnreserved byte) :
    escape byte = [0x25, .ofNat (upperHexDigit (byte.toNat / 16)).toNat,
      .ofNat (upperHexDigit (byte.toNat % 16)).toNat] := by
  rw [escape, encodeByte, if_neg reserved]
  rfl

/-- A byte's written form reads as that byte, whatever follows. -/
theorem decodeBytes_escape_append (byte : UInt8) (rest : Bytes) :
    decodeBytes (escape byte ++ rest) = byte :: decodeBytes rest := by
  by_cases unreserved : isUnreserved byte
  · rw [escape_of_isUnreserved unreserved]
    exact decodeBytes_cons (small_of_isUnreserved unreserved).2 rest
  · have := byte.toNat_lt
    rw [escape_of_not_isUnreserved unreserved]
    have whole : UInt8.ofNat (byte.toNat / 16 * 16 + byte.toNat % 16) = byte := by
      rw [show byte.toNat / 16 * 16 + byte.toNat % 16 = byte.toNat by omega, UInt8.ofNat_toNat]
    simp only [List.cons_append, List.nil_append]
    rw [decodeBytes_escape (hexValue?_upperHexDigit _ (by omega))
      (hexValue?_upperHexDigit _ (by omega)), whole]

theorem decodeBytes_flatMap_escape (bytes : Bytes) :
    decodeBytes (bytes.flatMap escape) = bytes := by
  induction bytes with
  | nil => rfl
  | cons byte rest ih => rw [List.flatMap_cons, decodeBytes_escape_append, ih]

/-- A byte's written form is in ASCII. -/
theorem small_of_mem_encodeByte {byte : UInt8} {c : CodePoint} (inside : c ∈ encodeByte byte) :
    c.toNat < 0x80 := by
  have := byte.toNat_lt
  unfold encodeByte at inside
  split at inside
  · next unreserved =>
    have small := (small_of_isUnreserved unreserved).1
    obtain rfl := List.mem_singleton.mp inside
    rw [CodePoint.toNat_ofNat (by omega)]
    exact small
  · simp only [List.mem_cons, List.not_mem_nil, or_false] at inside
    rcases inside with rfl | rfl | rfl
    · decide
    · exact upperHexDigit_small _ (by omega)
    · exact upperHexDigit_small _ (by omega)

/-- A text of ASCII is a single run. -/
theorem decodeFrom_of_small {text : Text} (small : ∀ c ∈ text, c.toNat < 0x80) (run : Bytes) :
    decodeFrom run text =
      decodeRun (run.reverse ++ text.map fun c : CodePoint => .ofNat c.toNat) := by
  induction text generalizing run with
  | nil => rw [decodeFrom, List.map_nil, List.append_nil]
  | cons c rest ih =>
    rw [List.forall_mem_cons] at small
    rw [decodeFrom, if_pos small.1, ih small.2]
    simp

/-- Reading gives the written name back. -/
theorem decode_encode {name : Text} (encodable : name.isEncodable = true) :
    decode (encode name) = name := by
  have small : ∀ c ∈ encode name, c.toNat < 0x80 := by
    intro c inside
    obtain ⟨byte, -, inside⟩ := List.mem_flatMap.mp inside
    exact small_of_mem_encodeByte inside
  have escaped : (encode name).map (fun c : CodePoint => UInt8.ofNat c.toNat) =
      (Utf8.encode name).flatMap escape := by
    rw [encode, List.map_flatMap]
    rfl
  rw [decode, decodeFrom_of_small small, decodeRun, List.reverse_nil, List.nil_append, escaped,
    decodeBytes_flatMap_escape, Utf8.decodeLossy_encode encodable]

theorem encode?_of_isEncodable {name : Text} (encodable : name.isEncodable = true) :
    encode? name = .ok (encode name) := by
  rw [encode?, Utf8.encode?_of_isEncodable encodable, encode]

theorem encode?_eq_error_iff {name : Text} {fault : EncodingFault} :
    encode? name = .error fault ↔ name.encodingFault? = some fault := by
  rw [encode?, ← Utf8.encode?_eq_error_iff]
  cases Utf8.encode? name <;> simp

/-- Reading brings in no surrogates. -/
theorem isEncodable_decodeFrom {text : Text} (encodable : text.isEncodable = true) (run : Bytes) :
    (decodeFrom run text).isEncodable = true := by
  induction text generalizing run with
  | nil => exact Text.isEncodable_ofChars _
  | cons c rest ih =>
    rw [Text.isEncodable_cons] at encodable
    unfold decodeFrom
    split
    · exact ih encodable.2 _
    · rw [Text.isEncodable_append, Text.isEncodable_cons]
      exact ⟨Text.isEncodable_ofChars _, encodable.1, ih encodable.2 _⟩

theorem isEncodable_decode {quoted : Text} (encodable : quoted.isEncodable = true) :
    (decode quoted).isEncodable = true :=
  isEncodable_decodeFrom encodable []

end SealedToken.Percent
