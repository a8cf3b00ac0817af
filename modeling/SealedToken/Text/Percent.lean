import SealedToken.Text.Encoding

/-!
Percent coding of names. Only unreserved characters are written as they are, and surrogates are
not written at all. Reading leaves characters beyond ASCII as they are; in each run of ASCII it
turns escapes into their bytes, leaves a percent sign without two hexadecimal digits alone, and
reads the bytes as UTF-8 with ill-formed parts replaced.
-/

set_option autoImplicit false

namespace SealedToken.Percent

def isUnreserved (byte : UInt8) : Bool :=
  let b := byte.toNat
  (48 ≤ b && b ≤ 57) || (65 ≤ b && b ≤ 90) || (97 ≤ b && b ≤ 122) ||
    b == 45 || b == 46 || b == 95 || b == 126

/-- Upper-case hexadecimal digit. -/
def upperHexDigit (n : Nat) : CodePoint :=
  if n < 10 then CodePoint.ofNat (48 + n) else CodePoint.ofNat (55 + n)

def encodeByte (byte : UInt8) : Text :=
  if isUnreserved byte then [CodePoint.ofNat byte.toNat]
  else ['%', upperHexDigit (byte.toNat / 16), upperHexDigit (byte.toNat % 16)]

def encode (name : Text) : Text := (Utf8.encode name).flatMap encodeByte

/-- The written form of a name, if it has one. -/
def encode? (name : Text) : Except EncodingFault Text :=
  match Utf8.encode? name with
  | .error fault => .error fault
  | .ok bytes => .ok (bytes.flatMap encodeByte)

def hexValue? (byte : UInt8) : Option Nat :=
  let b := byte.toNat
  if 48 ≤ b ∧ b ≤ 57 then some (b - 48)
  else if 65 ≤ b ∧ b ≤ 70 then some (b - 55)
  else if 97 ≤ b ∧ b ≤ 102 then some (b - 87)
  else none

/-- Each percent sign with two hexadecimal digits becomes the byte they name. -/
def decodeBytes : Bytes → Bytes
  | [] => []
  | [byte] => [byte]
  | [byte, next] => [byte, next]
  | byte :: high :: low :: after =>
    match hexValue? high, hexValue? low with
    | some h, some l =>
      if byte = 0x25 then .ofNat (h * 16 + l) :: decodeBytes after
      else byte :: decodeBytes (high :: low :: after)
    | _, _ => byte :: decodeBytes (high :: low :: after)

/-- What a run of ASCII stands for. -/
def decodeRun (run : Bytes) : Text := Utf8.decodeLossy (decodeBytes run)

/-- Reading on behind a run of ASCII, given last byte first. -/
def decodeFrom (run : Bytes) : Text → Text
  | [] => decodeRun run.reverse
  | c :: rest =>
    if c.toNat < 0x80 then decodeFrom (.ofNat c.toNat :: run) rest
    else decodeRun run.reverse ++ c :: decodeFrom [] rest

def decode (quoted : Text) : Text := decodeFrom [] quoted

end SealedToken.Percent
