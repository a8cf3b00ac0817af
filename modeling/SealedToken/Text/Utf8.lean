import SealedToken.Text.Basic

/-!
UTF-8. One scan of the bytes yields the characters and a gap for each maximal ill-formed part;
strict decoding admits no gap, lossy decoding fills each with U+FFFD.
-/

set_option autoImplicit false

namespace SealedToken

abbrev Bytes := List UInt8

namespace Utf8

/-- The bytes of a code point, by its number. -/
def encodeCode (n : Nat) : Bytes :=
  if n < 0x80 then [.ofNat n]
  else if n < 0x800 then [.ofNat (0xC0 + n / 0x40), .ofNat (0x80 + n % 0x40)]
  else if n < 0x10000 then
    [.ofNat (0xE0 + n / 0x1000), .ofNat (0x80 + n / 0x40 % 0x40), .ofNat (0x80 + n % 0x40)]
  else
    [.ofNat (0xF0 + n / 0x40000), .ofNat (0x80 + n / 0x1000 % 0x40),
      .ofNat (0x80 + n / 0x40 % 0x40), .ofNat (0x80 + n % 0x40)]

/-- The bytes of a text. For a surrogate they are three that no UTF-8 holds, so the form is UTF-8
for encodable texts only. -/
def encode (text : Text) : Bytes := text.flatMap fun c => encodeCode c.toNat

/-- An unfinished character: how many bytes it still needs after the next one, the range of the
next byte, and the value of the bits read. -/
structure Pending where
  further : Nat
  low : Nat
  high : Nat
  value : Nat
  deriving DecidableEq, Repr

/-- A byte at the start of a character: what it completes, and what it leaves unfinished. The
narrower ranges after E0, ED, F0 and F4 exclude overlong forms, surrogates and values above
U+10FFFF. -/
def enter (byte : UInt8) : List (Option Char) × Option Pending :=
  let b := byte.toNat
  if b < 0x80 then ([some (Char.ofNat b)], none)
  else if b < 0xC2 then ([none], none)
  else if b < 0xE0 then ([], some ⟨0, 0x80, 0xBF, b % 0x20⟩)
  else if b = 0xE0 then ([], some ⟨1, 0xA0, 0xBF, 0⟩)
  else if b = 0xED then ([], some ⟨1, 0x80, 0x9F, 0xD⟩)
  else if b < 0xF0 then ([], some ⟨1, 0x80, 0xBF, b % 0x10⟩)
  else if b = 0xF0 then ([], some ⟨2, 0x90, 0xBF, 0⟩)
  else if b < 0xF4 then ([], some ⟨2, 0x80, 0xBF, b % 8⟩)
  else if b = 0xF4 then ([], some ⟨2, 0x80, 0x8F, 4⟩)
  else ([none], none)

/-- A byte out of range ends the unfinished part as a gap and starts anew. -/
def step : Option Pending → UInt8 → List (Option Char) × Option Pending
  | none, byte => enter byte
  | some pending, byte =>
    let b := byte.toNat
    if pending.low ≤ b ∧ b ≤ pending.high then
      let value := pending.value * 0x40 + b % 0x40
      match pending.further with
      | 0 => ([some (Char.ofNat value)], none)
      | further + 1 => ([], some ⟨further, 0x80, 0xBF, value⟩)
    else
      let (read, next) := enter byte
      (none :: read, next)

def scanFrom : Option Pending → Bytes → List (Option Char)
  | none, [] => []
  | some _, [] => [none]
  | state, byte :: rest =>
    let (read, next) := step state byte
    read ++ scanFrom next rest

/-- The characters of a byte sequence, with a gap for each maximal ill-formed part. -/
def scan (bytes : Bytes) : List (Option Char) := scanFrom none bytes

/-- The characters, if there is no gap between them. -/
def whole? : List (Option Char) → Option (List Char)
  | [] => some []
  | none :: _ => none
  | some c :: rest => (whole? rest).map (c :: ·)

def decode? (bytes : Bytes) : Option Text := (whole? (scan bytes)).map Text.ofChars

def decodeLossy (bytes : Bytes) : Text := Text.ofChars ((scan bytes).map (·.getD '\uFFFD'))

theorem whole?_map_some (chars : List Char) : whole? (chars.map some) = some chars := by
  induction chars with
  | nil => rfl
  | cons c rest ih => simp [whole?, ih]

end Utf8

end SealedToken
