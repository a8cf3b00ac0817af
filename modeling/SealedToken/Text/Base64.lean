import SealedToken.Text.Utf8

/-!
Base64 with the URL-safe alphabet and no padding. Strict reading accepts exactly what writing
produces; lenient reading skips foreign characters and honours padding.
-/

set_option autoImplicit false

namespace SealedToken.Base64

/-- The symbol of a six-bit value. -/
def symbol (value : Nat) : CodePoint :=
  if value < 26 then CodePoint.ofNat (65 + value)
  else if value < 52 then CodePoint.ofNat (71 + value)
  else if value < 62 then CodePoint.ofNat (value - 4)
  else if value = 62 then '-'
  else '_'

def value? (c : CodePoint) : Option Nat :=
  let n := c.toNat
  if 65 ≤ n ∧ n ≤ 90 then some (n - 65)
  else if 97 ≤ n ∧ n ≤ 122 then some (n - 71)
  else if 48 ≤ n ∧ n ≤ 57 then some (n + 4)
  else if c = '-' then some 62
  else if c = '_' then some 63
  else none

/-- Three bytes make four symbols; one or two at the end make two or three. -/
def encode : Bytes → Text
  | [] => []
  | [a] => [symbol (a.toNat / 4), symbol (a.toNat % 4 * 16)]
  | [a, b] =>
    [symbol (a.toNat / 4), symbol (a.toNat % 4 * 16 + b.toNat / 16), symbol (b.toNat % 16 * 4)]
  | a :: b :: c :: rest =>
    symbol (a.toNat / 4) :: symbol (a.toNat % 4 * 16 + b.toNat / 16) ::
      symbol (b.toNat % 16 * 4 + c.toNat / 64) :: symbol (c.toNat % 64) :: encode rest

/-- The bytes whose encoding is the text: the bits to spare at the end must be zero. -/
def decode? : Text → Option Bytes
  | [] => some []
  | [_] => none
  | [p, q] =>
    match value? p, value? q with
    | some p, some q => if q % 16 = 0 then some [.ofNat (p * 4 + q / 16)] else none
    | _, _ => none
  | [p, q, r] =>
    match value? p, value? q, value? r with
    | some p, some q, some r =>
      if r % 4 = 0 then some [.ofNat (p * 4 + q / 16), .ofNat (q % 16 * 16 + r / 4)] else none
    | _, _, _ => none
  | p :: q :: r :: s :: rest =>
    match value? p, value? q, value? r, value? s, decode? rest with
    | some p, some q, some r, some s, some bytes =>
      some (.ofNat (p * 4 + q / 16) :: .ofNat (q % 16 * 16 + r / 4) :: .ofNat (r % 4 * 64 + s) ::
        bytes)
    | _, _, _, _, _ => none

theorem value?_symbol {v : Nat} (small : v < 64) : value? (symbol v) = some v := by
  have : ∀ v : Fin 64, value? (symbol v) = some v.val := by decide +kernel
  exact this ⟨v, small⟩

theorem symbol_of_value? {c : CodePoint} {v : Nat} (read : value? c = some v) :
    v < 64 ∧ symbol v = c := by
  simp only [value?] at read
  split at read
  · obtain rfl := Option.some.inj read
    refine ⟨by omega, ?_⟩
    rw [symbol, if_pos (by omega), show 65 + (c.toNat - 65) = c.toNat by omega,
      CodePoint.ofNat_toNat]
  split at read
  · obtain rfl := Option.some.inj read
    refine ⟨by omega, ?_⟩
    rw [symbol, if_neg (by omega), if_pos (by omega),
      show 71 + (c.toNat - 71) = c.toNat by omega, CodePoint.ofNat_toNat]
  split at read
  · obtain rfl := Option.some.inj read
    refine ⟨by omega, ?_⟩
    rw [symbol, if_neg (by omega), if_neg (by omega), if_pos (by omega),
      show c.toNat + 4 - 4 = c.toNat by omega, CodePoint.ofNat_toNat]
  split at read
  · next dash => obtain rfl := Option.some.inj read; exact ⟨by omega, by simp [symbol, dash]⟩
  split at read
  · next line => obtain rfl := Option.some.inj read; exact ⟨by omega, by simp [symbol, line]⟩
  · simp at read

/-- A padding sign once enough symbols of a quad are read ends the text. -/
def lenientFrom (position left pads : Nat) : Text → Option Bytes
  | [] => if position = 0 then some [] else none
  | c :: rest =>
    if c = '=' then
      if 2 ≤ position then
        if 4 ≤ position + (pads + 1) then some []
        else lenientFrom position left (pads + 1) rest
      else lenientFrom position left pads rest
    else
      match (if c = '+' then some 62 else if c = '/' then some 63 else value? c) with
      | none => lenientFrom position left pads rest
      | some v =>
        match position with
        | 0 => lenientFrom 1 v 0 rest
        | 1 => (lenientFrom 2 (v % 16) 0 rest).map (.ofNat (left * 4 + v / 16) :: ·)
        | 2 => (lenientFrom 3 (v % 4) 0 rest).map (.ofNat (left * 16 + v / 4) :: ·)
        | _ => (lenientFrom 0 0 0 rest).map (.ofNat (left * 64 + v) :: ·)

/-- Reading in which both alphabets count, characters of neither are skipped, and the text is
padded to whole quads by its length. -/
def decodeLenient? (text : Text) : Option Bytes :=
  match text.length % 4 with
  | 0 => lenientFrom 0 0 0 text
  | 2 => lenientFrom 0 0 0 (text ++ [.char '=', .char '='])
  | 3 => lenientFrom 0 0 0 (text ++ [.char '='])
  | _ => none

end SealedToken.Base64
