/-!
Code points. A text holds characters, and it may hold surrogates: the halves of pairs, which are no
characters and have no UTF-8 form, and which escapes and undecodable input leave behind.
-/

set_option autoImplicit false

namespace SealedToken

inductive CodePoint where
  | char (c : Char)
  /-- The surrogate U+D800 plus the index. -/
  | surrogate (index : Fin 0x800)
  deriving DecidableEq, Repr

namespace CodePoint

instance : Coe Char CodePoint := ⟨char⟩

def toNat : CodePoint → Nat
  | char c => c.toNat
  | surrogate index => 0xD800 + index.val

/-- The code point of a number; a number beyond all of them counts as zero. -/
def ofNat (n : Nat) : CodePoint :=
  if inside : 0xD800 ≤ n ∧ n < 0xE000 then surrogate ⟨n - 0xD800, by omega⟩
  else char (Char.ofNat n)

def isChar : CodePoint → Bool
  | char _ => true
  | surrogate _ => false

/-- Below the surrogates there are characters alone. -/
theorem isChar_of_lt {c : CodePoint} (below : c.toNat < 0xD800) : c.isChar = true := by
  cases c with
  | char c => rfl
  | surrogate index =>
    rw [toNat] at below
    omega

/-- Code points are ordered by their numbers. -/
instance : LE CodePoint := ⟨fun c d => c.toNat ≤ d.toNat⟩

instance (c d : CodePoint) : Decidable (c ≤ d) := inferInstanceAs (Decidable (c.toNat ≤ d.toNat))

def isAlpha : CodePoint → Bool
  | char c => c.isAlpha
  | surrogate _ => false

def isDigit : CodePoint → Bool
  | char c => c.isDigit
  | surrogate _ => false

def isAlphanum (c : CodePoint) : Bool := c.isAlpha || c.isDigit

/-- Capital letters of ASCII become small ones. -/
def toLower : CodePoint → CodePoint
  | char c => char c.toLower
  | surrogate index => surrogate index

/-- The numbers of characters leave out those of surrogates. -/
theorem range_of_char (c : Char) :
    c.toNat < 0xD800 ∨ (0xDFFF < c.toNat ∧ c.toNat < 0x110000) := c.valid

theorem ofNat_toNat (c : CodePoint) : ofNat c.toNat = c := by
  cases c with
  | char c =>
    have range := range_of_char c
    rw [ofNat, toNat, dif_neg (by omega), Char.ofNat_toNat]
  | surrogate index =>
    have small := index.isLt
    rw [ofNat, toNat, dif_pos (by omega)]
    simp

theorem toNat_ofNat {n : Nat} (small : n < 0x110000) : (ofNat n).toNat = n := by
  unfold ofNat
  split
  · simp only [toNat]
    omega
  · have valid : n.isValidChar := by
      change n < 0xD800 ∨ (0xDFFF < n ∧ n < 0x110000)
      omega
    rw [toNat, Char.ofNat, dif_pos valid]
    rfl

end CodePoint

end SealedToken
