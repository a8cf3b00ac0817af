import SealedToken.Text.Ranges

/-!
Blank characters: those with the Unicode bidirectional types of white space and separators,
or of category Zs.
-/

set_option autoImplicit false

namespace SealedToken.Text

def blankRanges : List (Nat × Nat) :=
  [(0x09, 0x0D), (0x1C, 0x20), (0x85, 0x85), (0xA0, 0xA0), (0x1680, 0x1680), (0x2000, 0x200A),
    (0x2028, 0x2029), (0x202F, 0x202F), (0x205F, 0x205F), (0x3000, 0x3000)]

def isBlank (c : CodePoint) : Bool := inRanges blankRanges c.toNat

end SealedToken.Text
