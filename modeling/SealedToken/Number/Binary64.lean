/-!
The exact value of a double, as an integer mantissa times a power of two, and its integer part.
-/

set_option autoImplicit false

namespace SealedToken

/-- A double taken apart. -/
inductive Binary64 where
  | finite (negative : Bool) (mantissa : Nat) (exponent : Int)
  | infinite (negative : Bool)
  | notANumber
  deriving DecidableEq, Repr

namespace Binary64

/-- The least exponent, shared by the subnormal numbers and the smallest normal ones. -/
def leastExponent : Int := -1074

def twoTo (k : Nat) : Nat := Nat.pow 2 k

/-- One bit of sign, eleven of exponent, fifty-two of fraction. -/
def ofBits (bits : Nat) : Binary64 :=
  let negative := bits / twoTo 63 % 2 == 1
  let field : Nat := bits / twoTo 52 % twoTo 11
  let fraction := bits % twoTo 52
  if field = 2047 then if fraction = 0 then .infinite negative else .notANumber
  else if field = 0 then .finite negative fraction leastExponent
  else .finite negative (twoTo 52 + fraction) (leastExponent + (field : Int) - 1)

def ofFloat (x : Float) : Binary64 := ofBits x.toBits.toNat

/-- The integer part of the magnitude. -/
def truncated (mantissa : Nat) (exponent : Int) : Nat :=
  if 0 ≤ exponent then mantissa * twoTo exponent.toNat else mantissa / twoTo (-exponent).toNat

end Binary64

end SealedToken
