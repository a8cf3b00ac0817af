import SealedToken.Text.Utf8

/-!
The AES-256 block cipher in the forward direction, on sixteen bytes in column order. The
substitution is computed from its definition: inversion in the field of 256 elements, then an
affine map.
-/

set_option autoImplicit false

namespace SealedToken.Aes

/-- Multiplication by x modulo x⁸ + x⁴ + x³ + x + 1. -/
def double (a : UInt8) : UInt8 :=
  if a &&& 0x80 = 0 then a <<< 1 else (a <<< 1) ^^^ 0x1B

def multiply (a b : UInt8) : UInt8 :=
  ((List.range 8).foldl
    (fun (product, power) bit =>
      (if (b >>> UInt8.ofNat bit) &&& 1 = 0 then product else product ^^^ power, double power))
    ((0 : UInt8), a)).1

/-- The field inverse, which is the 254th power; zero is kept. -/
def invert (a : UInt8) : UInt8 :=
  let square := fun b => multiply b b
  let a2 := square a
  let a4 := square a2
  let a8 := square a4
  let a16 := square a8
  let a32 := square a16
  let a64 := square a32
  multiply a2 (multiply a4 (multiply a8 (multiply a16 (multiply a32 (multiply a64 (square a64))))))

def rotate (a : UInt8) (n : UInt8) : UInt8 := (a <<< n) ||| (a >>> (8 - n))

def affine (a : UInt8) : UInt8 :=
  a ^^^ rotate a 1 ^^^ rotate a 2 ^^^ rotate a 3 ^^^ rotate a 4 ^^^ 0x63

/-- The substitution of every byte, tabulated. -/
def table : Array UInt8 := (Array.range 256).map fun n => affine (invert (UInt8.ofNat n))

def substitute (a : UInt8) : UInt8 := table.getD a.toNat 0

def shiftRows : Bytes → Bytes
  | [a0, a1, a2, a3, b0, b1, b2, b3, c0, c1, c2, c3, d0, d1, d2, d3] =>
    [a0, b1, c2, d3, b0, c1, d2, a3, c0, d1, a2, b3, d0, a1, b2, c3]
  | other => other

def mixColumns : Bytes → Bytes
  | a :: b :: c :: d :: rest =>
    (double a ^^^ double b ^^^ b ^^^ c ^^^ d) :: (a ^^^ double b ^^^ double c ^^^ c ^^^ d) ::
      (a ^^^ b ^^^ double c ^^^ double d ^^^ d) :: (double a ^^^ a ^^^ b ^^^ c ^^^ double d) ::
      mixColumns rest
  | other => other

def addKey (block key : Bytes) : Bytes := block.zipWith (· ^^^ ·) key

/-- One step of the key schedule: the next four-byte word from the eight before it, latest first. -/
def nextWord (index : Nat) (recent : List Bytes) : Bytes :=
  let last := recent.getD 0 []
  let mixed :=
    if index % 8 = 0 then
      let turned := (last.drop 1 ++ last.take 1).map substitute
      addKey turned [(1 : UInt8) <<< UInt8.ofNat (index / 8 - 1), 0, 0, 0]
    else if index % 8 = 4 then last.map substitute
    else last
  addKey (recent.getD 7 []) mixed

def chunks (size : Nat) : Nat → Bytes → List Bytes
  | 0, _ => []
  | count + 1, bytes => bytes.take size :: chunks size count (bytes.drop size)

/-- The fifteen round keys of a 32-byte key. -/
def roundKeys (key : Bytes) : List Bytes :=
  let words := (List.range 52).foldl (fun recent i => nextWord (i + 8) recent :: recent)
    (chunks 4 8 key).reverse
  chunks 16 15 words.reverse.flatten

def middleRound (block key : Bytes) : Bytes :=
  addKey (mixColumns (shiftRows (block.map substitute))) key

def encryptWith (keys : List Bytes) (block : Bytes) : Bytes :=
  let first := addKey block (keys.getD 0 [])
  let middle := ((keys.drop 1).take 13).foldl middleRound first
  addKey (shiftRows (middle.map substitute)) (keys.getD 14 [])

end SealedToken.Aes
