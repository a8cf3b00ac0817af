import SealedToken.Crypto.Sha256

/-!
Galois/counter mode over a block cipher: a keystream masks the message and a polynomial hash of
associated data and ciphertext is the tag. Opening accepts exactly what sealing produces.
-/

set_option autoImplicit false

namespace SealedToken.Gcm

open Sha256 (bigEndian length_bigEndian)

abbrev BlockCipher := Bytes → Bytes

def tagSize : Nat := 16

def fromBytes (bytes : Bytes) : BitVec 128 :=
  .ofNat 128 (bytes.foldl (fun n b => n * 256 + b.toNat) 0)

/-- Multiplication in the field of 2¹²⁸ elements, first bit of a block leading. -/
def multiply (x y : BitVec 128) : BitVec 128 :=
  ((List.range 128).foldl
    (fun (sum, power) i =>
      (if x.getMsbD i then sum ^^^ power else sum,
        if power.getLsbD 0 then (power >>> 1) ^^^ (0xE1#128 <<< 120) else power >>> 1))
    (0#128, y)).1

/-- Blocks of sixteen bytes, the last filled up with zeros. -/
def blocks (bytes : Bytes) : List (BitVec 128) :=
  match bytes with
  | [] => []
  | b :: rest =>
    let block := b :: rest.take 15
    fromBytes (block ++ List.replicate (16 - block.length) 0) :: blocks (rest.drop 15)
termination_by bytes.length
decreasing_by simp only [List.length_drop, List.length_cons]; omega

def hash (key : BitVec 128) (data ciphertext : Bytes) : BitVec 128 :=
  let lengths := fromBytes (bigEndian 8 (data.length * 8) ++ bigEndian 8 (ciphertext.length * 8))
  (blocks data ++ blocks ciphertext ++ [lengths]).foldl
    (fun sum b => multiply (sum ^^^ b) key) 0#128

def counterBlock (nonce : Bytes) (counter : Nat) : Bytes := nonce ++ bigEndian 4 counter

/-- Enough key bytes to mask a message of the given length. -/
def keystream (cipher : BlockCipher) (nonce : Bytes) (length : Nat) : Bytes :=
  (List.range ((length + 15) / 16)).flatMap fun i => cipher (counterBlock nonce (i + 2))

/-- Exclusive or with a keystream; what the keystream does not reach is left as it is. -/
def mask : Bytes → Bytes → Bytes
  | [], _ => []
  | bytes, [] => bytes
  | b :: bytes, k :: keys => (b ^^^ k) :: mask bytes keys

def tag (cipher : BlockCipher) (nonce data ciphertext : Bytes) : Bytes :=
  let key := fromBytes (cipher (List.replicate 16 0))
  bigEndian tagSize
    (hash key data ciphertext ^^^ fromBytes (cipher (counterBlock nonce 1))).toNat

def encrypt (cipher : BlockCipher) (nonce data message : Bytes) : Bytes :=
  let ciphertext := mask message (keystream cipher nonce message.length)
  ciphertext ++ tag cipher nonce data ciphertext

/-- The message, if the sealed bytes end in the tag of what stands before it. -/
def decrypt? (cipher : BlockCipher) (nonce data sealed : Bytes) : Option Bytes :=
  if tagSize ≤ sealed.length then
    let ciphertext := sealed.take (sealed.length - tagSize)
    if sealed.drop (sealed.length - tagSize) = tag cipher nonce data ciphertext then
      some (mask ciphertext (keystream cipher nonce ciphertext.length))
    else none
  else none

theorem length_mask (bytes keys : Bytes) : (mask bytes keys).length = bytes.length := by
  induction bytes generalizing keys with
  | nil => rfl
  | cons b bytes ih => cases keys <;> simp [mask, ih]

theorem mask_mask (bytes keys : Bytes) : mask (mask bytes keys) keys = bytes := by
  induction bytes generalizing keys with
  | nil => rfl
  | cons b bytes ih =>
    cases keys with
    | nil => rfl
    | cons k keys =>
      have undone : b ^^^ k ^^^ k = b := by rw [UInt8.xor_assoc, UInt8.xor_self, UInt8.xor_zero]
      simp [mask, ih, undone]

theorem length_tag (cipher : BlockCipher) (nonce data ciphertext : Bytes) :
    (tag cipher nonce data ciphertext).length = tagSize :=
  length_bigEndian _ _

theorem decrypt?_eq_some_iff (cipher : BlockCipher) (nonce data sealed message : Bytes) :
    decrypt? cipher nonce data sealed = some message ↔
      encrypt cipher nonce data message = sealed := by
  constructor
  · intro decrypted
    simp only [decrypt?] at decrypted
    split at decrypted
    · split at decrypted
      · next long same =>
        obtain rfl := Option.some.inj decrypted
        simp only [encrypt, length_mask, mask_mask]
        rw [← same, List.take_append_drop]
      · simp at decrypted
    · simp at decrypted
  · rintro rfl
    have long : (encrypt cipher nonce data message).length =
        (mask message (keystream cipher nonce message.length)).length + tagSize := by
      simp [encrypt, length_tag]
    simp only [decrypt?, long, Nat.le_add_left, if_pos, Nat.add_sub_cancel]
    simp [encrypt, length_mask, mask_mask]

end SealedToken.Gcm
