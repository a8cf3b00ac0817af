import SealedToken.Text.Utf8

/-!
UTF-8 read back. A scan of encoded characters has no gaps and yields them, and only encoded
characters are scanned without gaps, so strict decoding accepts exactly the encoded texts.
-/

set_option autoImplicit false

namespace SealedToken.Utf8

theorem enter_one {k : Nat} (small : k < 0x80) :
    enter (.ofNat k) = ([some (Char.ofNat k)], none) := by
  have : (UInt8.ofNat k).toNat = k := UInt8.toNat_ofNat_of_lt' (by simp [UInt8.size]; omega)
  simp [enter, this, small]

theorem enter_two {k : Nat} (large : 2 ≤ k) (small : k < 0x20) :
    enter (.ofNat (0xC0 + k)) = ([], some ⟨0, 0x80, 0xBF, k⟩) := by
  have : ∀ k : Fin 0x20, 2 ≤ k.val →
      enter (.ofNat (0xC0 + k.val)) = ([], some ⟨0, 0x80, 0xBF, k.val⟩) := by decide
  exact this ⟨k, small⟩ large

theorem enter_three {k : Nat} (small : k < 0x10) :
    enter (.ofNat (0xE0 + k)) =
      ([], some ⟨1, if k = 0 then 0xA0 else 0x80, if k = 0xD then 0x9F else 0xBF, k⟩) := by
  have : ∀ k : Fin 0x10, enter (.ofNat (0xE0 + k.val)) =
      ([], some ⟨1, if k.val = 0 then 0xA0 else 0x80, if k.val = 0xD then 0x9F else 0xBF,
        k.val⟩) := by decide
  exact this ⟨k, small⟩

theorem enter_four {k : Nat} (small : k < 5) :
    enter (.ofNat (0xF0 + k)) =
      ([], some ⟨2, if k = 0 then 0x90 else 0x80, if k = 4 then 0x8F else 0xBF, k⟩) := by
  have : ∀ k : Fin 5, enter (.ofNat (0xF0 + k.val)) =
      ([], some ⟨2, if k.val = 0 then 0x90 else 0x80, if k.val = 4 then 0x8F else 0xBF,
        k.val⟩) := by decide
  exact this ⟨k, small⟩

/-- A byte in range goes on with the character. -/
theorem step_of_range {pending : Pending} {k : Nat} (small : k < 0x40)
    (low : pending.low ≤ 0x80 + k) (high : 0x80 + k ≤ pending.high) :
    step (some pending) (.ofNat (0x80 + k)) =
      match pending.further with
      | 0 => ([some (Char.ofNat (pending.value * 0x40 + k))], none)
      | further + 1 => ([], some ⟨further, 0x80, 0xBF, pending.value * 0x40 + k⟩) := by
  have byte : (UInt8.ofNat (0x80 + k)).toNat = 0x80 + k :=
    UInt8.toNat_ofNat_of_lt' (by simp [UInt8.size]; omega)
  have bits : (0x80 + k) % 0x40 = k := by omega
  simp only [step, byte, bits]
  exact if_pos ⟨low, high⟩

theorem scanFrom_last {low high value k : Nat} (small : k < 0x40) (above : low ≤ 0x80 + k)
    (below : 0x80 + k ≤ high) (rest : Bytes) :
    scanFrom (some ⟨0, low, high, value⟩) (.ofNat (0x80 + k) :: rest) =
      some (Char.ofNat (value * 0x40 + k)) :: scanFrom none rest := by
  rw [scanFrom, step_of_range small above below]
  rfl

theorem scanFrom_more {further low high value k : Nat} (small : k < 0x40) (above : low ≤ 0x80 + k)
    (below : 0x80 + k ≤ high) (rest : Bytes) :
    scanFrom (some ⟨further + 1, low, high, value⟩) (.ofNat (0x80 + k) :: rest) =
      scanFrom (some ⟨further, 0x80, 0xBF, value * 0x40 + k⟩) rest := by
  rw [scanFrom, step_of_range small above below]
  rfl

theorem scanFrom_enter {byte : UInt8} {pending : Pending}
    (entered : enter byte = ([], some pending)) (rest : Bytes) :
    scanFrom none (byte :: rest) = scanFrom (some pending) rest := by
  rw [scanFrom, step, entered]
  rfl

theorem scanFrom_encodeCode (c : Char) (rest : Bytes) :
    scanFrom none (encodeCode c.toNat ++ rest) = some c :: scanFrom none rest := by
  have range := CodePoint.range_of_char c
  have back : Char.ofNat c.toNat = c := Char.ofNat_toNat c
  simp only [encodeCode]
  generalize c.toNat = n at range back
  split
  · next one => simp [scanFrom, step, enter_one one, back]
  split
  · next two =>
    have value : n / 0x40 * 0x40 + n % 0x40 = n := by omega
    simp only [List.cons_append, List.nil_append]
    rw [scanFrom_enter (enter_two (by omega) (by omega)),
      scanFrom_last (by omega) (by omega) (by omega), value, back]
  split
  · next three =>
    have value : (n / 0x1000 * 0x40 + n / 0x40 % 0x40) * 0x40 + n % 0x40 = n := by omega
    simp only [List.cons_append, List.nil_append]
    rw [scanFrom_enter (enter_three (by omega)),
      scanFrom_more (by omega) (by split <;> omega) (by split <;> omega),
      scanFrom_last (by omega) (by omega) (by omega), value, back]
  · have value : ((n / 0x40000 * 0x40 + n / 0x1000 % 0x40) * 0x40 + n / 0x40 % 0x40) * 0x40 +
        n % 0x40 = n := by omega
    simp only [List.cons_append, List.nil_append]
    rw [scanFrom_enter (enter_four (by omega)),
      scanFrom_more (by omega) (by split <;> omega) (by split <;> omega),
      scanFrom_more (by omega) (by omega) (by omega),
      scanFrom_last (by omega) (by omega) (by omega), value, back]

theorem encode_ofChars (chars : List Char) :
    encode (Text.ofChars chars) = chars.flatMap fun c => encodeCode c.toNat := by
  rw [encode, Text.ofChars, List.flatMap_map]
  rfl

/-- Encoded characters are scanned without gaps. -/
theorem scan_encode (chars : List Char) : scan (encode (Text.ofChars chars)) = chars.map some := by
  rw [encode_ofChars]
  induction chars with
  | nil => rfl
  | cons c rest ih =>
    rw [List.flatMap_cons, scan, scanFrom_encodeCode]
    exact congrArg (some c :: ·) ih

theorem decode?_encode {text : Text} (encodable : text.isEncodable = true) :
    decode? (encode text) = some text := by
  obtain ⟨chars, rfl⟩ := Text.isEncodable_iff.mp encodable
  rw [decode?, scan_encode, whole?_map_some]
  rfl

theorem decodeLossy_encode {text : Text} (encodable : text.isEncodable = true) :
    decodeLossy (encode text) = text := by
  obtain ⟨chars, rfl⟩ := Text.isEncodable_iff.mp encodable
  simp [decodeLossy, scan_encode, Function.comp_def]

/-- What a byte at the start of a character can be. -/
theorem enter_cases (byte : UInt8) :
    (∃ k < 0x80, byte = .ofNat k) ∨ (∃ k, 2 ≤ k ∧ k < 0x20 ∧ byte = .ofNat (0xC0 + k)) ∨
      (∃ k < 0x10, byte = .ofNat (0xE0 + k)) ∨ (∃ k < 5, byte = .ofNat (0xF0 + k)) ∨
        enter byte = ([none], none) := by
  have same {n : Nat} (equal : byte.toNat = n) : byte = .ofNat n := by
    rw [← equal, UInt8.ofNat_toNat]
  have bound : byte.toNat < 0x100 := byte.toNat_lt
  by_cases one : byte.toNat < 0x80
  · exact .inl ⟨byte.toNat, one, same rfl⟩
  by_cases two : 0xC2 ≤ byte.toNat ∧ byte.toNat < 0xE0
  · exact .inr (.inl ⟨byte.toNat - 0xC0, by omega, by omega, same (by omega)⟩)
  by_cases three : 0xE0 ≤ byte.toNat ∧ byte.toNat < 0xF0
  · exact .inr (.inr (.inl ⟨byte.toNat - 0xE0, by omega, same (by omega)⟩))
  by_cases four : 0xF0 ≤ byte.toNat ∧ byte.toNat < 0xF5
  · exact .inr (.inr (.inr (.inl ⟨byte.toNat - 0xF0, by omega, same (by omega)⟩)))
  · refine .inr (.inr (.inr (.inr ?_)))
    have outside : byte.toNat < 0xC2 ∨ 0xF5 ≤ byte.toNat := by omega
    rcases outside with short | long
    · simp only [enter, if_neg one, if_pos short]
    · simp only [enter]
      rw [if_neg one, if_neg (by omega), if_neg (by omega), if_neg (by omega), if_neg (by omega),
        if_neg (by omega), if_neg (by omega), if_neg (by omega), if_neg (by omega)]

/-- An unfinished character without a gap goes on. -/
theorem continued {further low high value : Nat} (above : 0x80 ≤ low) (below : high ≤ 0xBF)
    {bytes : Bytes} {chars : List Char}
    (gapless : whole? (scanFrom (some ⟨further, low, high, value⟩) bytes) = some chars) :
    ∃ k rest, k < 0x40 ∧ low ≤ 0x80 + k ∧ 0x80 + k ≤ high ∧ bytes = .ofNat (0x80 + k) :: rest := by
  cases bytes with
  | nil => simp [scanFrom, whole?] at gapless
  | cons byte rest =>
    by_cases range : low ≤ byte.toNat ∧ byte.toNat ≤ high
    · refine ⟨byte.toNat - 0x80, rest, by omega, by omega, by omega, ?_⟩
      rw [show 0x80 + (byte.toNat - 0x80) = byte.toNat by omega, UInt8.ofNat_toNat]
    · simp [scanFrom, step, range, whole?] at gapless

theorem toNat_ofNat {n : Nat} (valid : n < 0xD800 ∨ (0xDFFF < n ∧ n < 0x110000)) :
    (Char.ofNat n).toNat = n := by
  rw [Char.ofNat, dif_pos valid]
  rfl

/-! ## Bytes without a gap

What is read without a gap begins with a character, of one to four bytes by the first of them. -/

section Gapless

variable {k : Nat} {rest : Bytes} {chars : List Char}

theorem exists_char_of_one (small : k < 0x80) (rest : Bytes) :
    ∃ (c : Char) (later : Bytes), .ofNat k :: rest = encodeCode c.toNat ++ later := by
  refine ⟨Char.ofNat k, rest, ?_⟩
  rw [encodeCode, toNat_ofNat (by omega), if_pos small]
  rfl

theorem exists_char_of_two (large : 2 ≤ k) (small : k < 0x20)
    (gapless : whole? (scanFrom none (.ofNat (0xC0 + k) :: rest)) = some chars) :
    ∃ (c : Char) (later : Bytes), .ofNat (0xC0 + k) :: rest = encodeCode c.toNat ++ later := by
  rw [scanFrom_enter (enter_two large small)] at gapless
  obtain ⟨l, later, _, _, _, rfl⟩ := continued (Nat.le_refl _) (Nat.le_refl _) gapless
  refine ⟨Char.ofNat (k * 0x40 + l), later, ?_⟩
  rw [encodeCode, toNat_ofNat (by omega), if_neg (by omega), if_pos (by omega),
    show (k * 0x40 + l) / 0x40 = k by omega, show (k * 0x40 + l) % 0x40 = l by omega]
  rfl

/-- The narrower ranges of the second byte keep overlong forms and surrogates out. -/
theorem exists_char_of_three (small : k < 0x10)
    (gapless : whole? (scanFrom none (.ofNat (0xE0 + k) :: rest)) = some chars) :
    ∃ (c : Char) (later : Bytes), .ofNat (0xE0 + k) :: rest = encodeCode c.toNat ++ later := by
  rw [scanFrom_enter (enter_three small)] at gapless
  obtain ⟨l, further, _, above, below, rfl⟩ :=
    continued (by split <;> omega) (by split <;> omega) gapless
  rw [scanFrom_more (by omega) above below] at gapless
  obtain ⟨m, later, _, _, _, rfl⟩ := continued (Nat.le_refl _) (Nat.le_refl _) gapless
  have valid : (k * 0x40 + l) * 0x40 + m < 0xD800 ∨ (0xDFFF < (k * 0x40 + l) * 0x40 + m ∧
      (k * 0x40 + l) * 0x40 + m < 0x110000) := by
    split at below <;> omega
  have long : 0x800 ≤ (k * 0x40 + l) * 0x40 + m := by
    split at above <;> omega
  refine ⟨Char.ofNat ((k * 0x40 + l) * 0x40 + m), later, ?_⟩
  rw [encodeCode, toNat_ofNat valid, if_neg (by omega), if_neg (by omega), if_pos (by omega),
    show ((k * 0x40 + l) * 0x40 + m) / 0x1000 = k by omega,
    show ((k * 0x40 + l) * 0x40 + m) / 0x40 % 0x40 = l by omega,
    show ((k * 0x40 + l) * 0x40 + m) % 0x40 = m by omega]
  rfl

/-- Here they keep out overlong forms and what is above the last character. -/
theorem exists_char_of_four (small : k < 5)
    (gapless : whole? (scanFrom none (.ofNat (0xF0 + k) :: rest)) = some chars) :
    ∃ (c : Char) (later : Bytes), .ofNat (0xF0 + k) :: rest = encodeCode c.toNat ++ later := by
  rw [scanFrom_enter (enter_four small)] at gapless
  obtain ⟨l, further, _, above, below, rfl⟩ :=
    continued (by split <;> omega) (by split <;> omega) gapless
  rw [scanFrom_more (by omega) above below] at gapless
  obtain ⟨m, further, _, low, high, rfl⟩ := continued (Nat.le_refl _) (Nat.le_refl _) gapless
  rw [scanFrom_more (by omega) low high] at gapless
  obtain ⟨p, later, _, _, _, rfl⟩ := continued (Nat.le_refl _) (Nat.le_refl _) gapless
  have long : 0x10000 ≤ ((k * 0x40 + l) * 0x40 + m) * 0x40 + p := by
    split at above <;> omega
  have valid : ((k * 0x40 + l) * 0x40 + m) * 0x40 + p < 0x110000 := by
    split at below <;> omega
  refine ⟨Char.ofNat (((k * 0x40 + l) * 0x40 + m) * 0x40 + p), later, ?_⟩
  rw [encodeCode, toNat_ofNat (by omega), if_neg (by omega), if_neg (by omega), if_neg (by omega),
    show (((k * 0x40 + l) * 0x40 + m) * 0x40 + p) / 0x40000 = k by omega,
    show (((k * 0x40 + l) * 0x40 + m) * 0x40 + p) / 0x1000 % 0x40 = l by omega,
    show (((k * 0x40 + l) * 0x40 + m) * 0x40 + p) / 0x40 % 0x40 = m by omega,
    show (((k * 0x40 + l) * 0x40 + m) * 0x40 + p) % 0x40 = p by omega]
  rfl

theorem exists_char_of_whole {byte : UInt8}
    (gapless : whole? (scanFrom none (byte :: rest)) = some chars) :
    ∃ (c : Char) (later : Bytes), byte :: rest = encodeCode c.toNat ++ later := by
  rcases enter_cases byte with ⟨k, small, rfl⟩ | ⟨k, large, small, rfl⟩ | ⟨k, small, rfl⟩ |
    ⟨k, small, rfl⟩ | gap
  · exact exists_char_of_one small rest
  · exact exists_char_of_two large small gapless
  · exact exists_char_of_three small gapless
  · exact exists_char_of_four small gapless
  · simp [scanFrom, step, gap, whole?] at gapless

end Gapless

theorem length_encodeCode_pos (n : Nat) : 0 < (encodeCode n).length := by
  unfold encodeCode
  repeat' split
  all_goals exact Nat.succ_pos _

theorem eq_encode_of_whole (bytes : Bytes) (chars : List Char)
    (gapless : whole? (scanFrom none bytes) = some chars) :
    bytes = encode (Text.ofChars chars) := by
  -- A character takes away as many bytes as it has, so the induction is on the length.
  induction size : bytes.length using Nat.strongRecOn generalizing bytes chars with
  | _ size ih =>
  subst size
  cases bytes with
  | nil =>
    obtain rfl := Option.some.inj gapless
    rfl
  | cons byte rest =>
    obtain ⟨c, later, split⟩ := exists_char_of_whole gapless
    have shorter : later.length < (byte :: rest).length := by
      rw [split, List.length_append]
      exact Nat.lt_add_of_pos_left (length_encodeCode_pos c.toNat)
    rw [split, scanFrom_encodeCode, whole?, Option.map_eq_some_iff] at gapless
    obtain ⟨others, whole, rfl⟩ := gapless
    rw [split, ih _ shorter later others whole rfl]
    rfl

/-- Strict decoding accepts exactly what encoding produces. -/
theorem decode?_eq_some_iff {bytes : Bytes} {text : Text} :
    decode? bytes = some text ↔ text.isEncodable = true ∧ bytes = encode text := by
  constructor
  · intro decoded
    obtain ⟨chars, whole, rfl⟩ := Option.map_eq_some_iff.mp decoded
    exact ⟨Text.isEncodable_ofChars chars, eq_encode_of_whole bytes chars whole⟩
  · rintro ⟨encodable, rfl⟩
    exact decode?_encode encodable

end SealedToken.Utf8
