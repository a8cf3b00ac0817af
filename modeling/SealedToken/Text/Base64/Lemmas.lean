import SealedToken.Text.Base64

/-!
Base64 read back. Strict reading accepts exactly what writing produces, so each byte sequence has
one text; lenient reading gives back what was written as well.
-/

set_option autoImplicit false

namespace SealedToken.Base64

theorem ofNat_of_eq (byte : UInt8) {n : Nat} (same : n = byte.toNat) : UInt8.ofNat n = byte := by
  rw [same, UInt8.ofNat_toNat]

theorem decode?_encode (bytes : Bytes) : decode? (encode bytes) = some bytes := by
  fun_induction encode bytes with
  | case1 => rfl
  | case2 a =>
    have := a.toNat_lt
    simp only [decode?, value?_symbol (show a.toNat / 4 < 64 by omega),
      value?_symbol (show a.toNat % 4 * 16 < 64 by omega)]
    rw [if_pos (by omega), ofNat_of_eq a (by omega)]
  | case3 a b =>
    have := a.toNat_lt
    have := b.toNat_lt
    simp only [decode?, value?_symbol (show a.toNat / 4 < 64 by omega),
      value?_symbol (show a.toNat % 4 * 16 + b.toNat / 16 < 64 by omega),
      value?_symbol (show b.toNat % 16 * 4 < 64 by omega)]
    rw [if_pos (by omega), ofNat_of_eq a (by omega), ofNat_of_eq b (by omega)]
  | case4 a b c rest ih =>
    have := a.toNat_lt
    have := b.toNat_lt
    have := c.toNat_lt
    simp only [decode?, value?_symbol (show a.toNat / 4 < 64 by omega),
      value?_symbol (show a.toNat % 4 * 16 + b.toNat / 16 < 64 by omega),
      value?_symbol (show b.toNat % 16 * 4 + c.toNat / 64 < 64 by omega),
      value?_symbol (show c.toNat % 64 < 64 by omega), ih]
    rw [ofNat_of_eq a (by omega), ofNat_of_eq b (by omega),
      ofNat_of_eq c (by omega)]

section Quads

variable {v w x y : Nat}

theorem toNat_firstByte (v_small : v < 64) (w_small : w < 64) :
    (UInt8.ofNat (v * 4 + w / 16)).toNat = v * 4 + w / 16 :=
  UInt8.toNat_ofNat_of_lt' (by simp only [UInt8.size]; omega)

theorem toNat_secondByte (x_small : x < 64) :
    (UInt8.ofNat (w % 16 * 16 + x / 4)).toNat = w % 16 * 16 + x / 4 :=
  UInt8.toNat_ofNat_of_lt' (by simp only [UInt8.size]; omega)

theorem toNat_thirdByte (y_small : y < 64) :
    (UInt8.ofNat (x % 4 * 64 + y)).toNat = x % 4 * 64 + y :=
  UInt8.toNat_ofNat_of_lt' (by simp only [UInt8.size]; omega)

end Quads

theorem eq_encode_of_decode? {text : Text} {bytes : Bytes} (read : decode? text = some bytes) :
    text = encode bytes := by
  fun_induction decode? text generalizing bytes with
  | case1 =>
    obtain rfl := Option.some.inj read
    rfl
  | case2 => simp at read
  | case3 p q v w second first spare =>
    obtain rfl := Option.some.inj read
    obtain ⟨v_small, rfl⟩ := symbol_of_value? first
    obtain ⟨w_small, rfl⟩ := symbol_of_value? second
    simp only [encode, toNat_firstByte v_small w_small]
    rw [show (v * 4 + w / 16) / 4 = v by omega, show (v * 4 + w / 16) % 4 * 16 = w by omega]
  | case6 p q r v w x third second first spare =>
    obtain rfl := Option.some.inj read
    obtain ⟨v_small, rfl⟩ := symbol_of_value? first
    obtain ⟨w_small, rfl⟩ := symbol_of_value? second
    obtain ⟨x_small, rfl⟩ := symbol_of_value? third
    simp only [encode, toNat_firstByte v_small w_small, toNat_secondByte x_small]
    rw [show (v * 4 + w / 16) / 4 = v by omega,
      show (v * 4 + w / 16) % 4 * 16 + (w % 16 * 16 + x / 4) / 16 = w by omega,
      show (w % 16 * 16 + x / 4) % 16 * 4 = x by omega]
  | case9 p q r s rest v w x y others later fourth third second first ih =>
    obtain rfl := Option.some.inj read
    obtain ⟨v_small, rfl⟩ := symbol_of_value? first
    obtain ⟨w_small, rfl⟩ := symbol_of_value? second
    obtain ⟨x_small, rfl⟩ := symbol_of_value? third
    obtain ⟨y_small, rfl⟩ := symbol_of_value? fourth
    simp only [encode, toNat_firstByte v_small w_small, toNat_secondByte x_small,
      toNat_thirdByte y_small, ← ih later]
    rw [show (v * 4 + w / 16) / 4 = v by omega,
      show (v * 4 + w / 16) % 4 * 16 + (w % 16 * 16 + x / 4) / 16 = w by omega,
      show (w % 16 * 16 + x / 4) % 16 * 4 + (x % 4 * 64 + y) / 64 = x by omega,
      show (x % 4 * 64 + y) % 64 = y by omega]
  | _ => simp at read

theorem encode_injective : Function.Injective encode := by
  intro first second same
  have read := congrArg decode? same
  rw [decode?_encode, decode?_encode] at read
  exact Option.some.inj read

/-! ## Written text -/

theorem length_encode (bytes : Bytes) : (encode bytes).length = (bytes.length * 4 + 2) / 3 := by
  fun_induction encode bytes with
  | case1 => rfl
  | case2 a => simp
  | case3 a b => simp
  | case4 a b c rest ih =>
    simp only [List.length_cons, ih]
    omega

/-- Bytes that come in threes are written apart from what follows them. -/
theorem encode_append {first : Bytes} (whole : 3 ∣ first.length) (rest : Bytes) :
    encode (first ++ rest) = encode first ++ encode rest := by
  fun_induction encode first with
  | case1 => rfl
  | case2 a => exact absurd whole (by simp)
  | case3 a b => exact absurd whole (by simp)
  | case4 a b c others ih =>
    simp only [List.length_cons] at whole
    simp only [List.cons_append, encode, ih (by omega)]

/-- The characters of written text. -/
def isSymbol (c : CodePoint) : Bool := c.isAlphanum || c = '-' || c = '_'

theorem isSymbol_symbol {v : Nat} (small : v < 64) : isSymbol (symbol v) = true := by
  have : ∀ v : Fin 64, isSymbol (symbol v) = true := by decide +kernel
  exact this ⟨v, small⟩

theorem isSymbol_of_mem_encode {bytes : Bytes} : ∀ c ∈ encode bytes, isSymbol c = true := by
  fun_induction encode bytes with
  | case1 => exact List.forall_mem_nil _
  | case2 a =>
    have := a.toNat_lt
    simp only [List.forall_mem_cons]
    exact ⟨isSymbol_symbol (by omega), isSymbol_symbol (by omega), List.forall_mem_nil _⟩
  | case3 a b =>
    have := a.toNat_lt
    have := b.toNat_lt
    simp only [List.forall_mem_cons]
    exact ⟨isSymbol_symbol (by omega), isSymbol_symbol (by omega), isSymbol_symbol (by omega),
      List.forall_mem_nil _⟩
  | case4 a b c rest ih =>
    have := a.toNat_lt
    have := b.toNat_lt
    have := c.toNat_lt
    simp only [List.forall_mem_cons]
    exact ⟨isSymbol_symbol (by omega), isSymbol_symbol (by omega), isSymbol_symbol (by omega),
      isSymbol_symbol (by omega), ih⟩

theorem isChar_of_isSymbol {c : CodePoint} (symbol : isSymbol c = true) : c.isChar = true := by
  cases c with
  | char c => rfl
  | surrogate index =>
    simp [isSymbol, CodePoint.isAlphanum, CodePoint.isAlpha, CodePoint.isDigit] at symbol

theorem isEncodable_encode (bytes : Bytes) : (encode bytes).isEncodable = true :=
  List.all_eq_true.mpr fun c inside => isChar_of_isSymbol (isSymbol_of_mem_encode c inside)

/-! ## Lenient reading of written text -/

theorem ne_of_symbol {v : Nat} (small : v < 64) :
    symbol v ≠ '=' ∧ symbol v ≠ '+' ∧ symbol v ≠ '/' := by
  have : ∀ v : Fin 64, symbol v ≠ '=' ∧ symbol v ≠ '+' ∧ symbol v ≠ '/' := by decide +kernel
  exact this ⟨v, small⟩

section lenientFrom

variable {v : Nat} (small : v < 64) (left pads : Nat) (rest : Text)

include small

theorem lenientFrom_first :
    lenientFrom 0 left pads (symbol v :: rest) = lenientFrom 1 v 0 rest := by
  obtain ⟨pad, plus, slash⟩ := ne_of_symbol small
  simp only [lenientFrom, if_neg pad, if_neg plus, if_neg slash, value?_symbol small]

theorem lenientFrom_second :
    lenientFrom 1 left pads (symbol v :: rest) =
      (lenientFrom 2 (v % 16) 0 rest).map (.ofNat (left * 4 + v / 16) :: ·) := by
  obtain ⟨pad, plus, slash⟩ := ne_of_symbol small
  simp only [lenientFrom, if_neg pad, if_neg plus, if_neg slash, value?_symbol small]

theorem lenientFrom_third :
    lenientFrom 2 left pads (symbol v :: rest) =
      (lenientFrom 3 (v % 4) 0 rest).map (.ofNat (left * 16 + v / 4) :: ·) := by
  obtain ⟨pad, plus, slash⟩ := ne_of_symbol small
  simp only [lenientFrom, if_neg pad, if_neg plus, if_neg slash, value?_symbol small]

theorem lenientFrom_fourth :
    lenientFrom 3 left pads (symbol v :: rest) =
      (lenientFrom 0 0 0 rest).map (.ofNat (left * 64 + v) :: ·) := by
  obtain ⟨pad, plus, slash⟩ := ne_of_symbol small
  simp only [lenientFrom, if_neg pad, if_neg plus, if_neg slash, value?_symbol small]

end lenientFrom

/-- A whole quad is three bytes, and leaves the reader as it was at the start. -/
theorem decodeLenient?_quad {v w x y : Nat} (first : v < 64) (second : w < 64) (third : x < 64)
    (fourth : y < 64) (rest : Text) :
    decodeLenient? (symbol v :: symbol w :: symbol x :: symbol y :: rest) =
      (decodeLenient? rest).map fun bytes =>
        .ofNat (v * 4 + w / 16) :: .ofNat (w % 16 * 16 + x / 4) :: .ofNat (x % 4 * 64 + y) ::
          bytes := by
  have quad : ∀ rest, lenientFrom 0 0 0 (symbol v :: symbol w :: symbol x :: symbol y :: rest) =
      (lenientFrom 0 0 0 rest).map fun bytes =>
        .ofNat (v * 4 + w / 16) :: .ofNat (w % 16 * 16 + x / 4) :: .ofNat (x % 4 * 64 + y) ::
          bytes := by
    intro rest
    rw [lenientFrom_first first, lenientFrom_second second, lenientFrom_third third,
      lenientFrom_fourth fourth, Option.map_map, Option.map_map]
    rfl
  have size : (symbol v :: symbol w :: symbol x :: symbol y :: rest).length % 4 =
      rest.length % 4 := by
    simp only [List.length_cons]
    omega
  unfold decodeLenient?
  rw [size]
  split
  · exact quad rest
  · exact quad (rest ++ [.char '=', .char '='])
  · exact quad (rest ++ [.char '='])
  · rfl

/-- Lenient reading gives back what was written. -/
theorem decodeLenient?_encode (bytes : Bytes) : decodeLenient? (encode bytes) = some bytes := by
  fun_induction encode bytes with
  | case1 => rfl
  | case2 a =>
    have := a.toNat_lt
    have ended : ∀ left, lenientFrom 2 left 0 ['=', '='] = some [] := fun _ => rfl
    change lenientFrom 0 0 0 [symbol _, symbol _, '=', '='] = _
    rw [lenientFrom_first (by omega), lenientFrom_second (by omega), ended, Option.map_some,
      ofNat_of_eq a (by omega)]
  | case3 a b =>
    have := a.toNat_lt
    have := b.toNat_lt
    have ended : ∀ left, lenientFrom 3 left 0 ['='] = some [] := fun _ => rfl
    change lenientFrom 0 0 0 [symbol _, symbol _, symbol _, '='] = _
    rw [lenientFrom_first (by omega), lenientFrom_second (by omega), lenientFrom_third (by omega),
      ended, Option.map_some, Option.map_some, ofNat_of_eq a (by omega), ofNat_of_eq b (by omega)]
  | case4 a b c rest ih =>
    have := a.toNat_lt
    have := b.toNat_lt
    have := c.toNat_lt
    rw [decodeLenient?_quad (by omega) (by omega) (by omega) (by omega), ih, Option.map_some,
      ofNat_of_eq a (by omega), ofNat_of_eq b (by omega), ofNat_of_eq c (by omega)]

end SealedToken.Base64
