import SealedToken.Text.Basic

/-!
Decimal text of integers. Conversions in either direction are bounded by a digit limit, which
keeps their cost bounded; a number is read back from its written digits.
-/

set_option autoImplicit false

namespace SealedToken.Decimal

/-- The greatest number of digits converted in either direction. -/
def digitLimit : Nat := 4300

/-- A conversion beyond the digit limit. -/
inductive LimitExceeded where
  | reading (digits : Nat)
  | writing
  deriving DecidableEq, Repr

def LimitExceeded.message : LimitExceeded → Text
  | .reading digits =>
    s!"Exceeds the limit ({digitLimit} digits) for integer string conversion: " ++
      s!"value has {digits} digits; use sys.set_int_max_str_digits() to increase the limit"
  | .writing =>
    s!"Exceeds the limit ({digitLimit} digits) for integer string conversion; " ++
      "use sys.set_int_max_str_digits() to increase the limit"

def digit (value : Nat) : CodePoint := CodePoint.ofNat (48 + value)

def isDigit (c : CodePoint) : Bool := 48 ≤ c.toNat && c.toNat ≤ 57

theorem isEncodable_of_digits {digits : Text} (decimal : ∀ c ∈ digits, isDigit c = true) :
    digits.isEncodable = true := by
  refine List.all_eq_true.mpr fun c inside => CodePoint.isChar_of_lt ?_
  have range := decimal c inside
  simp only [isDigit, Bool.and_eq_true, decide_eq_true_eq] at range
  omega

/-- The digits of a number, lowest first. -/
def lowFirst (n : Nat) : Text :=
  if n < 10 then [digit n] else digit (n % 10) :: lowFirst (n / 10)
termination_by n

def ofNat (n : Nat) : Text := (lowFirst n).reverse

def ofInt (n : Int) : Text :=
  if n < 0 then '-' :: ofNat n.natAbs else ofNat n.natAbs

/-- The value of digits given lowest first. -/
def lowValue : Text → Nat
  | [] => 0
  | c :: rest => (c.toNat - 48) + 10 * lowValue rest

def value (digits : Text) : Nat := lowValue digits.reverse

/-- How many numbers have so many digits at most. -/
def tenTo (k : Nat) : Nat := Nat.pow 10 k

theorem tenTo_succ (k : Nat) : tenTo (k + 1) = tenTo k * 10 := rfl

theorem tenTo_pos (k : Nat) : 0 < tenTo k := by
  induction k with
  | zero => decide
  | succ k ih =>
    rw [tenTo_succ]
    omega

theorem toNat_digit {d : Nat} (small : d < 10) : (digit d).toNat = 48 + d := by
  have : ∀ d : Fin 10, (digit d.val).toNat = 48 + d.val := by decide
  exact this ⟨d, small⟩

theorem isDigit_digit {d : Nat} (small : d < 10) : isDigit (digit d) = true := by
  simp only [isDigit, toNat_digit small, Bool.and_eq_true, decide_eq_true_eq]
  omega

theorem digit_of_isDigit {c : CodePoint} (decimal : isDigit c = true) :
    digit (c.toNat - 48) = c := by
  simp only [isDigit, Bool.and_eq_true, decide_eq_true_eq] at decimal
  rw [digit, show 48 + (c.toNat - 48) = c.toNat by omega, CodePoint.ofNat_toNat]

theorem lowValue_lowFirst (n : Nat) : lowValue (lowFirst n) = n := by
  fun_induction lowFirst n with
  | case1 n small => simp [lowValue, toNat_digit small]
  | case2 n large ih =>
    have := Nat.mod_lt n (by omega : 0 < 10)
    simp only [lowValue, ih, toNat_digit this]
    omega

theorem value_ofNat (n : Nat) : value (ofNat n) = n := by
  simp [value, ofNat, lowValue_lowFirst]

theorem ofNat_inj {m n : Nat} : ofNat m = ofNat n ↔ m = n := by
  constructor
  · intro same
    rw [← value_ofNat m, same, value_ofNat]
  · rintro rfl
    rfl

/-- The digits are those of the library. -/
theorem ofNat_eq (n : Nat) : ofNat n = Text.ofString (toString n) := by
  have shown : ∀ d < 10, digit d = .char d.digitChar := by decide
  rw [ofNat, Nat.toString_eq_ofList_toDigits, Text.ofString, Text.ofChars, String.toList_ofList]
  fun_induction lowFirst n with
  | case1 n small => simp [Nat.toDigits_of_lt_base small, shown n small]
  | case2 n large ih =>
    rw [Nat.toDigits_of_base_le (by decide) (by omega), List.reverse_cons, ih, List.map_append,
      List.map_singleton, shown _ (Nat.mod_lt n (by decide))]

theorem isDigit_of_mem_lowFirst (n : Nat) : ∀ c ∈ lowFirst n, isDigit c = true := by
  fun_induction lowFirst n with
  | case1 n small => simp [isDigit_digit small]
  | case2 n large ih =>
    intro c inside
    cases inside with
    | head => exact isDigit_digit (Nat.mod_lt _ (by omega))
    | tail _ later => exact ih c later

theorem isDigit_of_mem_ofNat (n : Nat) : ∀ c ∈ ofNat n, isDigit c = true := by
  simpa [ofNat] using isDigit_of_mem_lowFirst n

theorem lowFirst_ne_nil (n : Nat) : lowFirst n ≠ [] := by
  rw [lowFirst]
  split <;> simp

theorem length_lowFirst_le {n k : Nat} (positive : 0 < k) :
    (lowFirst n).length ≤ k ↔ n < tenTo k := by
  induction k generalizing n with
  | zero => omega
  | succ k ih =>
    rw [lowFirst]
    split
    · next small =>
      have := tenTo_pos k
      simp only [List.length_singleton, tenTo_succ]
      omega
    · next large =>
      by_cases base : k = 0
      · subst base
        have := List.length_pos_iff.mpr (lowFirst_ne_nil (n / 10))
        have one : tenTo 0 = 1 := rfl
        simp only [List.length_cons, tenTo_succ, one]
        omega
      · rw [List.length_cons, Nat.add_le_add_iff_right, ih (by omega), tenTo_succ]
        omega

theorem lowValue_lt (digits : Text) (decimal : ∀ c ∈ digits, isDigit c = true) :
    lowValue digits < tenTo digits.length := by
  induction digits with
  | nil => exact tenTo_pos 0
  | cons c rest ih =>
    have small := decimal c List.mem_cons_self
    have later := ih fun d inside => decimal d (List.mem_cons_of_mem _ inside)
    simp only [isDigit, Bool.and_eq_true, decide_eq_true_eq] at small
    simp only [lowValue, List.length_cons, tenTo_succ]
    omega

/-- The text of an integer within the digit limit. -/
def write? (n : Int) : Except LimitExceeded Text :=
  if n.natAbs < tenTo digitLimit then .ok (ofInt n) else .error .writing

/-- The value of a run of digits within the digit limit. -/
def read? (digits : Text) : Except LimitExceeded Nat :=
  if digits.length ≤ digitLimit then .ok (value digits) else .error (.reading digits.length)

end SealedToken.Decimal
