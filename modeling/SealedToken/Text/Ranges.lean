import SealedToken.Text.Basic

/-!
Sets of characters given by closed ranges of code points.
-/

set_option autoImplicit false

namespace SealedToken.Text

/-- A code point lies in one of the listed closed ranges. -/
def inRanges (ranges : List (Nat × Nat)) (code : Nat) : Bool :=
  ranges.any fun range => range.1 ≤ code && code ≤ range.2

theorem inRanges_iff (ranges : List (Nat × Nat)) (code : Nat) :
    inRanges ranges code = true ↔ ∃ range ∈ ranges, range.1 ≤ code ∧ code ≤ range.2 := by
  simp [inRanges]

end SealedToken.Text

namespace SealedToken.CodePoint

theorem isAlpha_iff {c : CodePoint} :
    c.isAlpha = true ↔ (65 ≤ c.toNat ∧ c.toNat ≤ 90) ∨ (97 ≤ c.toNat ∧ c.toNat ≤ 122) := by
  cases c with
  | char c =>
    have upper : c.isUpper = (65 ≤ c.toNat && c.toNat ≤ 90) := Bool.decide_and ..
    have lower : c.isLower = (97 ≤ c.toNat && c.toNat ≤ 122) := rfl
    change (c.isUpper || c.isLower) = true ↔ _
    simp only [upper, lower, toNat, Bool.or_eq_true, Bool.and_eq_true, decide_eq_true_eq]
  | surrogate index =>
    simp only [isAlpha, toNat]
    constructor
    · simp
    · omega

theorem isDigit_iff {c : CodePoint} : c.isDigit = true ↔ 48 ≤ c.toNat ∧ c.toNat ≤ 57 := by
  cases c with
  | char c =>
    have digit : c.isDigit = (48 ≤ c.toNat && c.toNat ≤ 57) := rfl
    simp only [isDigit, digit, toNat, Bool.and_eq_true, decide_eq_true_eq]
  | surrogate index =>
    simp only [isDigit, toNat]
    constructor
    · simp
    · omega

theorem range_of_isAlphanum {c : CodePoint} (alphanumeric : c.isAlphanum = true) :
    48 ≤ c.toNat ∧ c.toNat ≤ 122 := by
  rw [isAlphanum, Bool.or_eq_true, isAlpha_iff, isDigit_iff] at alphanumeric
  omega

end SealedToken.CodePoint
