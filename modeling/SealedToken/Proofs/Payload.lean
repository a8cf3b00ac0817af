import SealedToken.Payload

/-!
Payloads read back. Fields without the delimiter are joined and split again, and a number within
the digit limit is read as it was written, back to front or not. What a number field says is known
from its characters alone: it is legible, too long, or no number.
-/

set_option autoImplicit false

namespace SealedToken

namespace Decimal

/-- A run of digits that is short enough to be read. -/
structure Legible (text : Text) : Prop where
  nonempty : text ≠ []
  digits : ∀ c ∈ text, isDigit c = true
  short : text.length ≤ digitLimit

/-- A run of digits beyond the digit limit. -/
structure Overlong (text : Text) : Prop where
  digits : ∀ c ∈ text, isDigit c = true
  long : digitLimit < text.length

theorem not_legible_of_overlong {text : Text} (overlong : Overlong text) : ¬ Legible text :=
  fun legible => Nat.not_lt.mpr legible.short overlong.long

theorem legible_reverse {text : Text} : Legible text.reverse ↔ Legible text := by
  constructor
  · rintro ⟨nonempty, digits, short⟩
    exact ⟨by simpa using nonempty, by simpa using digits, by simpa using short⟩
  · rintro ⟨nonempty, digits, short⟩
    exact ⟨by simpa using nonempty, by simpa using digits, by simpa using short⟩

theorem overlong_reverse {text : Text} : Overlong text.reverse ↔ Overlong text := by
  constructor
  · rintro ⟨digits, long⟩
    exact ⟨by simpa using digits, by simpa using long⟩
  · rintro ⟨digits, long⟩
    exact ⟨by simpa using digits, by simpa using long⟩

theorem legible_ofNat {n : Nat} (small : n < tenTo digitLimit) : Legible (ofNat n) where
  nonempty := by simpa [ofNat] using lowFirst_ne_nil n
  digits := isDigit_of_mem_ofNat n
  short := by simpa [ofNat] using (length_lowFirst_le (by decide)).mpr small

theorem write?_eq_ok_iff {n : Int} {text : Text} :
    write? n = .ok text ↔ n.natAbs < tenTo digitLimit ∧ text = ofInt n := by
  unfold write?
  split
  · next small =>
    simp only [Except.ok.injEq, small, true_and]
    exact eq_comm
  · next large => simp [large]

theorem write?_of_large {n : Int} (large : ¬ n.natAbs < tenTo digitLimit) :
    write? n = .error .writing := by
  rw [write?, if_neg large]

theorem lt_tenTo (n : Nat) : n < tenTo n := by
  induction n with
  | zero => exact tenTo_pos 0
  | succ n ih =>
    rw [tenTo_succ]
    omega

theorem ofInt_of_nonneg {n : Int} (nonneg : 0 ≤ n) : ofInt n = ofNat n.toNat := by
  have same : n.natAbs = n.toNat := by omega
  rw [ofInt, if_neg (by omega), same]

theorem tenTo_mono {m n : Nat} (le : m ≤ n) : tenTo m ≤ tenTo n :=
  Nat.pow_le_pow_right (by decide) le

/-- What is read from few enough digits can be written in as many. -/
theorem value_lt_of_legible {text : Text} (legible : Legible text) :
    value text < tenTo digitLimit := by
  have digits : ∀ c ∈ text.reverse, isDigit c = true := by simpa using legible.digits
  have short : text.reverse.length ≤ digitLimit := by simpa using legible.short
  exact Nat.lt_of_lt_of_le (lowValue_lt text.reverse digits) (tenTo_mono short)

/-- Numbers that are not negative are written in digits alone. -/
theorem isDigit_of_write? {n : Int} {text : Text} (nonneg : 0 ≤ n) (written : write? n = .ok text) :
    ∀ c ∈ text, isDigit c = true := by
  obtain ⟨_, rfl⟩ := write?_eq_ok_iff.mp written
  rw [ofInt_of_nonneg nonneg]
  exact isDigit_of_mem_ofNat n.toNat

theorem exists_write? {n : Int} (nonneg : 0 ≤ n) (small : n.natAbs < tenTo digitLimit) :
    ∃ text, write? n = .ok text ∧ ∀ c ∈ text, isDigit c = true := by
  have written := write?_eq_ok_iff.mpr ⟨small, rfl⟩
  exact ⟨_, written, isDigit_of_write? nonneg written⟩

theorem lowValue_eq_zero_iff {digits : Text} (decimal : ∀ c ∈ digits, isDigit c = true) :
    lowValue digits = 0 ↔ ∀ c ∈ digits, c = '0' := by
  induction digits with
  | nil => simp [lowValue]
  | cons c rest ih =>
    obtain ⟨first, later⟩ := List.forall_mem_cons.mp decimal
    have zero : c.toNat - 48 = 0 ↔ c = '0' := by
      constructor
      · intro low
        rw [← digit_of_isDigit first, low]
        rfl
      · rintro rfl
        rfl
    simp only [lowValue, List.forall_mem_cons, ← ih later, ← zero]
    omega

end Decimal

namespace Payload

theorem number_of_legible {text : Text} (field : Text) (legible : Decimal.Legible text) :
    number field text = .ok (Decimal.value text) := by
  have nonempty := List.isEmpty_eq_false_iff.mpr legible.nonempty
  have digits := List.all_eq_true.mpr legible.digits
  simp [number, nonempty, digits, Decimal.read?, legible.short]

theorem number_of_overlong {text : Text} (field : Text) (overlong : Decimal.Overlong text) :
    number field text = .error (.limit (.reading text.length)) := by
  have nonempty : text.isEmpty = false := by
    rw [List.isEmpty_eq_false_iff]
    rintro rfl
    exact absurd overlong.long (Nat.not_lt_zero _)
  have digits := List.all_eq_true.mpr overlong.digits
  simp [number, nonempty, digits, Decimal.read?, Nat.not_le.mpr overlong.long]

theorem number_of_neither {text : Text} (field : Text) (illegible : ¬ Decimal.Legible text)
    (within : ¬ Decimal.Overlong text) :
    number field text = .error (.rejected (.notNumeric field)) := by
  unfold number
  split
  · rfl
  · next plain =>
    simp only [Bool.or_eq_true, Bool.not_eq_true', not_or, Bool.not_eq_true,
      Bool.not_eq_false, List.isEmpty_eq_false_iff, List.all_eq_true] at plain
    by_cases short : text.length ≤ Decimal.digitLimit
    · exact absurd ⟨plain.1, plain.2, short⟩ illegible
    · exact absurd ⟨plain.2, Nat.lt_of_not_le short⟩ within

/-- What a field of digits holds, by its characters. -/
theorem number_cases (field text : Text) :
    (Decimal.Legible text ∧ number field text = .ok (Decimal.value text)) ∨
      (Decimal.Overlong text ∧ number field text = .error (.limit (.reading text.length))) ∨
        (¬ Decimal.Legible text ∧ ¬ Decimal.Overlong text ∧
          number field text = .error (.rejected (.notNumeric field))) := by
  by_cases legible : Decimal.Legible text
  · exact .inl ⟨legible, number_of_legible field legible⟩
  by_cases overlong : Decimal.Overlong text
  · exact .inr (.inl ⟨overlong, number_of_overlong field overlong⟩)
  · exact .inr (.inr ⟨legible, overlong, number_of_neither field legible overlong⟩)

theorem number_write? {n : Int} {text : Text} (field : Text) (nonneg : 0 ≤ n)
    (written : Decimal.write? n = .ok text) : number field text = .ok n.toNat := by
  obtain ⟨small, rfl⟩ := Decimal.write?_eq_ok_iff.mp written
  rw [Decimal.ofInt_of_nonneg nonneg]
  have same : n.natAbs = n.toNat := by omega
  have legible : Decimal.Legible (Decimal.ofNat n.toNat) := by
    rw [same] at small
    exact Decimal.legible_ofNat small
  rw [number_of_legible field legible, Decimal.value_ofNat]

theorem number_of_foreign {text : Text} {c : CodePoint} (field : Text) (inside : c ∈ text)
    (foreign : Decimal.isDigit c = false) :
    number field text = .error (.rejected (.notNumeric field)) := by
  have undigital : ¬ ∀ c ∈ text, Decimal.isDigit c = true := by
    intro digits
    rw [digits c inside] at foreign
    contradiction
  exact number_of_neither field (fun legible => undigital legible.digits)
    fun overlong => undigital overlong.digits

/-- A negative number is written with a sign, which is no digit. -/
theorem number_write?_of_neg {n : Int} {text : Text} (field : Text) (negative : n < 0)
    (written : Decimal.write? n = .ok text) :
    number field text = .error (.rejected (.notNumeric field)) := by
  obtain ⟨_, rfl⟩ := Decimal.write?_eq_ok_iff.mp written
  have signed : .char '-' ∈ Decimal.ofInt n := by
    rw [Decimal.ofInt, if_pos negative]
    exact List.mem_cons_self
  exact number_of_foreign field signed (by decide)

theorem delimiter_not_mem_of_digits {text : Text}
    (digits : ∀ c ∈ text, Decimal.isDigit c = true) : delimiter ∉ text :=
  fun inside => absurd (digits delimiter inside) (by decide)

theorem disguise_eq_ok_iff {n : Int} {text : Text} :
    disguise n = .ok text ↔ ∃ plain, Decimal.write? n = .ok plain ∧ text = plain.reverse := by
  unfold disguise
  cases Decimal.write? n with
  | error exceeded => simp
  | ok plain => simp [eq_comm]

theorem restore_disguise {n : Int} {text : Text} (nonneg : 0 ≤ n)
    (disguised : disguise n = .ok text) : restore text = .ok n.toNat := by
  obtain ⟨plain, written, rfl⟩ := disguise_eq_ok_iff.mp disguised
  rw [restore, List.reverse_reverse]
  exact number_write? issuedAtField nonneg written

/-- The sign stays a sign back to front. -/
theorem restore_disguise_of_neg {n : Int} {text : Text} (negative : n < 0)
    (disguised : disguise n = .ok text) :
    restore text = .error (.rejected (.notNumeric issuedAtField)) := by
  obtain ⟨plain, written, rfl⟩ := disguise_eq_ok_iff.mp disguised
  rw [restore, List.reverse_reverse]
  exact number_write?_of_neg issuedAtField negative written

theorem join_eq_ok_iff {fields : List Text} {payload : Text} :
    join fields = .ok payload ↔
      (∀ field ∈ fields, delimiter ∉ field) ∧ payload = Text.join delimiter fields := by
  unfold join
  cases found : fields.findIdx? (delimiter ∈ ·) with
  | some index =>
    simp only [reduceCtorEq, false_iff, not_and]
    intro free
    obtain ⟨bound, holds, _⟩ := List.findIdx?_eq_some_iff_getElem.mp found
    exact absurd (of_decide_eq_true holds) (free fields[index] (List.getElem_mem bound))
  | none =>
    have free : ∀ field ∈ fields, delimiter ∉ field := by
      simpa using List.findIdx?_eq_none_iff.mp found
    simp only [Except.ok.injEq]
    exact ⟨fun same => ⟨free, same.symm⟩, fun joined => joined.2.symm⟩

theorem join_of_first (before : List Text) {field : Text}
    (free : ∀ earlier ∈ before, delimiter ∉ earlier) (held : delimiter ∈ field)
    (after : List Text) : join (before ++ field :: after) = .error before.length := by
  have none_before : before.findIdx? (delimiter ∈ ·) = none := by
    simpa [List.findIdx?_eq_none_iff] using free
  simp [join, List.findIdx?_append, none_before, List.findIdx?_cons, held]

/-- A joined payload splits into its fields. -/
theorem split_of_join {fields : List Text} {payload : Text} (nonempty : fields ≠ [])
    (joined : join fields = .ok payload) : Text.split delimiter payload = fields := by
  obtain ⟨free, rfl⟩ := join_eq_ok_iff.mp joined
  exact Text.split_join delimiter nonempty free

theorem split_of_length {payload : Text} {expected : Int}
    (counted : ((Text.split delimiter payload).length : Int) = expected) :
    split payload expected = .ok (Text.split delimiter payload) := by
  simp only [split, if_pos counted]

theorem split_of_length_ne {payload : Text} {expected : Int}
    (miscounted : ((Text.split delimiter payload).length : Int) ≠ expected)
    (small : expected.natAbs < Decimal.tenTo Decimal.digitLimit) :
    split payload expected =
      .error (.rejected (.fieldCount expected (Text.split delimiter payload).length)) := by
  have written := Decimal.write?_eq_ok_iff.mpr ⟨small, rfl⟩
  simp only [split, if_neg miscounted, written]

/-- A count that is too long to be written cannot be complained of. -/
theorem split_of_uncountable {payload : Text} {expected : Int}
    (miscounted : ((Text.split delimiter payload).length : Int) ≠ expected)
    (large : ¬ expected.natAbs < Decimal.tenTo Decimal.digitLimit) :
    split payload expected = .error (.limit .writing) := by
  simp only [split, if_neg miscounted, Decimal.write?_of_large large]

theorem split_ne_ok {payload : Text} {expected : Int}
    (miscounted : ((Text.split delimiter payload).length : Int) ≠ expected) (fields : List Text) :
    split payload expected ≠ .ok fields := by
  by_cases small : expected.natAbs < Decimal.tenTo Decimal.digitLimit
  · rw [split_of_length_ne miscounted small]
    exact nofun
  · rw [split_of_uncountable miscounted small]
    exact nofun

end Payload

end SealedToken
