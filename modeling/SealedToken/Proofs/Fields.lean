import SealedToken.Proofs.Payload

/-!
Fields and what they are written as. Lists of fields free of the delimiter correspond to payloads,
and an expected count only decides which payloads are let through. Issue times within the digit
limit correspond to their digits back to front; zeros at the end of such digits are read, but never
written.
-/

set_option autoImplicit false

namespace SealedToken

/-! ## Fields and payloads -/

namespace Payload

variable {fields : List Text} {payload : Text} {expected : Int}

theorem exists_join_iff :
    (∃ payload, join fields = .ok payload) ↔ ∀ field ∈ fields, delimiter ∉ field := by
  constructor
  · rintro ⟨payload, joined⟩
    exact (join_eq_ok_iff.mp joined).1
  · intro free
    exact ⟨_, join_eq_ok_iff.mpr ⟨free, rfl⟩⟩

/-- The first field that holds the delimiter is blamed. -/
theorem join_eq_error_iff {index : Nat} :
    join fields = .error index ↔
      ∃ within : index < fields.length, delimiter ∈ fields[index] ∧
        ∀ (earlier : Nat) (before : earlier < index), delimiter ∉ fields[earlier] := by
  have first : join fields = .error index ↔ fields.findIdx? (delimiter ∈ ·) = some index := by
    unfold join
    cases fields.findIdx? (delimiter ∈ ·) with
    | none => simp
    | some place => simp
  rw [first, List.findIdx?_eq_some_iff_getElem]
  simp only [decide_eq_true_eq]

/-- A payload that was joined splits into its fields where so many are expected. Any other count is
complained of, unless it is too long to be written. -/
theorem split_joined (nonempty : fields ≠ []) (joined : join fields = .ok payload)
    (expected : Int) :
    split payload expected =
      if expected = fields.length then .ok fields
      else if expected.natAbs < Decimal.tenTo Decimal.digitLimit then
        .error (.rejected (.fieldCount expected fields.length))
      else .error (.limit .writing) := by
  have pieces := split_of_join nonempty joined
  by_cases counted : expected = fields.length
  · rw [if_pos counted, split_of_length (by rw [pieces, counted]), pieces]
  · have miscounted : ((Text.split delimiter payload).length : Int) ≠ expected := by
      rw [pieces]
      exact Ne.symm counted
    rw [if_neg counted]
    split
    · next small => rw [split_of_length_ne miscounted small, pieces]
    · next large => exact split_of_uncountable miscounted large

theorem split_eq_ok_iff :
    split payload expected = .ok fields ↔
      (payload.count delimiter : Int) = expected - 1 ∧ Text.split delimiter payload = fields := by
  have size := Text.length_split delimiter payload
  by_cases counted : ((Text.split delimiter payload).length : Int) = expected
  · have fits : (payload.count delimiter : Int) = expected - 1 := by omega
    rw [split_of_length counted, Except.ok.injEq, and_iff_right fits]
  · have off : (payload.count delimiter : Int) ≠ expected - 1 := by omega
    exact iff_of_false (split_ne_ok counted fields) fun both => off both.1

theorem exists_split_iff :
    (∃ fields, split payload expected = .ok fields) ↔
      (payload.count delimiter : Int) = expected - 1 := by
  simp only [split_eq_ok_iff, exists_and_left, exists_eq', and_true]

/-- What a payload splits into joins to it again. -/
theorem join_split (found : split payload expected = .ok fields) : join fields = .ok payload := by
  obtain ⟨_, rfl⟩ := split_eq_ok_iff.mp found
  refine join_eq_ok_iff.mpr ⟨?_, (Text.join_split delimiter payload).symm⟩
  exact fun field inside => Text.free_of_mem_split delimiter inside

/-- Fields are joined unless one of them holds a tab, and then the first such is named; joined, they
split again where their number is expected, and any other is complained of if it can be written at
all. A payload splits where one more field is expected than it has tabs, and its fields join to
it. -/
theorem join_inverse_split (fields : List Text) (payload : Text) (expected : Int) :
    ((∃ joined, join fields = .ok joined) ↔ ∀ field ∈ fields, .char '\t' ∉ field) ∧
    (∀ index, join fields = .error index ↔
      ∃ within : index < fields.length, .char '\t' ∈ fields[index] ∧
        ∀ (earlier : Nat) (before : earlier < index), .char '\t' ∉ fields[earlier]) ∧
    (∀ index, (SealFault.delimiter index).message =
      s!"Field {index} contains the reserved delimiter") ∧
    (fields ≠ [] → join fields = .ok payload →
      split payload expected =
        if expected = fields.length then .ok fields
        else if expected.natAbs < Decimal.tenTo Decimal.digitLimit then
          .error (.rejected (.fieldCount expected fields.length))
        else .error (.limit .writing)) ∧
    ((∃ found, split payload expected = .ok found) ↔
      (payload.count (.char '\t') : Int) = expected - 1) ∧
    ∀ found, split payload expected = .ok found → join found = .ok payload := by
  refine ⟨exists_join_iff, fun index => join_eq_error_iff, fun index => ?_, ?_,
    exists_split_iff, fun found => join_split⟩
  · rw [Text.ofString_append, Text.ofString_append, SealFault.message, Decimal.ofNat_eq]
    rfl
  · intro nonempty joined
    exact split_joined nonempty joined expected

end Payload

namespace Sample

/-- Fields of which those around the last are empty. -/
def spread : List Text := [[], "a", [], "c d", []]

/-- Fields of which the second and the third hold the delimiter. -/
def torn : List Text := ["ok", "\t", "bad\tvalue"]

end Sample

/-- Five fields are read back where five are expected, and of two with a delimiter the first is
named. -/
theorem Payload.join_inverse_split_spread :
    (∃ payload, join Sample.spread = .ok payload ∧ split payload 5 = .ok Sample.spread ∧
      split payload 6 = .error (.rejected (.fieldCount 6 5)) ∧
      (payload.count (.char '\t') : Int) = 4) ∧
    join Sample.torn = .error 1 := by
  constructor
  · obtain ⟨payload, joined⟩ := (join_inverse_split Sample.spread [] 5).1.mpr (by decide)
    obtain ⟨_, _, _, again, counted, _⟩ := join_inverse_split Sample.spread payload 5
    obtain ⟨_, _, _, amiss, _⟩ := join_inverse_split Sample.spread payload 6
    have five := again (by decide) joined
    have six := amiss (by decide) joined
    rw [if_pos (by decide)] at five
    rw [if_neg (by decide), if_pos (by decide +kernel)] at six
    exact ⟨payload, joined, five, six, counted.mp ⟨_, five⟩⟩
  · obtain ⟨_, refused, _⟩ := join_inverse_split Sample.torn [] 3
    exact (refused 1).mpr (by decide)

/-- A count with more digits than can be written is not complained of. -/
theorem Payload.not_forall_miscount_named :
    ¬ ∀ (fields : List Text) (payload : Text) (expected : Int), fields ≠ [] →
        join fields = .ok payload → expected ≠ fields.length →
          split payload expected = .error (.rejected (.fieldCount expected fields.length)) := by
  intro named
  have joined : join [[.char 'a'], []] = .ok [.char 'a', .char '\t'] := rfl
  have large : ¬ (Decimal.tenTo Decimal.digitLimit : Int).natAbs <
      Decimal.tenTo Decimal.digitLimit := by omega
  have endless := split_joined (List.cons_ne_nil _ _) joined (Decimal.tenTo Decimal.digitLimit)
  have miscounted :
      (Decimal.tenTo Decimal.digitLimit : Int) ≠ ([[.char 'a'], []] : List Text).length := by
    decide +kernel
  rw [if_neg miscounted, if_neg large,
    named _ _ _ (List.cons_ne_nil _ _) joined miscounted] at endless
  exact absurd endless nofun

/-! ## Issue times and their texts -/

namespace Decimal

theorem isDigit_iff {c : CodePoint} : isDigit c = true ↔ '0' ≤ c ∧ c ≤ '9' := by
  simp only [isDigit, Bool.and_eq_true, decide_eq_true_eq]
  exact Iff.rfl

theorem legible_iff {text : Text} :
    Legible text ↔
      1 ≤ text.length ∧ text.length ≤ digitLimit ∧ ∀ c ∈ text, '0' ≤ c ∧ c ≤ '9' := by
  simp only [← isDigit_iff]
  constructor
  · rintro ⟨nonempty, digits, short⟩
    exact ⟨List.length_pos_iff.mpr nonempty, short, digits⟩
  · rintro ⟨positive, short, digits⟩
    exact ⟨List.length_pos_iff.mp positive, digits, short⟩

theorem lowFirst_of_lt {n : Nat} (small : n < 10) : lowFirst n = [digit n] := by
  rw [lowFirst, if_pos small]

/-- The lowest digit stands before those of the number above it. -/
theorem lowFirst_add {low high : Nat} (small : low < 10) (above : high ≠ 0) :
    lowFirst (low + 10 * high) = digit low :: lowFirst high := by
  have large : ¬ low + 10 * high < 10 := by omega
  have lowest : (low + 10 * high) % 10 = low := by omega
  have rest : (low + 10 * high) / 10 = high := by omega
  rw [lowFirst, if_neg large, lowest, rest]

/-- A digit in front is the lowest of the number, and the only one unless the others say more than
zero. -/
theorem lowFirst_lowValue_cons {c : CodePoint} (decimal : isDigit c = true) (rest : Text) :
    lowFirst (lowValue (c :: rest)) =
      if lowValue rest = 0 then [c] else c :: lowFirst (lowValue rest) := by
  have same := digit_of_isDigit decimal
  have small : c.toNat - 48 < 10 := by
    simp only [isDigit, Bool.and_eq_true, decide_eq_true_eq] at decimal
    omega
  rw [lowValue]
  split
  · next vanishes => rw [vanishes, Nat.mul_zero, Nat.add_zero, lowFirst_of_lt small, same]
  · next above => rw [lowFirst_add small above, same]

/-- Digits are those of their value if no zero stands in the highest place, or nothing else does. -/
theorem lowFirst_lowValue_iff {digits : Text} (nonempty : digits ≠ [])
    (decimal : ∀ c ∈ digits, isDigit c = true) :
    lowFirst (lowValue digits) = digits ↔
      digits = [.char '0'] ∨ digits.getLast? ≠ some (.char '0') := by
  induction digits with
  | nil => contradiction
  | cons c rest ih =>
    obtain ⟨first, later⟩ := List.forall_mem_cons.mp decimal
    rw [lowFirst_lowValue_cons first]
    split
    · next vanishes =>
      -- Zeros above the lowest digit are not written, and one of them stands last.
      cases rest with
      | nil => simp [Decidable.em]
      | cons d rest =>
        have zero : (d :: rest).getLast? = some (.char '0') := by
          rw [List.getLast?_eq_some_getLast (List.cons_ne_nil d rest)]
          exact congrArg some ((lowValue_eq_zero_iff later).mp vanishes _ (List.getLast_mem _))
        simp [List.getLast?_cons_cons, zero]
    · next above =>
      have more : rest ≠ [] := by
        rintro rfl
        exact above rfl
      have nonzero : rest ≠ [.char '0'] := by
        rintro rfl
        exact above rfl
      have last : (c :: rest).getLast? = rest.getLast? := List.getLast?_cons_of_ne_nil more
      rw [List.cons_inj_right, ih more later, last]
      simp [nonzero, more]

end Decimal

namespace Payload

theorem disguise_natCast (n : Nat) (text : Text) :
    disguise n = .ok text ↔
      n < Decimal.tenTo Decimal.digitLimit ∧ text = Decimal.lowFirst n := by
  have front : (Decimal.ofInt n).reverse = Decimal.lowFirst n := by
    rw [Decimal.ofInt_of_nonneg (Int.natCast_nonneg n), Int.toNat_natCast, Decimal.ofNat,
      List.reverse_reverse]
  simp only [disguise_eq_ok_iff, Decimal.write?_eq_ok_iff, Int.natAbs_natCast, and_assoc,
    exists_and_left, exists_eq_left, front]

theorem exists_disguise {n : Int} (small : n.natAbs < Decimal.tenTo Decimal.digitLimit) :
    ∃ text, disguise n = .ok text :=
  ⟨_, disguise_eq_ok_iff.mpr ⟨_, Decimal.write?_eq_ok_iff.mpr ⟨small, rfl⟩, rfl⟩⟩

/-- A text read back to front has its lowest digit first. -/
theorem restore_eq_ok_iff {text : Text} {value : Nat} :
    restore text = .ok value ↔ Decimal.Legible text ∧ value = Decimal.lowValue text := by
  have front : Decimal.value text.reverse = Decimal.lowValue text := by
    rw [Decimal.value, List.reverse_reverse]
  obtain ⟨legible, read⟩ | ⟨overlong, failed⟩ | ⟨illegible, _, failed⟩ :=
    number_cases issuedAtField text.reverse
  · rw [restore, read, front, Except.ok.injEq, eq_comm,
      and_iff_right (Decimal.legible_reverse.mp legible)]
  · have illegible := Decimal.not_legible_of_overlong overlong
    rw [Decimal.legible_reverse] at illegible
    exact iff_of_false (by simp [restore, failed]) fun both => illegible both.1
  · rw [Decimal.legible_reverse] at illegible
    exact iff_of_false (by simp [restore, failed]) fun both => illegible both.1

theorem exists_restore_iff {text : Text} :
    (∃ value, restore text = .ok value) ↔ Decimal.Legible text := by
  simp only [restore_eq_ok_iff, exists_and_left, exists_eq, and_true]

/-- A time is written as it was read unless the digits end in superfluous zeros. -/
theorem disguise_restored_iff {text : Text} {value : Nat} (restored : restore text = .ok value) :
    disguise value = .ok text ↔ text = [.char '0'] ∨ text.getLast? ≠ some (.char '0') := by
  obtain ⟨legible, rfl⟩ := restore_eq_ok_iff.mp restored
  have small := Decimal.value_lt_of_legible (Decimal.legible_reverse.mpr legible)
  rw [Decimal.value, List.reverse_reverse] at small
  rw [disguise_natCast, and_iff_right small, eq_comm,
    Decimal.lowFirst_lowValue_iff legible.nonempty legible.digits]

theorem restore_of_foreign {text : Text}
    (foreign : text = [] ∨ ∃ c ∈ text, Decimal.isDigit c = false) :
    restore text = .error (.rejected (.notNumeric issuedAtField)) := by
  obtain rfl | ⟨c, inside, undigital⟩ := foreign
  · rfl
  · exact number_of_foreign issuedAtField (List.mem_reverse.mpr inside) undigital

/-- A time of at most 4300 digits is read as it was written, and one before zero is refused as no
number. A text gives a time if it is one to 4300 digits, and the time is written as that text if it
is a lone zero or does not end in zero. A text with any other character, or none, is no number. -/
theorem disguise_inverse_restore (issuedAt : Int) (text : Text) :
    (issuedAt.natAbs < Decimal.tenTo 4300 →
      ∃ written, disguise issuedAt = .ok written ∧
        (0 ≤ issuedAt → restore written = .ok issuedAt.toNat) ∧
        (issuedAt < 0 →
          restore written = .error (.rejected (.notNumeric "issued_at")))) ∧
    ((∃ value, restore text = .ok value) ↔
      1 ≤ text.length ∧ text.length ≤ 4300 ∧ ∀ c ∈ text, '0' ≤ c ∧ c ≤ '9') ∧
    (∀ value, restore text = .ok value →
      (disguise value = .ok text ↔ text = [.char '0'] ∨ text.getLast? ≠ some (.char '0'))) ∧
    ((text = [] ∨ ∃ c ∈ text, ¬ ('0' ≤ c ∧ c ≤ '9')) →
      restore text = .error (.rejected (.notNumeric "issued_at"))) := by
  refine ⟨?_, exists_restore_iff.trans Decimal.legible_iff, ?_, ?_⟩
  · intro small
    obtain ⟨written, disguised⟩ := exists_disguise small
    refine ⟨written, disguised, ?_, ?_⟩
    · exact fun nonneg => restore_disguise nonneg disguised
    · exact fun negative => restore_disguise_of_neg negative disguised
  · exact fun value restored => disguise_restored_iff restored
  · simp only [← Decimal.isDigit_iff, Bool.not_eq_true]
    exact restore_of_foreign

/-- A zero behind the highest digit is read, but not written; digits of other scripts are no
digits. -/
theorem disguise_inverse_restore_padded :
    (∃ written, disguise 120 = .ok written ∧ restore written = .ok 120) ∧
    (∃ written, disguise (-120) = .ok written ∧
      restore written = .error (.rejected (.notNumeric "issued_at"))) ∧
    restore "0210" = .ok 120 ∧ disguise 120 ≠ .ok "0210" ∧
    restore [.char '١', .char '٢'] = .error (.rejected (.notNumeric "issued_at")) := by
  have padded : restore "0210" = .ok 120 := rfl
  have alien : ∃ c ∈ ([.char '١', .char '٢'] : Text), ¬ ('0' ≤ c ∧ c ≤ '9') :=
    ⟨'١', List.mem_cons_self, by decide⟩
  obtain ⟨forth, _, again, _⟩ := disguise_inverse_restore 120 "0210"
  obtain ⟨back, _, _, foreign⟩ := disguise_inverse_restore (-120) [.char '١', .char '٢']
  obtain ⟨written, disguised, restored, _⟩ := forth (by decide +kernel)
  obtain ⟨signed, also, _, refused⟩ := back (by decide +kernel)
  have rewritten : disguise 120 ≠ .ok "0210" := by
    intro same
    exact absurd ((again 120 padded).mp same) (by decide)
  exact ⟨⟨written, disguised, restored (by decide)⟩, ⟨signed, also, refused (by decide)⟩, padded,
    rewritten, foreign (.inr alien)⟩

end Payload

end SealedToken
