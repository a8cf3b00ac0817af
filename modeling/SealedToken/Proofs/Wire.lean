import SealedToken.Proofs.Opening
import SealedToken.Proofs.Parts
import SealedToken.Proofs.Payload
import SealedToken.Token.Wire

/-!
Records and payloads. A payload is read by what its fields are: five of them and the extension,
with two legible numbers in front. The payload of common fields with sensible times is read back as
those fields in normal form.
-/

set_option autoImplicit false

namespace SealedToken

/-- A reading that ends in a fault for which there is no rejection. -/
def Unrejected {Value : Type} (result : Except ParseFault Value) : Prop :=
  ∃ fault, result = .error fault ∧ ∀ rejection, fault ≠ .rejected rejection

section Unrejected

variable {Value : Type}

@[simp] theorem not_unrejected_ok (value : Value) : ¬ Unrejected (.ok value) := by
  simp [Unrejected]

@[simp] theorem not_unrejected_rejected (rejection : Rejection) :
    ¬ Unrejected (.error (.rejected rejection) : Except ParseFault Value) := by
  simp [Unrejected]

@[simp] theorem unrejected_limit (exceeded : Decimal.LimitExceeded) :
    Unrejected (.error (.limit exceeded) : Except ParseFault Value) := by
  simp [Unrejected]

@[simp] theorem unrejected_unencodable (fault : EncodingFault) :
    Unrejected (.error (.unencodable fault) : Except ParseFault Value) := by
  simp [Unrejected]

end Unrejected

namespace Wire

open Payload (delimiter)

/-! ## Records -/

theorem exists_cons_of_length {fields : List Text} {extensions : Nat}
    (counted : fields.length = commonCount + extensions) :
    ∃ a b c d e extension, fields = a :: b :: c :: d :: e :: extension ∧
      extension.length = extensions := by
  match fields with
  | a :: b :: c :: d :: e :: extension =>
    refine ⟨a, b, c, d, e, extension, rfl, ?_⟩
    simp only [List.length_cons, commonCount] at counted
    omega
  | [] | [_] | [_, _] | [_, _, _] | [_, _, _, _] =>
    simp only [List.length_cons, List.length_nil, commonCount] at counted
    omega

theorem readRecord_cons (a b c d e : Text) (extension : List Text) :
    readRecord (a :: b :: c :: d :: e :: extension) =
      match Payload.restore a with
      | .error fault => .error fault
      | .ok issuedAt =>
        match Payload.number Payload.lifespanField b with
        | .error fault => .error fault
        | .ok lifespan =>
          if lifespan = 0 then .error (.rejected (.notNumeric Payload.lifespanField))
          else
            .ok (⟨issuedAt, lifespan, absentIfEmpty (some c), absentIfEmpty (some d), e⟩,
              extension) := by
  simp only [readRecord, fieldAt, List.getElem?_cons_zero, List.getElem?_cons_succ, bind,
    Except.bind]
  cases Payload.restore a with
  | error fault => rfl
  | ok issuedAt =>
    dsimp only
    cases Payload.number Payload.lifespanField b with
    | error fault => rfl
    | ok lifespan =>
      dsimp only
      split
      · rfl
      · rfl

/-- The common fields that five texts stand for. -/
def commonOf (a b c d e : Text) : Common :=
  ⟨Decimal.value a.reverse, Decimal.value b, absentIfEmpty (some c), absentIfEmpty (some d), e⟩

/-- The numbers of a record that is refused without a rejection: one of them is too long to be
read, and those before it are legible. -/
def NumbersOverlong (a b : Text) : Prop :=
  Decimal.Overlong a ∨ Decimal.Legible a ∧ Decimal.Overlong b

/-- The numbers of a record that is read. -/
structure NumbersLegible (a b : Text) : Prop where
  issuedAt : Decimal.Legible a
  lifespan : Decimal.Legible b
  lifespan_ne_zero : Decimal.value b ≠ 0

theorem NumbersLegible.not_overlong {a b : Text} (legible : NumbersLegible a b) :
    ¬ NumbersOverlong a b := by
  rintro (overlong | ⟨_, overlong⟩)
  · exact Decimal.not_legible_of_overlong overlong legible.issuedAt
  · exact Decimal.not_legible_of_overlong overlong legible.lifespan

/-- What becomes of a record is decided by its numbers. -/
theorem readRecord_cases (a b c d e : Text) (extension : List Text) :
    (NumbersLegible a b ∧
        readRecord (a :: b :: c :: d :: e :: extension) = .ok (commonOf a b c d e, extension)) ∨
      (¬ NumbersLegible a b ∧ NumbersOverlong a b ∧ ∃ exceeded,
        readRecord (a :: b :: c :: d :: e :: extension) = .error (.limit exceeded)) ∨
      (¬ NumbersLegible a b ∧ ¬ NumbersOverlong a b ∧ ∃ rejection,
        readRecord (a :: b :: c :: d :: e :: extension) = .error (.rejected rejection)) := by
  rw [readRecord_cons, Payload.restore, NumbersOverlong]
  rcases Payload.number_cases Payload.issuedAtField a.reverse with
    ⟨legible, read⟩ | ⟨overlong, read⟩ | ⟨illegible, within, read⟩
  · have first := Decimal.legible_reverse.mp legible
    have short : ¬ Decimal.Overlong a := fun overlong =>
      Decimal.not_legible_of_overlong overlong first
    -- The lifespan is looked at only now that the issue time is read.
    rcases Payload.number_cases Payload.lifespanField b with
      ⟨second, counted⟩ | ⟨overlong, counted⟩ | ⟨illegible, within, counted⟩
    · have within : ¬ Decimal.Overlong b := fun overlong =>
        Decimal.not_legible_of_overlong overlong second
      by_cases zero : Decimal.value b = 0
      · have refused : ¬ NumbersLegible a b := fun legible => legible.lifespan_ne_zero zero
        simp [read, counted, zero, refused, short, within]
      · have legible : NumbersLegible a b := ⟨first, second, zero⟩
        simp [read, counted, zero, legible, commonOf]
    · have refused : ¬ NumbersLegible a b := fun legible =>
        Decimal.not_legible_of_overlong overlong legible.lifespan
      simp [read, counted, refused, first, overlong]
    · have refused : ¬ NumbersLegible a b := fun legible => illegible legible.lifespan
      simp [read, counted, refused, short, within]
  · have overlong := Decimal.overlong_reverse.mp overlong
    have refused : ¬ NumbersLegible a b := fun legible =>
      Decimal.not_legible_of_overlong overlong legible.issuedAt
    simp [read, refused, overlong]
  · have illegible : ¬ Decimal.Legible a := fun legible =>
      illegible (Decimal.legible_reverse.mpr legible)
    have within : ¬ Decimal.Overlong a := fun overlong =>
      within (Decimal.overlong_reverse.mpr overlong)
    have refused : ¬ NumbersLegible a b := fun legible => illegible legible.issuedAt
    simp [read, refused, illegible, within]

theorem readRecord_eq_ok_iff {a b c d e : Text} {extension rest : List Text} {common : Common} :
    readRecord (a :: b :: c :: d :: e :: extension) = .ok (common, rest) ↔
      NumbersLegible a b ∧ common = commonOf a b c d e ∧ rest = extension := by
  rcases readRecord_cases a b c d e extension with
    ⟨legible, read⟩ | ⟨illegible, _, exceeded, read⟩ | ⟨illegible, _, rejection, read⟩
  · simp [read, legible, eq_comm]
  · simp [read, illegible]
  · simp [read, illegible]

theorem readRecord_unrejected_iff {a b c d e : Text} {extension : List Text} :
    Unrejected (readRecord (a :: b :: c :: d :: e :: extension)) ↔ NumbersOverlong a b := by
  rcases readRecord_cases a b c d e extension with
    ⟨legible, read⟩ | ⟨_, overlong, exceeded, read⟩ | ⟨_, within, rejection, read⟩
  · simp [read, legible.not_overlong]
  · simp [read, overlong]
  · simp [read, within]

/-! ## Payloads -/

theorem commonFields_eq_ok_iff {common : Common} {fields : List Text} :
    commonFields common = .ok fields ↔
      ∃ issuedAt lifespan, Payload.disguise common.issuedAt = .ok issuedAt ∧
        Decimal.write? common.lifespan = .ok lifespan ∧
          fields = [issuedAt, lifespan, common.subject.getD [], common.schema.getD [],
            common.issuer] := by
  unfold commonFields
  cases Payload.disguise common.issuedAt with
  | error exceeded => simp
  | ok issuedAt =>
    cases Decimal.write? common.lifespan with
    | error exceeded => simp
    | ok lifespan => simp [eq_comm]

theorem payload_eq_ok_iff {common : Common} {extension : List Text} {text : Text} :
    payload common extension = .ok text ↔
      ∃ fields, commonFields common = .ok fields ∧
        Payload.join (fields ++ extension) = .ok text := by
  unfold payload
  cases commonFields common with
  | error exceeded => simp
  | ok fields =>
    cases joined : Payload.join (fields ++ extension) with
    | error index => simp [joined]
    | ok found => simp [joined]

/-- The fields that a payload splits into. -/
theorem split_payload {common : Common} {extension : List Text} {text : Text}
    (written : payload common extension = .ok text) :
    ∃ issuedAt lifespan, Payload.disguise common.issuedAt = .ok issuedAt ∧
      Decimal.write? common.lifespan = .ok lifespan ∧
        Text.split delimiter text =
          issuedAt :: lifespan :: common.subject.getD [] :: common.schema.getD [] ::
            common.issuer :: extension := by
  obtain ⟨front, fields, joined⟩ := payload_eq_ok_iff.mp written
  obtain ⟨issuedAt, lifespan, disguised, digits, rfl⟩ := commonFields_eq_ok_iff.mp fields
  have split := Payload.split_of_join (List.cons_ne_nil _ _) joined
  exact ⟨issuedAt, lifespan, disguised, digits, split⟩

theorem readPayload_of_length {text : Text} {extensions : Nat}
    (counted : (Text.split delimiter text).length = commonCount + extensions) :
    readPayload text extensions = readRecord (Text.split delimiter text) := by
  rw [readPayload, Payload.split_of_length (by omega)]

/-- Common fields with sensible times are read back in normal form, and the extension fields as
they are. -/
theorem readPayload_payload {common : Common} {extension : List Text} {text : Text}
    (issuedAt_nonneg : 0 ≤ common.issuedAt) (lifespan_pos : 0 < common.lifespan)
    (written : payload common extension = .ok text) :
    readPayload text extension.length = .ok (common.normal, extension) := by
  obtain ⟨issuedAt, lifespan, disguised, digits, fields⟩ := split_payload written
  have restored := Payload.restore_disguise issuedAt_nonneg disguised
  have counted := Payload.number_write? Payload.lifespanField (by omega) digits
  have size : (Text.split delimiter text).length = commonCount + extension.length := by
    rw [fields]
    simp only [List.length_cons, commonCount]
    omega
  rw [readPayload_of_length size, fields, readRecord_cons, restored]
  simp only [counted]
  -- A positive lifespan is not the zero that is refused, and both numbers are their own.
  rw [if_neg (by omega), absentIfEmpty_getD, absentIfEmpty_getD,
    Int.toNat_of_nonneg issuedAt_nonneg, Int.toNat_of_nonneg (by omega)]
  rfl

/-- A payload whose fields are too many or too few is rejected with both counts, unless the
expected one is itself too long to be written. -/
theorem readPayload_of_length_ne {text : Text} {extensions : Nat}
    (miscounted : (Text.split delimiter text).length ≠ commonCount + extensions)
    (small : commonCount + extensions < Decimal.tenTo Decimal.digitLimit) :
    readPayload text extensions =
      .error (.rejected (.fieldCount (commonCount + extensions)
        (Text.split delimiter text).length)) := by
  rw [readPayload, Payload.split_of_length_ne (by omega) (by omega)]

/-- The fields of a built-in kind are few enough for their number to be written. -/
theorem countable (kind : Kind) :
    commonCount + kind.layout.length < Decimal.tenTo Decimal.digitLimit := by
  have few : commonCount + kind.layout.length ≤ Decimal.digitLimit := by
    cases kind <;> decide
  exact Nat.lt_of_le_of_lt few (Decimal.lt_tenTo Decimal.digitLimit)

/-- Payloads that are refused without a rejection. -/
def Unreadable (extensions : Nat) (text : Text) : Prop :=
  if (Text.split delimiter text).length = commonCount + extensions then
    NumbersOverlong ((Text.split delimiter text).getD 0 []) ((Text.split delimiter text).getD 1 [])
  else Decimal.tenTo Decimal.digitLimit ≤ commonCount + extensions

theorem readPayload_unrejected_iff {text : Text} {extensions : Nat} :
    Unrejected (readPayload text extensions) ↔ Unreadable extensions text := by
  unfold Unreadable
  split
  · next counted =>
    obtain ⟨a, b, c, d, e, extension, fields, _⟩ := exists_cons_of_length counted
    rw [readPayload_of_length counted, fields]
    exact readRecord_unrejected_iff
  · next miscounted =>
    by_cases small : commonCount + extensions < Decimal.tenTo Decimal.digitLimit
    · rw [readPayload_of_length_ne miscounted small]
      simp [Nat.not_le.mpr small]
    · rw [readPayload, Payload.split_of_uncountable (by omega) (by omega)]
      simp [Nat.le_of_not_lt small]

theorem readPayload_eq_ok_iff {text : Text} {extensions : Nat} {common : Common}
    {extension : List Text} :
    readPayload text extensions = .ok (common, extension) ↔
      ∃ a b c d e, Text.split delimiter text = a :: b :: c :: d :: e :: extension ∧
        extension.length = extensions ∧ NumbersLegible a b ∧ common = commonOf a b c d e := by
  constructor
  · intro read
    by_cases counted : (Text.split delimiter text).length = commonCount + extensions
    · obtain ⟨a, b, c, d, e, rest, fields, size⟩ := exists_cons_of_length counted
      rw [readPayload_of_length counted, fields, readRecord_eq_ok_iff] at read
      obtain ⟨legible, rfl, rfl⟩ := read
      exact ⟨a, b, c, d, e, fields, size, legible, rfl⟩
    · unfold readPayload at read
      split at read
      · contradiction
      · next found => exact absurd found (Payload.split_ne_ok (by omega) _)
  · rintro ⟨a, b, c, d, e, fields, size, legible, rfl⟩
    have counted : (Text.split delimiter text).length = commonCount + extensions := by
      rw [fields]
      simp only [List.length_cons, size, commonCount]
      omega
    rw [readPayload_of_length counted, fields, readRecord_eq_ok_iff]
    exact ⟨legible, rfl, rfl⟩

/-! ## Sealing fields -/

/-- Fields that make no payload draw nothing and ask for no key. -/
theorem encode_of_unwritten {common : Common} {extension : List Text} {fault : SealFault}
    (failed : payload common extension = .error fault) (mark : Text) (resolver : Resolver) :
    encode mark common extension resolver = .fail fault := by
  unfold encode
  rw [failed]

/-- With a payload written, all that is left is to seal it behind the mark. -/
theorem encode_of_written {common : Common} {extension : List Text} {plain : Text}
    (written : payload common extension = .ok plain) (mark : Text) (resolver : Resolver)
    (source : ByteSource) :
    encode mark common extension resolver source =
      ⟨⟨(Sealing.sealFor resolver common.issuer plain source).result.map (mark ++ ·),
        (Sealing.sealFor resolver common.issuer plain source).events⟩,
        (Sealing.sealFor resolver common.issuer plain source).left⟩ := by
  unfold encode
  rw [written]
  exact Draw.bind_pure_apply _ _ source

theorem encode_eq_ok_iff {mark : Text} {common : Common} {extension : List Text}
    {resolver : Resolver} {source : ByteSource} {text : Text} :
    (encode mark common extension resolver source).result = .ok text ↔
      ∃ plain key, payload common extension = .ok plain ∧
        Sealing.Sealable resolver common.issuer plain key ∧
          text = mark ++ Sealing.sealed key common.issuer plain source.nonce := by
  cases written : payload common extension with
  | error fault =>
    rw [encode_of_unwritten written]
    simp [Draw.fail, Draw.ofAttempt]
  | ok plain =>
    rw [encode_of_written written]
    constructor
    · intro encoded
      cases given : (Sealing.sealFor resolver common.issuer plain source).result with
      | error fault => simp [given, Except.map] at encoded
      | ok body =>
        simp only [given, Except.map, Except.ok.injEq] at encoded
        obtain ⟨key, sealable, rfl⟩ := Sealing.sealFor_eq_ok_iff.mp given
        exact ⟨plain, key, rfl, sealable, encoded.symm⟩
    · rintro ⟨_, key, same, sealable, rfl⟩
      obtain rfl := Except.ok.inj same
      rw [Sealing.sealFor_of_sealable sealable]
      rfl

end Wire

end SealedToken
