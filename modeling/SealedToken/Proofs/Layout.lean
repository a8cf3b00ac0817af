import SealedToken.Proofs.RoundTrip

/-!
The common layout. Whatever numbers and texts are sealed as common and extension fields, they open
to the same fields. A miscount is noticed first, then a negative issue time, then a lifespan that is
not positive; otherwise the common fields come back in normal form and the extension as it was.
-/

set_option autoImplicit false

namespace SealedToken

namespace Wire

variable {common : Common} {extension : List Text} {text : Text}

/-- What reading makes of common and extension fields that were written, where so many extension
fields are expected. An expected count beyond the digit limit cannot even be reported. -/
def reread (common : Common) (extension : List Text) (extensions : Nat) :
    Except ParseFault (Common × List Text) :=
  if extensions ≠ extension.length then
    if commonCount + extensions < Decimal.tenTo Decimal.digitLimit then
      .error (.rejected (.fieldCount (commonCount + extensions : Nat)
        (commonCount + extension.length)))
    else .error (.limit .writing)
  else if common.issuedAt < 0 then .error (.rejected (.notNumeric Payload.issuedAtField))
  else if common.lifespan ≤ 0 then .error (.rejected (.notNumeric Payload.lifespanField))
  else .ok (common.normal, extension)

theorem length_split_payload (written : payload common extension = .ok text) :
    (Text.split Payload.delimiter text).length = commonCount + extension.length := by
  obtain ⟨_, _, _, _, fields⟩ := split_payload written
  rw [fields]
  simp only [List.length_cons, commonCount]
  omega

theorem readPayload_of_issuedAt_neg (negative : common.issuedAt < 0)
    (written : payload common extension = .ok text) :
    readPayload text extension.length =
      .error (.rejected (.notNumeric Payload.issuedAtField)) := by
  obtain ⟨issuedAt, lifespan, disguised, _, fields⟩ := split_payload written
  rw [readPayload_of_length (length_split_payload written), fields, readRecord_cons,
    Payload.restore_disguise_of_neg negative disguised]

theorem readPayload_of_lifespan_nonpos (issuedAt_nonneg : 0 ≤ common.issuedAt)
    (nonpositive : common.lifespan ≤ 0) (written : payload common extension = .ok text) :
    readPayload text extension.length =
      .error (.rejected (.notNumeric Payload.lifespanField)) := by
  obtain ⟨issuedAt, lifespan, disguised, digits, fields⟩ := split_payload written
  have restored := Payload.restore_disguise issuedAt_nonneg disguised
  rw [readPayload_of_length (length_split_payload written), fields, readRecord_cons, restored]
  -- A negative lifespan is no number at all; zero is one, and refused in the same words.
  rcases Int.lt_or_eq_of_le nonpositive with negative | zero
  · simp only [Payload.number_write?_of_neg Payload.lifespanField negative digits]
  · have counted := Payload.number_write? Payload.lifespanField (Int.le_of_eq zero.symm) digits
    simp only [counted, zero, Int.toNat_zero, if_true]

theorem readPayload_eq_reread (written : payload common extension = .ok text) (extensions : Nat) :
    readPayload text extensions = reread common extension extensions := by
  have size := length_split_payload written
  unfold reread
  split
  · next miscounted =>
    have other : (Text.split Payload.delimiter text).length ≠ commonCount + extensions := by omega
    split
    · next small => rw [readPayload_of_length_ne other small, size, Int.natCast_add]
    · next large => rw [readPayload, Payload.split_of_uncountable (by omega) (by omega)]
  · next counted =>
    obtain rfl := Decidable.not_not.mp counted
    split
    · next negative => exact readPayload_of_issuedAt_neg negative written
    split
    · next nonpositive =>
      exact readPayload_of_lifespan_nonpos (by omega) nonpositive written
    · exact readPayload_payload (by omega) (by omega) written

theorem decode_sealed {resolver : Resolver} {key : Key}
    (written : payload common extension = .ok text)
    (sealable : Sealing.Sealable resolver common.issuer text key) (nonce : Nonce)
    (extensions : Nat) :
    (decode (Sealing.sealed key common.issuer text nonce) common.issuer extensions
      resolver).result = reread common extension extensions := by
  have unsealed := Sealing.unsealFor_sealed sealable nonce
  rw [Variant.decode_of_unsealed unsealed, readPayload_eq_reread written]

/-- What was sealed under any mark opens for its issuer to what its fields are worth: with another
number of extension fields to a complaint of both counts, with a negative issue time or a lifespan
that is not positive to a complaint of that number, and otherwise to the fields themselves. -/
theorem reread_of_encode {mark : Text} {resolver : Resolver} {source : ByteSource}
    (encoded : (encode mark common extension resolver source).result = .ok text) :
    ∃ body, text = mark ++ body ∧ ∀ extensions : Nat,
      (decode body common.issuer extensions resolver).result =
        reread common extension extensions := by
  obtain ⟨plain, key, written, sealable, rfl⟩ := encode_eq_ok_iff.mp encoded
  exact ⟨_, rfl, decode_sealed written sealable source.nonce⟩

theorem encode_of_sealable {resolver : Resolver} {key : Key}
    (written : payload common extension = .ok text)
    (sealable : Sealing.Sealable resolver common.issuer text key) (mark : Text)
    (source : ByteSource) :
    (encode mark common extension resolver source).result =
      .ok (mark ++ Sealing.sealed key common.issuer text source.nonce) :=
  encode_eq_ok_iff.mpr ⟨text, key, written, sealable, rfl⟩

end Wire

namespace Sample

/-- Common fields with an empty subject, and times that may be those of no token. -/
def timed (issuedAt lifespan : Int) : Common :=
  ⟨issuedAt, lifespan, some [], some "app", issuer⟩

/-- Extension fields of which the first and the last are empty. -/
def hollow : List Text := [[], "a b", []]

def mark : Text := "X~"

def hollowPayload (issuedAt lifespan : String) : Text :=
  Text.join Payload.delimiter <|
    [issuedAt, lifespan, "", "app", "https://cell.example/", "", "a b", ""].map Text.ofString

theorem payload_timed : Wire.payload (timed 120 60) hollow = .ok (hollowPayload "021" "60") := by
  decide +kernel

theorem payload_untimely :
    Wire.payload (timed (-120) 0) hollow = .ok (hollowPayload "021-" "0") := by
  decide +kernel

theorem sealable_of_timed {issuedAt lifespan : Int} {text : Text}
    (encodable : text.isEncodable = true) :
    Sealing.Sealable secret.resolver (timed issuedAt lifespan).issuer text
      (secret.keyFor issuer) :=
  secret.sealable (show issuer ≠ [] by decide) (show issuer.isEncodable = true by decide) encodable

end Sample

/-- With three extension fields, two are too few; a negative issue time comes before a lifespan of
zero; and an empty subject comes back absent. -/
theorem Wire.reread_of_encode_hollow :
    (∃ body, (encode Sample.mark (Sample.timed (-120) 0) Sample.hollow Sample.secret.resolver
          Sample.source).result = .ok (Sample.mark ++ body) ∧
        (decode body Sample.issuer 2 Sample.secret.resolver).result =
          .error (.rejected (.fieldCount 7 8)) ∧
        (decode body Sample.issuer 3 Sample.secret.resolver).result =
          .error (.rejected (.notNumeric Payload.issuedAtField))) ∧
      ∃ body, (encode Sample.mark (Sample.timed 120 60) Sample.hollow Sample.secret.resolver
          Sample.source).result = .ok (Sample.mark ++ body) ∧
        (decode body Sample.issuer 3 Sample.secret.resolver).result =
          .ok (⟨120, 60, none, some "app", Sample.issuer⟩, Sample.hollow) := by
  constructor
  · have encoded := encode_of_sealable Sample.payload_untimely
      (Sample.sealable_of_timed (by decide)) Sample.mark Sample.source
    obtain ⟨body, same, read⟩ := reread_of_encode encoded
    rw [same] at encoded
    exact ⟨body, encoded, (read 2).trans (by decide +kernel), (read 3).trans (by decide +kernel)⟩
  · have encoded := encode_of_sealable Sample.payload_timed
      (Sample.sealable_of_timed (by decide)) Sample.mark Sample.source
    obtain ⟨body, same, read⟩ := reread_of_encode encoded
    rw [same] at encoded
    exact ⟨body, encoded, (read 3).trans (by decide +kernel)⟩

/-- An expected count with more digits than can be written is not complained of as a miscount. -/
theorem Wire.not_forall_miscount_reported :
    ¬ ∀ (mark : Text) (common : Common) (extension : List Text) (resolver : Resolver)
        (source : ByteSource) (body : Text) (extensions : Nat),
        (encode mark common extension resolver source).result = .ok (mark ++ body) →
          extensions ≠ extension.length →
            (decode body common.issuer extensions resolver).result =
              .error (.rejected (.fieldCount (commonCount + extensions : Nat)
                (commonCount + extension.length))) := by
  intro reported
  have written := Sample.payload_timed
  have sealable : Sealing.Sealable Sample.secret.resolver (Sample.timed 120 60).issuer
      (Sample.hollowPayload "021" "60") (Sample.secret.keyFor Sample.issuer) :=
    Sample.sealable_of_timed (by decide)
  have encoded := encode_of_sealable written sealable Sample.mark Sample.source
  have endless := decode_sealed written sealable Sample.source.nonce
    (Decimal.tenTo Decimal.digitLimit)
  rw [reported _ _ _ _ _ _ _ encoded (by decide +kernel)] at endless
  exact absurd endless (by decide +kernel)

end SealedToken
