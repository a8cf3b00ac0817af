import SealedToken.Sealing
import SealedToken.Text.Base64.Lemmas
import SealedToken.Text.Utf8.Lemmas

/-!
Opening sealed payloads. A text opens under the key of an issuer exactly when it was sealed for that
issuer with that key and some nonce; every other text is refused alike, unless the issuer has no
UTF-8 form.
-/

set_option autoImplicit false

namespace SealedToken

/-! ## Results of attempts -/

namespace Attempt

variable {Fault Other Value Next : Type}

@[simp] theorem result_pure (value : Value) :
    (pure value : Attempt Fault Value).result = .ok value := rfl

@[simp] theorem result_ofExcept (result : Except Fault Value) : (ofExcept result).result = result :=
  rfl

@[simp] theorem result_fail (fault : Fault) :
    (fail fault : Attempt Fault Value).result = .error fault := rfl

theorem result_bind_of_ok {attempt : Attempt Fault Value} {value : Value}
    (next : Value → Attempt Fault Next) (done : attempt.result = .ok value) :
    (attempt >>= next).result = (next value).result := by
  change (Attempt.bind attempt next).result = _
  simp only [Attempt.bind, done]

theorem result_bind_of_error {attempt : Attempt Fault Value} {fault : Fault}
    (next : Value → Attempt Fault Next) (failed : attempt.result = .error fault) :
    (attempt >>= next).result = .error fault := by
  change (Attempt.bind attempt next).result = _
  simp only [Attempt.bind, failed]

end Attempt

/-! ## Sealing and unsealing -/

namespace Sealing

theorem length_sealedBytes (key : Key) (associated plain : Bytes) (nonce : Nonce) :
    nonceSize + Gcm.tagSize ≤ (sealedBytes key associated plain nonce).length := by
  simp only [sealedBytes, Gcm.encrypt, List.length_append, nonce.size, Gcm.length_tag, nonceSize]
  omega

theorem wellFormed?_eq_some_iff {text : Text} {bytes : Bytes} :
    wellFormed? text = some bytes ↔
      text = Base64.encode bytes ∧ nonceSize + Gcm.tagSize ≤ bytes.length := by
  unfold wellFormed?
  cases decoded : Base64.decode? text with
  | none =>
    simp only [reduceCtorEq, false_iff, not_and]
    rintro rfl
    rw [Base64.decode?_encode] at decoded
    contradiction
  | some found =>
    -- Only canonical text decodes, so the bytes are the ones that the text encodes.
    obtain rfl := Base64.eq_encode_of_decode? decoded
    dsimp only
    constructor
    · intro formed
      split at formed
      · next long =>
        obtain rfl := Option.some.inj formed
        exact ⟨rfl, long⟩
      · contradiction
    · rintro ⟨same, long⟩
      have := Base64.decode?_encode bytes
      rw [← same, decoded] at this
      obtain rfl := Option.some.inj this
      simp only [if_pos long]

theorem unseal?_eq_some_iff {key : Key} {associated bytes : Bytes} {payload : Text} :
    unseal? key associated bytes = some payload ↔
      payload.isEncodable = true ∧
        Gcm.encrypt (cipher key) (bytes.take nonceSize) associated (Utf8.encode payload) =
          bytes.drop nonceSize := by
  simp only [unseal?, Option.bind_eq_some_iff, Gcm.decrypt?_eq_some_iff, Utf8.decode?_eq_some_iff]
  constructor
  · rintro ⟨message, encrypted, encodable, rfl⟩
    exact ⟨encodable, encrypted⟩
  · rintro ⟨encodable, encrypted⟩
    exact ⟨Utf8.encode payload, encrypted, encodable, rfl⟩

theorem unseal?_sealedBytes (key : Key) (associated : Bytes) {payload : Text}
    (encodable : payload.isEncodable = true) (nonce : Nonce) :
    unseal? key associated (sealedBytes key associated (Utf8.encode payload) nonce) =
      some payload := by
  have first : (sealedBytes key associated (Utf8.encode payload) nonce).take nonceSize =
      nonce.bytes :=
    List.take_left' nonce.size
  have rest : (sealedBytes key associated (Utf8.encode payload) nonce).drop nonceSize =
      Gcm.encrypt (cipher key) nonce.bytes associated (Utf8.encode payload) :=
    List.drop_left' nonce.size
  rw [unseal?_eq_some_iff, first, rest]
  exact ⟨encodable, rfl⟩

/-- What opens was sealed with the nonce at its head. -/
theorem eq_sealedBytes_of_unseal? {key : Key} {associated bytes : Bytes} {payload : Text}
    (long : nonceSize ≤ bytes.length) (opened : unseal? key associated bytes = some payload) :
    ∃ nonce : Nonce, bytes = sealedBytes key associated (Utf8.encode payload) nonce := by
  have size : (bytes.take nonceSize).length = 12 := by
    rw [List.length_take, Nat.min_eq_left long]
    rfl
  -- Encryption is a function of key, nonce, associated data and message, so opening pins the rest.
  refine ⟨⟨bytes.take nonceSize, size⟩, ?_⟩
  rw [sealedBytes, (unseal?_eq_some_iff.mp opened).2, List.take_append_drop]

/-- The first fault of texts that are to be sealed: the payload is encoded before the issuer. -/
def textFault? (issuer payload : Text) : Option EncodingFault :=
  payload.encodingFault?.or issuer.encodingFault?

/-- All that sealing needs: a key for the issuer, and a UTF-8 form of both texts. -/
structure Sealable (resolver : Resolver) (issuer payload : Text) (key : Key) : Prop where
  answered : resolver issuer = .ok key
  issuer_encodable : issuer.isEncodable = true
  payload_encodable : payload.isEncodable = true

variable {resolver : Resolver} {issuer payload text : Text} {key : Key}

theorem textFault?_eq_none_iff :
    textFault? issuer payload = none ↔ issuer.isEncodable = true ∧ payload.isEncodable = true := by
  rw [textFault?, Option.or_eq_none_iff, Text.encodingFault?_eq_none_iff,
    Text.encodingFault?_eq_none_iff, and_comm]

/-- Without a key nothing is drawn. -/
theorem sealFor_of_error {fault : KeyFault} (unanswered : resolver issuer = .error fault)
    (payload : Text) (source : ByteSource) :
    sealFor resolver issuer payload source =
      ⟨⟨.error (.key fault), [.keyAsked issuer]⟩, source⟩ := by
  unfold sealFor askKey
  rw [unanswered]
  rfl

/-- With a key the nonce is drawn before the texts are looked at. -/
theorem sealFor_of_unencodable {fault : EncodingFault} (answered : resolver issuer = .ok key)
    (found : textFault? issuer payload = some fault) (source : ByteSource) :
    sealFor resolver issuer payload source =
      ⟨⟨.error (.unencodable fault), [.keyAsked issuer]⟩, source.afterNonce⟩ := by
  unfold sealFor askKey
  rw [answered]
  unfold textFault? at found
  cases plain : payload.encodingFault? with
  | some other =>
    rw [plain, Option.some_or, Option.some.injEq] at found
    rw [Utf8.encode?_eq_error_iff.mpr plain, found]
    rfl
  | none =>
    rw [plain, Option.none_or] at found
    rw [Utf8.encode?_of_isEncodable (Text.encodingFault?_eq_none_iff.mp plain),
      Utf8.encode?_eq_error_iff.mpr found]
    rfl

theorem sealFor_of_sealable (sealable : Sealable resolver issuer payload key)
    (source : ByteSource) :
    sealFor resolver issuer payload source =
      ⟨⟨.ok (sealed key issuer payload source.nonce), [.keyAsked issuer]⟩, source.afterNonce⟩ := by
  unfold sealFor askKey
  rw [sealable.answered, Utf8.encode?_of_isEncodable sealable.payload_encodable,
    Utf8.encode?_of_isEncodable sealable.issuer_encodable]
  rfl

theorem sealFor_eq_ok_iff {source : ByteSource} :
    (sealFor resolver issuer payload source).result = .ok text ↔
      ∃ key, Sealable resolver issuer payload key ∧
        text = sealed key issuer payload source.nonce := by
  -- Sealing ends in one of three ways; only the last has a key and the UTF-8 forms.
  cases answered : resolver issuer with
  | error fault =>
    rw [sealFor_of_error answered]
    simp only [reduceCtorEq, false_iff]
    rintro ⟨key, sealable, -⟩
    rw [sealable.answered] at answered
    contradiction
  | ok key =>
    cases found : textFault? issuer payload with
    | some fault =>
      rw [sealFor_of_unencodable answered found]
      simp only [reduceCtorEq, false_iff]
      rintro ⟨_, sealable, -⟩
      rw [textFault?_eq_none_iff.mpr ⟨sealable.issuer_encodable, sealable.payload_encodable⟩]
        at found
      contradiction
    | none =>
      obtain ⟨named, plain⟩ := textFault?_eq_none_iff.mp found
      rw [sealFor_of_sealable ⟨answered, named, plain⟩, Except.ok.injEq]
      constructor
      · rintro rfl
        exact ⟨key, ⟨answered, named, plain⟩, rfl⟩
      · rintro ⟨other, sealable, rfl⟩
        rw [Except.ok.inj (answered.symm.trans sealable.answered)]

/-! ## Opening -/

/-- The fault of encoding in which opening for an issuer ends, whatever is to be opened. -/
def issuerFault? (resolver : Resolver) (issuer : Text) : Option EncodingFault :=
  match resolver issuer with
  | .error (.unencodable fault) => some fault
  | .error _ => none
  | .ok _ => issuer.encodingFault?

/-- Without such a fault the key is asked for, and what does not open is noted. -/
theorem unsealFor_of_faultless {bytes : Bytes} (formed : wellFormed? text = some bytes)
    (faultless : issuerFault? resolver issuer = none) :
    unsealFor resolver issuer text =
      match (resolver issuer).toOption.bind (unseal? · (Utf8.encode issuer) bytes) with
      | some payload => ⟨.ok payload, [.keyAsked issuer]⟩
      | none => ⟨.error (.rejected .undecryptable), [.keyAsked issuer, .payloadRejected]⟩ := by
  unfold unsealFor openFor askKey
  rw [formed]
  unfold issuerFault? at faultless
  split at faultless
  · contradiction
  · next fault unforeseen unanswered =>
    rw [unanswered]
    cases fault with
    | unencodable fault => exact absurd rfl (unforeseen fault)
    | issuerRequired => rfl
    | unknownIssuer name => rfl
  · next key answered =>
    rw [answered, Utf8.encode?_of_isEncodable (Text.encodingFault?_eq_none_iff.mp faultless)]
    cases unsealed : unseal? key (Utf8.encode issuer) bytes <;>
      simp [Attempt.recover, bind, Attempt.bind, Attempt.mapFault, Attempt.ofExcept,
        Except.toOption, Attempt.fail, pure, answerFor, unsealed]

theorem unsealFor_of_issuerFault {bytes : Bytes} {fault : EncodingFault}
    (formed : wellFormed? text = some bytes) (found : issuerFault? resolver issuer = some fault) :
    unsealFor resolver issuer text = ⟨.error (.unencodable fault), [.keyAsked issuer]⟩ := by
  unfold unsealFor openFor askKey
  rw [formed]
  unfold issuerFault? at found
  split at found
  · next other unanswered =>
    obtain rfl := Option.some.inj found
    rw [unanswered]
    rfl
  · contradiction
  · next key answered =>
    rw [answered, Utf8.encode?_eq_error_iff.mpr found]
    rfl

theorem unsealFor_of_malformed (malformed : wellFormed? text = none) (resolver : Resolver)
    (issuer : Text) : unsealFor resolver issuer text = .fail (.rejected .undecryptable) := by
  rw [unsealFor, malformed]

theorem wellFormed?_sealed (key : Key) (issuer payload : Text) (nonce : Nonce) :
    wellFormed? (sealed key issuer payload nonce) =
      some (sealedBytes key (Utf8.encode issuer) (Utf8.encode payload) nonce) :=
  wellFormed?_eq_some_iff.mpr ⟨rfl, length_sealedBytes _ _ _ nonce⟩

theorem Sealable.faultless (sealable : Sealable resolver issuer payload key) :
    issuerFault? resolver issuer = none := by
  rw [issuerFault?, sealable.answered]
  exact Text.encodingFault?_eq_none_iff.mpr sealable.issuer_encodable

theorem unsealFor_sealed (sealable : Sealable resolver issuer payload key) (nonce : Nonce) :
    (unsealFor resolver issuer (sealed key issuer payload nonce)).result = .ok payload := by
  rw [unsealFor_of_faultless (wellFormed?_sealed ..) sealable.faultless, sealable.answered]
  simp only [Except.toOption, Option.bind_some, unseal?_sealedBytes _ _ sealable.payload_encodable]

theorem issuerFault?_eq_none_of_ok
    (opened : (unsealFor resolver issuer text).result = .ok payload) :
    issuerFault? resolver issuer = none := by
  cases formed : wellFormed? text with
  | none => simp [unsealFor_of_malformed formed] at opened
  | some bytes =>
    cases found : issuerFault? resolver issuer with
    | none => rfl
    | some fault => simp [unsealFor_of_issuerFault formed found] at opened

/-- A text opens for an issuer exactly when it was sealed for it under its key. -/
theorem unsealFor_eq_ok_iff :
    (unsealFor resolver issuer text).result = .ok payload ↔
      ∃ key nonce, Sealable resolver issuer payload key ∧
        text = sealed key issuer payload nonce := by
  constructor
  · intro opened
    have faultless := issuerFault?_eq_none_of_ok opened
    cases formed : wellFormed? text with
    | none => simp [unsealFor_of_malformed formed] at opened
    | some bytes =>
      obtain ⟨rfl, long⟩ := wellFormed?_eq_some_iff.mp formed
      rw [unsealFor_of_faultless formed faultless] at opened
      cases answered : resolver issuer with
      | error fault => simp [answered, Except.toOption] at opened
      | ok key =>
        have named := faultless
        rw [issuerFault?, answered] at named
        cases unsealed : unseal? key (Utf8.encode issuer) bytes with
        | none => simp [answered, Except.toOption, unsealed] at opened
        | some found =>
          simp only [answered, Except.toOption, Option.bind_some, unsealed,
            Except.ok.injEq] at opened
          subst opened
          obtain ⟨nonce, rfl⟩ := eq_sealedBytes_of_unseal? (Nat.le_of_add_right_le long) unsealed
          exact ⟨key, nonce, ⟨answered, Text.encodingFault?_eq_none_iff.mp named,
            (unseal?_eq_some_iff.mp unsealed).1⟩, rfl⟩
  · rintro ⟨key, nonce, sealable, rfl⟩
    exact unsealFor_sealed sealable nonce

/-- The fault of encoding that opening a text ends in. Only a text that has the form of a sealed
payload comes so far. -/
def escape? (resolver : Resolver) (issuer text : Text) : Option EncodingFault :=
  if (wellFormed? text).isSome then issuerFault? resolver issuer else none

/-- What does not open is refused in the same words, unless a fault of encoding escapes. -/
theorem unsealFor_of_not_ok
    (failed : ∀ payload, (unsealFor resolver issuer text).result ≠ .ok payload) :
    (unsealFor resolver issuer text).result =
      .error ((escape? resolver issuer text).elim (.rejected .undecryptable) .unencodable) := by
  unfold escape?
  cases formed : wellFormed? text with
  | none => simp [unsealFor_of_malformed formed]
  | some bytes =>
    cases found : issuerFault? resolver issuer with
    | some fault => simp [unsealFor_of_issuerFault formed found]
    | none =>
      rw [unsealFor_of_faultless formed found] at failed ⊢
      split
      · next payload opened =>
        rw [opened] at failed
        exact absurd rfl (failed payload)
      · rfl

theorem escape?_eq_none_of_ok (opened : (unsealFor resolver issuer text).result = .ok payload) :
    escape? resolver issuer text = none := by
  rw [escape?, issuerFault?_eq_none_of_ok opened, ite_self]

end Sealing

end SealedToken
