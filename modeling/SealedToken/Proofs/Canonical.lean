import SealedToken.Proofs.RoundTrip

/-!
Sealed text is canonical. What opens for an issuer is what sealing for it gives, character for
character; the same bytes spelled in another way are refused like any other text.
-/

set_option autoImplicit false

namespace SealedToken.Sealing

/-- Opening undoes sealing, whatever nonce was drawn, and opens nothing else. -/
theorem unsealFor_eq_ok_iff_sealFor {resolver : Resolver} {issuer payload text : Text} :
    (unsealFor resolver issuer text).result = .ok payload ↔
      ∃ source, (sealFor resolver issuer payload source).result = .ok text := by
  simp only [unsealFor_eq_ok_iff, sealFor_eq_ok_iff]
  constructor
  · rintro ⟨key, nonce, sealable, rfl⟩
    exact ⟨.ofBytes nonce.bytes, key, sealable, by rw [ByteSource.nonce_ofBytes]⟩
  · rintro ⟨source, key, sealable, rfl⟩
    exact ⟨key, source.nonce, sealable, rfl⟩

theorem exists_bytes_of_unsealFor {resolver : Resolver} {issuer payload text : Text}
    (opened : (unsealFor resolver issuer text).result = .ok payload) :
    ∃ bytes, text = Base64.encode bytes := by
  obtain ⟨key, nonce, _, rfl⟩ := unsealFor_eq_ok_iff.mp opened
  exact ⟨_, rfl⟩

/-- Of the texts that spell the same bytes, even to a reader that skips foreign characters, drops
spare bits and knows both alphabets, only the canonical one has the form of a sealed payload. -/
theorem wellFormed?_of_respelled {bytes : Bytes} {other : Text}
    (different : other ≠ Base64.encode bytes)
    (same : Base64.decodeLenient? other = Base64.decodeLenient? (Base64.encode bytes)) :
    wellFormed? other = none := by
  cases formed : wellFormed? other with
  | none => rfl
  | some spelled =>
    obtain ⟨rfl, -⟩ := wellFormed?_eq_some_iff.mp formed
    rw [Base64.decodeLenient?_encode, Base64.decodeLenient?_encode] at same
    exact absurd (congrArg Base64.encode (Option.some.inj same)) different

theorem escape?_eq_some_iff {resolver : Resolver} {issuer text : Text} {fault : EncodingFault} :
    escape? resolver issuer text = some fault ↔
      (∃ bytes, text = Base64.encode bytes ∧ nonceSize + Gcm.tagSize ≤ bytes.length) ∧
        (resolver issuer = .error (.unencodable fault) ∨
          (∃ key, resolver issuer = .ok key) ∧ issuer.encodingFault? = some fault) := by
  have formed : (wellFormed? text).isSome = true ↔
      ∃ bytes, text = Base64.encode bytes ∧ nonceSize + Gcm.tagSize ≤ bytes.length := by
    simp only [Option.isSome_iff_exists, wellFormed?_eq_some_iff]
  have found : issuerFault? resolver issuer = some fault ↔
      resolver issuer = .error (.unencodable fault) ∨
        (∃ key, resolver issuer = .ok key) ∧ issuer.encodingFault? = some fault := by
    unfold issuerFault?
    split
    · next other unanswered => simp [unanswered, eq_comm]
    · next other unforeseen unanswered =>
      have foreseen : other ≠ .unencodable fault := unforeseen fault
      simp [unanswered, foreseen]
    · next key answered => simp [answered]
  rw [← formed, ← found, escape?]
  split
  · next whole => simp [whole]
  · next broken => simp [broken]

/-- For an issuer, the texts that open to a payload are those that sealing it can give, and all
others are refused in the same words, unless they have the form of a sealed payload and the issuer
has a key, or is looked for one, but no UTF-8 form. A text that opens is written in the alphabet,
and no other spelling of its nonce, ciphertext and tag opens for any issuer. -/
theorem unsealFor_image (resolver : Resolver) (issuer text : Text) :
    (∀ payload, (unsealFor resolver issuer text).result = .ok payload ↔
        (∃ key, resolver issuer = .ok key) ∧
          ∃ source, (sealFor resolver issuer payload source).result = .ok text) ∧
      ((∀ payload source, (sealFor resolver issuer payload source).result ≠ .ok text) →
        (unsealFor resolver issuer text).result =
          match escape? resolver issuer text with
          | some fault => .error (.unencodable fault)
          | none => .error (.rejected .undecryptable)) ∧
      (∀ fault, escape? resolver issuer text = some fault ↔
        (∃ bytes, text = Base64.encode bytes ∧ 28 ≤ bytes.length) ∧
          (resolver issuer = .error (.unencodable fault) ∨
            (∃ key, resolver issuer = .ok key) ∧ issuer.encodingFault? = some fault)) ∧
      Rejection.undecryptable.message = "Token could not be decrypted" ∧
      ∀ payload, (unsealFor resolver issuer text).result = .ok payload →
        (∀ c ∈ text, Base64.isSymbol c = true) ∧
          ∀ (others : Resolver) (name other : Text), other ≠ text →
            Base64.decodeLenient? other = Base64.decodeLenient? text →
              (unsealFor others name other).result = .error (.rejected .undecryptable) := by
  refine ⟨?_, ?_, fun fault => escape?_eq_some_iff, rfl, ?_⟩
  · intro payload
    rw [unsealFor_eq_ok_iff_sealFor]
    constructor
    · rintro ⟨source, given⟩
      obtain ⟨key, sealable, _⟩ := sealFor_eq_ok_iff.mp given
      exact ⟨⟨key, sealable.answered⟩, source, given⟩
    · rintro ⟨_, given⟩
      exact given
  · intro ungiven
    rw [unsealFor_of_not_ok]
    · cases escape? resolver issuer text <;> rfl
    · intro payload opened
      obtain ⟨source, given⟩ := unsealFor_eq_ok_iff_sealFor.mp opened
      exact ungiven payload source given
  · intro payload opened
    obtain ⟨bytes, rfl⟩ := exists_bytes_of_unsealFor opened
    refine ⟨Base64.isSymbol_of_mem_encode, ?_⟩
    intro others name other different same
    rw [unsealFor_of_malformed (wellFormed?_of_respelled different same)]
    rfl

theorem unsealFor_image_visitor :
    ∃ text, (sealFor Sample.secret.resolver Sample.issuer Sample.visitorPayload
        Sample.source).result = .ok text ∧
      (unsealFor Sample.secret.resolver Sample.issuer text).result = .ok Sample.visitorPayload ∧
        (unsealFor Sample.secret.resolver Sample.issuer (text ++ [.char '\n'])).result =
          .error (.rejected .undecryptable) := by
  have named : Sample.issuer ≠ [] := by decide
  have sealable := Sample.sealable_visitor named (by decide)
  have given : (sealFor Sample.secret.resolver Sample.issuer Sample.visitorPayload
      Sample.source).result = .ok _ := sealFor_eq_ok_iff.mpr ⟨_, sealable, rfl⟩
  obtain ⟨opens, _⟩ := unsealFor_image Sample.secret.resolver Sample.issuer _
  refine ⟨_, given, (opens _).mpr ⟨⟨_, sealable.answered⟩, Sample.source, given⟩, ?_⟩
  obtain ⟨also, refused, _, _, spelled⟩ :=
    unsealFor_image Sample.secret.resolver Sample.issuer (_ ++ [.char '\n'])
  have contained : ∀ text, escape? Sample.secret.resolver Sample.issuer text = none := by
    intro text
    rw [escape?, sealable.faultless, ite_self]
  -- A line feed is no symbol, so nothing that ends with one was sealed.
  rw [refused, contained]
  intro payload source again
  have symbol := (spelled payload ((also payload).mpr ⟨⟨_, sealable.answered⟩, source, again⟩)).1
    (.char '\n') (List.mem_append_right _ List.mem_cons_self)
  exact absurd symbol (by decide)

/-- Not all that is refused is refused in the same words. -/
theorem not_forall_refused_alike :
    ¬ ∀ (resolver : Resolver) (issuer text : Text),
        (∀ payload source, (sealFor resolver issuer payload source).result ≠ .ok text) →
          (unsealFor resolver issuer text).result = .error (.rejected .undecryptable) := by
  intro alike
  have refused := alike Sample.secret.resolver [.surrogate 0] (List.replicate 38 (.char 'A')) ?_
  · have formed : wellFormed? (List.replicate 38 (.char 'A')) = some (List.replicate 28 0) := by
      decide +kernel
    rw [unsealFor_of_issuerFault formed rfl] at refused
    exact absurd refused nofun
  · intro payload source given
    obtain ⟨key, sealable, -⟩ := sealFor_eq_ok_iff.mp given
    exact absurd sealable.issuer_encodable (by decide)

end SealedToken.Sealing
