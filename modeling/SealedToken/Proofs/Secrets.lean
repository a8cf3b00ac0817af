import SealedToken.Key.Jwk.Lemmas
import SealedToken.Proofs.Canonical
import SealedToken.Proofs.KeyHistories
import SealedToken.Proofs.Nonces

/-!
Fresh secrets in use. The text of a fresh secret gives the bytes that were drawn for it, and it is
refused only where these are too few. One secret for all issuers and a keyring with that secret for
one issuer are the same to this issuer: what one seals the other opens.
-/

set_option autoImplicit false

namespace SealedToken

/-! ## Secrets read back -/

namespace Secret

theorem ofBytes?_bytes (secret : Secret) : ofBytes? secret.bytes = some secret :=
  dif_pos secret.long

/-- A secret that was read is long enough to be a master secret. -/
theorem ofMaster_bytes (secret : Secret) : ofMaster secret.bytes = .ok secret := by
  rw [ofMaster, ofBytes?_bytes]

/-- Only the number of bytes decides about the text of a symmetric key. -/
theorem ofJwk_write (bytes : Bytes) :
    ofJwk (Jwk.write bytes) =
      match ofBytes? bytes with
      | some secret => .ok secret
      | none => .error .short := by
  rw [ofJwk, Jwk.read_write]
  cases made : ofBytes? bytes with
  | none => simp [Jwk.symmetricBytes_symmetric, made]
  | some secret => simp [Jwk.symmetricBytes_symmetric, made]

theorem ofJwk_write_bytes (secret : Secret) : ofJwk (Jwk.write secret.bytes) = .ok secret := by
  rw [ofJwk_write, ofBytes?_bytes]

theorem ofJwk_write_of_short {bytes : Bytes} (short : bytes.length < 16) :
    ofJwk (Jwk.write bytes) = .error .short := by
  rw [ofJwk_write, ofBytes?, dif_neg (Nat.not_le.mpr short)]

end Secret

/-! ## A secret in a keyring -/

/-- A keyring of one key answers for its issuer as the secret does for all. -/
theorem Keyring.resolver_of_singleton (config : KeyConfig) {secret : Secret}
    (named : config.issuer ≠ []) (read : Secret.ofJwk config.secretJwk = .ok secret) :
    ∃ ring, ofConfigs [config] = .ok ring ∧
      ring.resolver config.issuer = secret.derive config.issuer := by
  have usable : ∀ other ∈ [config], other.Usable :=
    List.forall_mem_singleton.mpr ⟨named, secret, read⟩
  have stands : config.entry = .ok ⟨config.issuer, secret, config.keyId⟩ :=
    KeyConfig.entry_eq_ok_iff.mpr ⟨named, secret, read, rfl⟩
  refine ⟨_, ofConfigs_eq_ok_iff.mpr ⟨usable, rfl⟩, ?_⟩
  change (empty.act (.add config)).2.resolver config.issuer = _
  rw [act, add_of_ok stands, resolver_eq, shown?_put, if_pos rfl]

namespace Resolver

/-- Two resolvers with the same answer for an issuer, a key if the issuer has a UTF-8 form. They
seal alike for it, and each opens what the other sealed. -/
structure Interchangeable (first second : Resolver) (issuer : Text) : Prop where
  alike : first issuer = second issuer
  answer : issuer.isEncodable = true → ∃ key, first issuer = .ok key ∧ second issuer = .ok key
  seals_alike : ∀ payload source,
    Sealing.sealFor first issuer payload source = Sealing.sealFor second issuer payload source
  sealing : issuer.isEncodable = true → ∀ payload source, payload.isEncodable = true → ∃ text,
    (Sealing.sealFor first issuer payload source).result = .ok text ∧
      (Sealing.sealFor second issuer payload source).result = .ok text
  opens : ∀ payload source text,
    (Sealing.sealFor first issuer payload source).result = .ok text →
      (Sealing.unsealFor second issuer text).result = .ok payload
  reopens : ∀ payload source text,
    (Sealing.sealFor second issuer payload source).result = .ok text →
      (Sealing.unsealFor first issuer text).result = .ok payload

theorem unsealFor_of_sealFor {first second : Resolver} {issuer payload text : Text}
    {source : ByteSource} (same : second issuer = first issuer)
    (given : (Sealing.sealFor first issuer payload source).result = .ok text) :
    (Sealing.unsealFor second issuer text).result = .ok payload := by
  obtain ⟨key, sealable, rfl⟩ := Sealing.sealFor_eq_ok_iff.mp given
  rw [Sealing.unsealFor_congr same]
  exact Sealing.unsealFor_sealed sealable source.nonce

theorem interchangeable_of_derive {first second : Resolver} {secret : Secret} {issuer : Text}
    (answered : first issuer = secret.derive issuer) (also : second issuer = secret.derive issuer) :
    Interchangeable first second issuer where
  alike := answered.trans also.symm
  answer encodable := by
    rw [answered, also, secret.derive_of_isEncodable encodable]
    exact ⟨_, rfl, rfl⟩
  seals_alike payload source :=
    congrFun (Sealing.sealFor_congr (answered.trans also.symm) payload) source
  sealing encodable payload source plain := by
    have derived := secret.derive_of_isEncodable encodable
    have one : Sealing.Sealable first issuer payload (secret.keyFor issuer) :=
      ⟨answered.trans derived, encodable, plain⟩
    have two : Sealing.Sealable second issuer payload (secret.keyFor issuer) :=
      ⟨also.trans derived, encodable, plain⟩
    exact ⟨_, Sealing.sealFor_eq_ok_iff.mpr ⟨_, one, rfl⟩,
      Sealing.sealFor_eq_ok_iff.mpr ⟨_, two, rfl⟩⟩
  opens _ _ _ := unsealFor_of_sealFor (also.trans answered.symm)
  reopens _ _ _ := unsealFor_of_sealFor (answered.trans also.symm)

end Resolver

/-- A fresh secret of 128 bits or more gives the bytes that were drawn for it, and a shorter one is
refused for its length. One that is accepted serves alone for all issuers, and in a keyring for any
single issuer; between the two this issuer sees no difference. -/
theorem ByteSource.secret_serves (source : ByteSource) (bits : Nat) :
    (128 ≤ bits → ∃ secret, Secret.ofJwk (source.secret bits).1 = .ok secret ∧
        secret.bytes = source.peek (bits / 8)) ∧
      (bits < 128 → Secret.ofJwk (source.secret bits).1 = .error .short) ∧
      SecretFault.message .short = .ofString "Secret must be at least 16 bytes" ∧
      ∀ secret, Secret.ofJwk (source.secret bits).1 = .ok secret →
        Secret.ofMaster secret.bytes = .ok secret ∧
          ∀ issuer keyId, issuer ≠ [] → ∃ ring,
            Keyring.ofConfigs [⟨issuer, (source.secret bits).1, keyId⟩] = .ok ring ∧
              Resolver.Interchangeable secret.resolver ring.resolver issuer := by
  have drawn : (source.peek (bits / 8)).length = bits / 8 := source.length_peek _
  refine ⟨?_, ?_, rfl, ?_⟩
  · intro enough
    have long : 16 ≤ (source.peek (bits / 8)).length := by omega
    exact ⟨⟨source.peek (bits / 8), long⟩, Secret.ofJwk_write_bytes ⟨_, long⟩, rfl⟩
  · intro few
    exact Secret.ofJwk_write_of_short (by omega)
  · intro secret read
    refine ⟨secret.ofMaster_bytes, ?_⟩
    intro issuer keyId named
    obtain ⟨ring, made, answered⟩ :=
      Keyring.resolver_of_singleton ⟨issuer, (source.secret bits).1, keyId⟩ named read
    exact ⟨ring, made,
      Resolver.interchangeable_of_derive (secret.resolver_of_ne_nil named) answered⟩

theorem ByteSource.secret_serves_counting :
    (∃ secret, Secret.ofJwk (Sample.counting.secret 135).1 = .ok secret ∧
        secret.bytes = [0, 1, 2, 3, 4, 5, 6, 7, 8, 9, 10, 11, 12, 13, 14, 15] ∧
        ∃ ring, Keyring.ofConfigs [⟨Sample.issuer, (Sample.counting.secret 135).1, none⟩] =
            .ok ring ∧
          Resolver.Interchangeable secret.resolver ring.resolver Sample.issuer) ∧
      Secret.ofJwk (Sample.counting.secret 127).1 = .error .short := by
  obtain ⟨long, _, _, serves⟩ := ByteSource.secret_serves Sample.counting 135
  obtain ⟨_, short, _⟩ := ByteSource.secret_serves Sample.counting 127
  obtain ⟨secret, read, drawn⟩ := long (by decide)
  obtain ⟨_, held⟩ := serves secret read
  refine ⟨⟨secret, read, ?_, held Sample.issuer none (by decide)⟩, short (by decide)⟩
  rw [drawn]
  decide

end SealedToken
