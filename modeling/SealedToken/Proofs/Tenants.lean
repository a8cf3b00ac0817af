import SealedToken.Proofs.Decisions
import SealedToken.Proofs.KeyHistories

/-!
Tenants of one keyring. What is read and verified for an issuer depends on the keyring only through
the issuer's own secret, and calls about other issuers leave that as it is. Once it is removed
nothing is accepted for the issuer, until a key comes back.
-/

set_option autoImplicit false

namespace SealedToken

/-! ## One issuer's view of a resolver -/

theorem Resolver.answers_of_eq {first second : Resolver} {issuer : Text}
    (same : first issuer = second issuer) (name : Text) (expected : some issuer = some name) :
    first name = second name := by
  rwa [← Option.some.inj expected]

namespace Verifier

variable {first second : Resolver} {issuer : Text}

theorem verify_congr (same : first issuer = second issuer) (verifier : Verifier)
    (credential : Option Text) (clock : Float) (now : Option Int) :
    verify { verifier with resolver := first } credential (some issuer) clock now =
      verify { verifier with resolver := second } credential (some issuer) clock now := by
  have read := Registry.parse_congr (Resolver.answers_of_eq same) verifier.registry credential
  unfold verify
  dsimp only
  rw [read]
  -- The verdict on what was read is not up to the resolver.
  rfl

theorem require_congr (same : first issuer = second issuer) (verifier : Verifier)
    (credential : Option Text) (clock : Float) (now : Option Int) :
    require { verifier with resolver := first } credential (some issuer) clock now =
      require { verifier with resolver := second } credential (some issuer) clock now := by
  rw [require, require, verify_congr same]

end Verifier

/-- Behind the mark, a fault of encoding escapes from whatever has the form of a sealed payload. -/
theorem Variant.escape?_of_form {issuer body : Text} {bytes : Bytes} (named : issuer ≠ [])
    (formed : Sealing.wellFormed? body = some bytes) (variant : Variant) (resolver : Resolver) :
    variant.escape? resolver (some (variant.mark ++ body)) (some issuer) =
      Sealing.issuerFault? resolver issuer := by
  unfold escape?
  rw [Option.bind_some, Text.strip?_append, absentIfEmpty_eq_some_iff.mpr ⟨rfl, named⟩]
  dsimp only
  rw [Sealing.escape?, formed, Option.isSome_some, if_pos rfl]

namespace Resolver

/-- No reading and no verification for an issuer tells two resolvers apart, by its result or by what
it records. -/
structure Indistinct (first second : Resolver) (issuer : Text) : Prop where
  variant : ∀ (variant : Variant) credential,
    variant.parse first credential (some issuer) = variant.parse second credential (some issuer)
  registry : ∀ (registry : Registry) credential,
    registry.parse first credential (some issuer) = registry.parse second credential (some issuer)
  verify : ∀ (verifier : Verifier) credential clock now,
    Verifier.verify { verifier with resolver := first } credential (some issuer) clock now =
      Verifier.verify { verifier with resolver := second } credential (some issuer) clock now
  require : ∀ (verifier : Verifier) credential clock now,
    Verifier.require { verifier with resolver := first } credential (some issuer) clock now =
      Verifier.require { verifier with resolver := second } credential (some issuer) clock now
  verifyMetered : ∀ (verifier : Verifier) metrics start stop credential clock now,
    Verifier.verifyMetered { verifier with resolver := first } metrics start stop credential
        (some issuer) clock now =
      Verifier.verifyMetered { verifier with resolver := second } metrics start stop credential
        (some issuer) clock now
  requireMetered : ∀ (verifier : Verifier) metrics start stop credential clock now,
    Verifier.requireMetered { verifier with resolver := first } metrics start stop credential
        (some issuer) clock now =
      Verifier.requireMetered { verifier with resolver := second } metrics start stop credential
        (some issuer) clock now

theorem indistinct_of_eq {first second : Resolver} {issuer : Text}
    (same : first issuer = second issuer) : Indistinct first second issuer where
  variant := Variant.parse_congr (answers_of_eq same)
  registry := Registry.parse_congr (answers_of_eq same)
  verify := Verifier.verify_congr same
  require := Verifier.require_congr same
  verifyMetered verifier metrics start stop credential clock now := by
    rw [Verifier.verifyMetered, Verifier.verifyMetered, Verifier.verify_congr same]
  requireMetered verifier metrics start stop credential clock now := by
    rw [Verifier.requireMetered, Verifier.requireMetered, Verifier.verifyMetered,
      Verifier.verifyMetered, Verifier.verify_congr same]

/-- For an issuer whatever comes is rejected. -/
structure Shut (resolver : Resolver) (issuer : Text) : Prop where
  variant : ∀ (variant : Variant) credential, ∃ rejection,
    (variant.parse resolver credential (some issuer)).result = .error (.rejected rejection)
  registry : ∀ (registry : Registry) credential, ∃ rejection,
    (registry.parse resolver credential (some issuer)).result = .error (.rejected rejection)
  verify : ∀ (verifier : Verifier) credential clock now, ∃ rejection,
    (Verifier.verify { verifier with resolver := resolver } credential (some issuer) clock
      now).result = .ok (.rejected rejection)
  require : ∀ (verifier : Verifier) credential clock now, ∃ rejection,
    (Verifier.require { verifier with resolver := resolver } credential (some issuer) clock
      now).result = .error (.rejected rejection)

section Unanswered

variable {resolver : Resolver} {issuer name : Text}

theorem variant_rejects (unanswered : resolver issuer = .error (.unknownIssuer name))
    (variant : Variant) (credential : Option Text) : ∃ rejection,
      (variant.parse resolver credential (some issuer)).result = .error (.rejected rejection) := by
  apply Variant.parse_of_contained
  · cases opened : variant.opened? resolver credential (some issuer) with
    | none => rfl
    | some payload =>
      obtain ⟨name, key, _, expected, _, sealable, _⟩ := Variant.opened?_eq_some_iff.mp opened
      obtain rfl := Option.some.inj expected
      cases unanswered.symm.trans sealable.answered
  · -- Without a key the issuer is not even encoded.
    have contained : Sealing.issuerFault? resolver issuer = none := by
      rw [Sealing.issuerFault?, unanswered]
    unfold Variant.escape?
    split
    · next found =>
      obtain ⟨same, _⟩ := absentIfEmpty_eq_some_iff.mp found
      obtain rfl := Option.some.inj same
      rw [Sealing.escape?, contained, ite_self]
    · rfl

theorem registry_rejects (unanswered : resolver issuer = .error (.unknownIssuer name))
    (registry : Registry)
    (credential : Option Text) : ∃ rejection,
      (registry.parse resolver credential (some issuer)).result =
        .error (.rejected rejection) := by
  cases detected : registry.detect? credential with
  | none =>
    rw [Registry.parse_of_undetected detected]
    exact ⟨_, rfl⟩
  | some variant =>
    rw [Registry.parse_of_detected detected]
    exact variant_rejects unanswered variant credential

theorem verify_rejects (unanswered : resolver issuer = .error (.unknownIssuer name))
    (verifier : Verifier)
    (credential : Option Text) (clock : Float) (now : Option Int) : ∃ rejection,
      (Verifier.verify { verifier with resolver := resolver } credential (some issuer) clock
        now).result = .ok (.rejected rejection) := by
  obtain ⟨rejection, failed⟩ := registry_rejects unanswered verifier.registry credential
  exact ⟨rejection, Verifier.verify_eq_ok_iff.mpr (.rejected failed)⟩

theorem require_rejects (unanswered : resolver issuer = .error (.unknownIssuer name))
    (verifier : Verifier)
    (credential : Option Text) (clock : Float) (now : Option Int) : ∃ rejection,
      (Verifier.require { verifier with resolver := resolver } credential (some issuer) clock
        now).result = .error (.rejected rejection) := by
  obtain ⟨rejection, rejected⟩ := verify_rejects unanswered verifier credential clock now
  refine ⟨rejection, ?_⟩
  rw [Verifier.require, Verifier.handOut, rejected]
  rfl

theorem shut_of_unknown (unanswered : resolver issuer = .error (.unknownIssuer name)) :
    Shut resolver issuer where
  variant := variant_rejects unanswered
  registry := registry_rejects unanswered
  verify := verify_rejects unanswered
  require := require_rejects unanswered

end Unanswered

/-- Where there is a secret, a token can be sealed that is read; for an issuer without a UTF-8 form
none can be, but what has the form of one is not rejected. -/
theorem not_shut_of_derive {resolver : Resolver} {secret : Secret} {issuer : Text}
    (named : issuer ≠ []) (answered : resolver issuer = secret.derive issuer) :
    ¬ Shut resolver issuer := by
  intro shut
  obtain ⟨rejection, refused⟩ := shut.variant (.builtin .passwordChange)
    (some (Kind.passwordChange.mark ++ Sealing.sealed (secret.keyFor issuer) issuer
      Sample.changePayload Sample.source.nonce))
  -- A shut resolver rejects every text. Here one is accepted if the issuer has a UTF-8 form, and
  -- reading fails outside the rejections if not.
  cases found : issuer.encodingFault? with
  | none =>
    have encodable := Text.encodingFault?_eq_none_iff.mp found
    have sealable : Sealing.Sealable resolver issuer Sample.changePayload (secret.keyFor issuer) :=
      ⟨answered.trans (secret.derive_of_isEncodable encodable), encodable, by decide⟩
    have read := Variant.parse_sealed named sealable (.builtin .passwordChange) Sample.source.nonce
    rw [Variant.ofPayload_payload rfl Sample.payload_change] at read
    cases read.symm.trans refused
  | some fault =>
    have unanswered : resolver issuer = .error (.unencodable fault) := by
      rw [answered, Secret.derive, found]
    have escapes := Variant.escape?_of_form named (Sealing.wellFormed?_sealed (secret.keyFor issuer)
      issuer Sample.changePayload Sample.source.nonce) (.builtin .passwordChange) resolver
    rw [Sealing.issuerFault?, unanswered] at escapes
    cases (Variant.parse_of_escape? escapes).symm.trans refused

end Resolver

/-! ## One issuer's view of a keyring -/

namespace Keyring

/-- The secret that a keyring has for an issuer. -/
def secret? (ring : Keyring) (issuer : Text) : Option Secret := ring.secrets.find? issuer

theorem secret?_eq_map_shown? (ring : Keyring) (issuer : Text) :
    ring.secret? issuer = (ring.shown? issuer).map KeyEntry.secret := by
  rw [secret?, shown?, Option.map_map]
  cases ring.secrets.find? issuer <;> rfl

theorem resolver_congr {first second : Keyring} {issuer : Text}
    (same : first.secret? issuer = second.secret? issuer) :
    first.resolver issuer = second.resolver issuer := by
  unfold secret? at same
  rw [resolver, resolver, same]

theorem resolver_of_absent {ring : Keyring} {issuer : Text} (absent : ring.secret? issuer = none) :
    ring.resolver issuer = .error (.unknownIssuer issuer) := by
  unfold secret? at absent
  rw [resolver, absent]

/-- Whether a key is there shows in what is read. -/
theorem shut_iff {ring : Keyring} {issuer : Text} (named : issuer ≠ []) :
    Resolver.Shut ring.resolver issuer ↔ ring.secret? issuer = none := by
  cases known : ring.secret? issuer with
  | none => exact iff_of_true (Resolver.shut_of_unknown (resolver_of_absent known)) rfl
  | some secret =>
    have answered : ring.resolver issuer = secret.derive issuer := by
      unfold secret? at known
      rw [resolver, known]
    exact iff_of_false (Resolver.not_shut_of_derive named answered) (Option.some_ne_none secret)

theorem Call.issuer_of_change? {call : Call} {change : Change}
    (done : call.change? = some change) : change.issuer = call.issuer := by
  cases call with
  | add config =>
    cases stands : config.entry with
    | error fault =>
      rw [Call.change?, stands] at done
      cases done
    | ok entry =>
      rw [Call.change?, stands] at done
      obtain rfl := Option.some.inj done
      obtain ⟨_, secret, _, rfl⟩ := KeyConfig.entry_eq_ok_iff.mp stands
      rfl
  | remove issuer =>
    obtain rfl := Option.some.inj done
    rfl

/-- The last change about an issuer comes from a call about it. -/
theorem exists_call_of_last? {calls : List Call} {issuer : Text} {change : Change}
    (last : Change.last? (changes calls) issuer = some change) :
    ∃ call ∈ calls, call.change? = some change ∧ call.issuer = issuer := by
  obtain ⟨made, concerned⟩ := List.mem_filter.mp (List.mem_of_getLast? last)
  obtain ⟨call, listed, done⟩ := List.mem_filterMap.mp made
  exact ⟨call, listed, done, (Call.issuer_of_change? done).symm.trans (of_decide_eq_true concerned)⟩

theorem shown?_after (ring : Keyring) (calls : List Call) (issuer : Text) :
    (ring.after calls).shown? issuer =
      match Change.last? (changes calls) issuer with
      | some change => change.leaves?
      | none => ring.shown? issuer := by
  rw [after_eq_foldl]
  exact shown?_foldl_apply ring (changes calls) issuer

/-- Calls about other issuers leave an issuer's entry alone. -/
theorem shown?_after_of_others {calls : List Call} {issuer : Text}
    (others : ∀ call ∈ calls, call.issuer ≠ issuer) (ring : Keyring) :
    (ring.after calls).shown? issuer = ring.shown? issuer := by
  rw [shown?_after]
  cases last : Change.last? (changes calls) issuer with
  | none => rfl
  | some change =>
    obtain ⟨call, listed, _, about⟩ := exists_call_of_last? last
    exact absurd about (others call listed)

/-- An issuer without an entry has none until a usable key for it is added. -/
theorem shown?_after_of_absent {ring : Keyring} {calls : List Call} {issuer : Text}
    (absent : ring.shown? issuer = none)
    (unrestored : ∀ config, .add config ∈ calls → config.issuer = issuer → ¬ config.Usable) :
    (ring.after calls).shown? issuer = none := by
  rw [shown?_after]
  cases last : Change.last? (changes calls) issuer with
  | none => exact absent
  | some change =>
    -- A call that changed something for the issuer can only have removed it once more.
    obtain ⟨call, listed, done, about⟩ := exists_call_of_last? last
    cases call with
    | remove removed =>
      obtain rfl := Option.some.inj done
      rfl
    | add config =>
      obtain ⟨fault, refused⟩ := KeyConfig.not_usable_iff.mp (unrestored config listed about)
      rw [Call.change?, refused] at done
      cases done

theorem secret?_after_remove {calls : List Call} {issuer : Text}
    (unrestored : ∀ config, .add config ∈ calls → config.issuer = issuer → ¬ config.Usable)
    (ring : Keyring) : ((ring.remove issuer).2.after calls).secret? issuer = none := by
  rw [secret?_eq_map_shown?, shown?_after_of_absent _ unrestored]
  · rfl
  · rw [shown?_remove, if_pos rfl]

end Keyring

/-- Keyrings with the same secret for an issuer, or none, are one for it, and all is rejected for it
exactly if there is none. Calls about other issuers make no difference to it; and once its key is
removed all is rejected for it as long as no usable key for it is added. -/
theorem Keyring.tenant_apart (issuer : Text) :
    (∀ first second : Keyring, first.secret? issuer = second.secret? issuer →
        Resolver.Indistinct first.resolver second.resolver issuer) ∧
      (∀ ring : Keyring, issuer ≠ [] →
        (Resolver.Shut ring.resolver issuer ↔ ring.secret? issuer = none)) ∧
      ∀ (ring : Keyring) (calls : List Call),
        ((∀ call ∈ calls, call.issuer ≠ issuer) →
          Resolver.Indistinct (ring.after calls).resolver ring.resolver issuer) ∧
        ((∀ config, .add config ∈ calls → config.issuer = issuer → ¬ config.Usable) →
          Resolver.Shut ((ring.remove issuer).2.after calls).resolver issuer) := by
  refine ⟨?_, ?_, ?_⟩
  · intro first second same
    exact Resolver.indistinct_of_eq (resolver_congr same)
  · intro ring named
    exact shut_iff named
  · intro ring calls
    constructor
    · intro others
      have same : (ring.after calls).secret? issuer = ring.secret? issuer := by
        rw [secret?_eq_map_shown?, secret?_eq_map_shown?, shown?_after_of_others others]
      exact Resolver.indistinct_of_eq (resolver_congr same)
    · intro unrestored
      exact Resolver.shut_of_unknown (resolver_of_absent (secret?_after_remove unrestored ring))

namespace Sample

/-- A keyring with the secret of the visitor's issuer. -/
def tenancy : Keyring := Keyring.empty.apply (.put ⟨issuer, secret, none⟩)

/-- The same secret under a name, and a neighbour. -/
def shared : Keyring :=
  (Keyring.empty.apply (.put ⟨foreign, secret, none⟩)).apply (.put ⟨issuer, secret, some issuer⟩)

/-- The key of the visitor's issuer is removed, and comes back too short. -/
def evicted : Keyring :=
  (tenancy.remove issuer).2.after [.remove foreign, .add (shortKeyOf issuer)]

theorem verify_held_tenancy :
    (Verifier.verify { patient with resolver := tenancy.resolver } (some held) (some issuer) 0
      (some 184)).result = .ok (.accepted visitor) := by
  have encodable : issuer.isEncodable = true := by decide
  have sealable : Sealing.Sealable tenancy.resolver issuer visitorPayload
      (secret.keyFor issuer) :=
    ⟨secret.derive_of_isEncodable encodable, encodable, by decide⟩
  have parsed := Token.parse_planted rfl payload_visitor issuer_ne_nil sealable source.nonce
  exact Verifier.verify_eq_ok_iff.mpr (.accepted parsed admits_visitor rfl (by decide))

end Sample

/-- The visitor's token is accepted whatever becomes of neighbours, and no more once the key of its
own issuer is gone. -/
theorem Keyring.tenant_apart_visitor :
    (Verifier.verify { Sample.patient with resolver := Sample.shared.resolver } (some Sample.held)
        (some Sample.issuer) 0 (some 184)).result = .ok (.accepted Sample.visitor) ∧
      (Verifier.verify
        { Sample.patient with resolver := (Sample.tenancy.after Sample.calls).resolver }
        (some Sample.held) (some Sample.issuer) 0 (some 184)).result =
          .ok (.accepted Sample.visitor) ∧
      Sample.evicted.secret? Sample.issuer = none ∧
      ∃ rejection, (Verifier.verify { Sample.patient with resolver := Sample.evicted.resolver }
        (some Sample.held) (some Sample.issuer) 0 (some 184)).result =
          .ok (.rejected rejection) := by
  obtain ⟨alike, keyless, used⟩ := Keyring.tenant_apart Sample.issuer
  have shut : Resolver.Shut Sample.evicted.resolver Sample.issuer := by
    apply (used Sample.tenancy _).2
    intro config listed _
    simp only [List.mem_cons, reduceCtorEq, Call.add.injEq, List.not_mem_nil, false_or,
      or_false] at listed
    rw [listed]
    exact Sample.not_usable_shortKeyOf Sample.issuer
  refine ⟨?_, ?_, (keyless Sample.evicted Sample.issuer_ne_nil).mp shut, ?_⟩
  · rw [(alike Sample.shared Sample.tenancy (by decide +kernel)).verify]
    exact Sample.verify_held_tenancy
  · rw [((used Sample.tenancy Sample.calls).1 (by decide +kernel)).verify]
    exact Sample.verify_held_tenancy
  · exact shut.verify Sample.patient (some Sample.held) 0 (some 184)

end SealedToken
