import SealedToken.Metered
import SealedToken.Proofs.RoundTrip

/-!
Verdicts. Reading a credential ends without a rejection only where its issuer has no UTF-8 form or a
payload has a number beyond the digit limit, and verifying one ends without a verdict only there, or
where a time cannot be told.
-/

set_option autoImplicit false

namespace SealedToken

/-! ## Reading without a rejection -/

namespace Variant

/-- A credential that opens to a payload with too long a number. -/
def OpensUnreadable (variant : Variant) (resolver : Resolver) (credential issuer : Option Text) :
    Prop :=
  ∃ payload, variant.opened? resolver credential issuer = some payload ∧
    Wire.Unreadable variant.extensionCount payload

/-- A credential in the form of a sealed one, for an issuer that has no UTF-8 form. -/
def Escapes (variant : Variant) (resolver : Resolver) (credential issuer : Option Text) : Prop :=
  ∃ fault, variant.escape? resolver credential issuer = some fault

/-- The credentials that are refused without a rejection. -/
def Unreadable (variant : Variant) (resolver : Resolver) (credential issuer : Option Text) : Prop :=
  variant.Escapes resolver credential issuer ∨ variant.OpensUnreadable resolver credential issuer

theorem unrejected_ofPayload_iff {variant : Variant} {payload : Text} :
    Unrejected (variant.ofPayload payload) ↔
      Wire.Unreadable variant.extensionCount payload := by
  rw [← Wire.readPayload_unrejected_iff, ofPayload]
  cases Wire.readPayload payload variant.extensionCount with
  | error fault => simp [Unrejected]
  | ok fields =>
    obtain ⟨common, extension⟩ := fields
    -- Once the numbers are read, nothing but a rejection is left to go wrong.
    by_cases done : ∃ token, variant.tokenOf common extension = .ok token
    · obtain ⟨token, made⟩ := done
      simp [made]
    · obtain ⟨rejection, refused⟩ := tokenOf_of_not_ok (not_exists.mp done)
      simp [refused]

theorem unrejected_parse_iff {variant : Variant} {resolver : Resolver}
    {credential issuer : Option Text} :
    Unrejected (variant.parse resolver credential issuer).result ↔
      variant.Unreadable resolver credential issuer := by
  unfold Unreadable Escapes OpensUnreadable
  cases opened : variant.opened? resolver credential issuer with
  | none =>
    cases found : variant.escape? resolver credential issuer with
    | none =>
      obtain ⟨rejection, refused⟩ := parse_of_contained opened found
      simp [refused]
    | some fault => simp [parse_of_escape? found]
  | some payload =>
    rw [parse_of_opened? opened, unrejected_ofPayload_iff, escape?_eq_none_of_opened? opened]
    simp

end Variant

namespace Registry

/-- A credential that is so refused by the variant whose mark it carries. -/
def Unreadable (registry : Registry) (resolver : Resolver) (credential issuer : Option Text) :
    Prop :=
  ∃ variant, registry.detect? credential = some variant ∧
    variant.Unreadable resolver credential issuer

theorem unreadable_of_opened? {registry : Registry} {variant : Variant}
    (registered : variant ∈ registry.variants) {resolver : Resolver} {body payload : Text}
    {issuer : Option Text}
    (opened : variant.opened? resolver (some (variant.mark ++ body)) issuer = some payload)
    (unreadable : Wire.Unreadable variant.extensionCount payload) :
    registry.Unreadable resolver (some (variant.mark ++ body)) issuer :=
  ⟨variant, detect?_mark_append registered body, .inr ⟨payload, opened, unreadable⟩⟩

theorem unrejected_parse_iff {registry : Registry} {resolver : Resolver}
    {credential issuer : Option Text} :
    Unrejected (registry.parse resolver credential issuer).result ↔
      registry.Unreadable resolver credential issuer := by
  unfold Unreadable
  cases detected : registry.detect? credential with
  | none => simp [parse_of_undetected detected]
  | some variant =>
    rw [parse_of_detected detected, Variant.unrejected_parse_iff]
    simp

end Registry

/-- For a built-in kind the payload has the right number of fields and an overlong one in front. -/
theorem Kind.unreadable_iff {kind : Kind} {payload : Text} :
    Wire.Unreadable kind.layout.length payload ↔
      ∃ a b c d e extension,
        Text.split Payload.delimiter payload = a :: b :: c :: d :: e :: extension ∧
          extension.length = kind.layout.length ∧ Wire.NumbersOverlong a b := by
  unfold Wire.Unreadable
  split
  · next counted =>
    obtain ⟨a, b, c, d, e, extension, fields, size⟩ := Wire.exists_cons_of_length counted
    rw [fields]
    constructor
    · intro overlong
      exact ⟨a, b, c, d, e, extension, rfl, size, overlong⟩
    · rintro ⟨a, b, c, d, e, extension, same, _, overlong⟩
      simp only [List.cons.injEq] at same
      obtain ⟨rfl, rfl, _⟩ := same
      exact overlong
  · next miscounted =>
    have small := Wire.countable kind
    constructor
    · intro large
      omega
    · rintro ⟨a, b, c, d, e, extension, fields, size, _⟩
      rw [fields] at miscounted
      simp only [List.length_cons, size, Wire.commonCount] at miscounted
      omega

/-! ## Verifying without a verdict -/

namespace Verifier

/-- The time of a verification is no instant, or it shows a token expired whose expiry time is too
long to be written. -/
def TimeUntold (verifier : Verifier) (token : Token) (clock : Float) (now : Option Int) : Prop :=
  match instantOr clock now with
  | .error _ => True
  | .ok moment =>
    token.isExpired moment verifier.skew = true ∧
      Decimal.tenTo Decimal.digitLimit ≤ token.expiresAt.natAbs

theorem judge_error_iff {verifier : Verifier} {token : Token} {moment : Int} :
    (∃ fault, (verifier.judge token moment).result = .error fault) ↔
      token.isExpired moment verifier.skew = true ∧
        Decimal.tenTo Decimal.digitLimit ≤ token.expiresAt.natAbs := by
  unfold judge
  split
  · next expired =>
    simp only [expired, true_and]
    by_cases small : token.expiresAt.natAbs < Decimal.tenTo Decimal.digitLimit
    · have written := Decimal.write?_eq_ok_iff.mpr ⟨small, rfl⟩
      simp [written, small]
    · simp [Decimal.write?_of_large small, Nat.le_of_not_lt small]
  · next current => simp [current]

theorem verdictOn_error_iff {verifier : Verifier} {clock : Float} {now : Option Int}
    {read : Except ParseFault Token} :
    (∃ fault, (verifier.verdictOn clock now read).result = .error fault) ↔
      Unrejected read ∨ ∃ token, read = .ok token ∧ verifier.allows token.variant = true ∧
        verifier.TimeUntold token clock now := by
  match read with
  | .error (.rejected rejection) => simp [verdictOn]
  | .error (.limit exceeded) => simp [verdictOn]
  | .error .fieldMissing => simp [verdictOn, Unrejected]
  | .error (.unencodable fault) => simp [verdictOn]
  | .ok token =>
    unfold verdictOn TimeUntold
    by_cases allowed : verifier.allows token.variant = true
    · cases told : instantOr clock now with
      | error fault => simp [allowed]
      | ok moment => simp [allowed, judge_error_iff]
    · simp [allowed]

theorem verify_error_iff {verifier : Verifier} {credential issuer : Option Text} {clock : Float}
    {now : Option Int} :
    (∃ fault, (verifier.verify credential issuer clock now).result = .error fault) ↔
      verifier.registry.Unreadable verifier.resolver credential issuer ∨
        ∃ token, (verifier.registry.parse verifier.resolver credential issuer).result = .ok token ∧
          verifier.allows token.variant = true ∧ verifier.TimeUntold token clock now := by
  rw [← Registry.unrejected_parse_iff]
  exact verdictOn_error_iff

end Verifier

/-- Whatever a credential is, reading it ends in a token or a rejection unless it has the form of a
sealed one for an issuer without a UTF-8 form, or opens to a payload with a number beyond the digit
limit. Verifying it, under metrics or not, ends in a verdict unless that is so, or the time of an
admissible token cannot be told. -/
theorem Verifier.verdict_or_unreadable (credential issuer : Option Text) :
    (∀ variant resolver, Unrejected (Variant.parse variant resolver credential issuer).result ↔
        variant.Unreadable resolver credential issuer) ∧
      (∀ registry resolver, Unrejected (Registry.parse registry resolver credential issuer).result ↔
        registry.Unreadable resolver credential issuer) ∧
      ∀ verifier clock now,
        ((∃ fault, (verify verifier credential issuer clock now).result = .error fault) ↔
          verifier.registry.Unreadable verifier.resolver credential issuer ∨
            ∃ token,
              (verifier.registry.parse verifier.resolver credential issuer).result = .ok token ∧
                verifier.allows token.variant = true ∧ verifier.TimeUntold token clock now) ∧
          ∀ metrics start stop,
            (verifyMetered verifier metrics start stop credential issuer clock now).1 =
              verify verifier credential issuer clock now := by
  refine ⟨?_, ?_, ?_⟩
  · intro variant resolver
    exact Variant.unrejected_parse_iff
  · intro registry resolver
    exact Registry.unrejected_parse_iff
  · intro verifier clock now
    exact ⟨verify_error_iff, fun metrics start stop => rfl⟩

namespace Sample

/-- The fields of a token that changes a password, with a lifespan as it is given. -/
def payloadLasting (lifespan : Text) : Text :=
  Text.join Payload.delimiter [Text.ofString "021", lifespan, Text.ofString "me", [], issuer]

theorem unreadable_payloadLasting {lifespan : Text} (overlong : Decimal.Overlong lifespan) :
    Wire.Unreadable Kind.passwordChange.layout.length (payloadLasting lifespan) := by
  have legible : Decimal.Legible "021" :=
    ⟨by decide, List.all_eq_true.mp (by decide), by decide⟩
  have free : Payload.delimiter ∉ lifespan := by
    intro inside
    exact absurd (overlong.digits _ inside) (by decide)
  have split : Text.split Payload.delimiter (payloadLasting lifespan) =
      [Text.ofString "021", lifespan, Text.ofString "me", [], issuer] := by
    apply Text.split_join _ (List.cons_ne_nil _ _)
    simp only [List.forall_mem_cons]
    exact ⟨by decide, free, by decide, by decide, by decide, List.forall_mem_nil _⟩
  exact Kind.unreadable_iff.mpr ⟨_, _, _, _, _, _, split, rfl, .inr ⟨legible, overlong⟩⟩

theorem isEncodable_payloadLasting {lifespan : Text} (overlong : Decimal.Overlong lifespan) :
    (payloadLasting lifespan).isEncodable = true := by
  refine (Text.isEncodable_join rfl).mpr ?_
  simp only [List.forall_mem_cons]
  exact ⟨by decide, Decimal.isEncodable_of_digits overlong.digits, by decide, by decide, by decide,
    List.forall_mem_nil _⟩

theorem exists_overlong : ∃ lifespan, Decimal.Overlong lifespan := by
  refine ⟨List.replicate (Decimal.digitLimit + 1) (.char '1'), ?_⟩
  constructor
  · intro c inside
    rw [List.eq_of_mem_replicate inside]
    decide
  · rw [List.length_replicate]
    exact Nat.lt_succ_self _

def verifier : Verifier := ⟨secret.resolver, .standard, 0, none⟩

end Sample

theorem Verifier.not_forall_verdict :
    ¬ ∀ (verifier : Verifier) (credential issuer : Option Text) (clock : Float) (now : Option Int),
      ∃ verdict, (verifier.verify credential issuer clock now).result = .ok verdict := by
  intro verdicts
  -- The holder of a key seals a lifespan with one digit too many.
  obtain ⟨lifespan, overlong⟩ := Sample.exists_overlong
  have named : Sample.issuer ≠ [] := by decide
  have sealable := Sample.secret.sealable named (by decide)
    (Sample.isEncodable_payloadLasting overlong)
  have opened := Variant.opened?_sealed named sealable (.builtin .passwordChange)
    Sample.source.nonce
  -- The verifier comes to the same payload by the mark.
  have opens : Sample.verifier.registry.Unreadable Sample.verifier.resolver _ _ :=
    Registry.unreadable_of_opened? (Registry.builtin_mem_standard .passwordChange) opened
      (Sample.unreadable_payloadLasting overlong)
  obtain ⟨verdict, decided⟩ := verdicts Sample.verifier _ _ 0 none
  obtain ⟨fault, failed⟩ := Verifier.verify_error_iff.mpr (.inl opens)
  rw [decided] at failed
  cases failed

end SealedToken
