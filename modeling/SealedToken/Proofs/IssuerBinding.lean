import SealedToken.Proofs.Verdicts

/-!
The issuer of an accepted token. The expected issuer decides the key and is sealed as associated
data, but the token takes its issuer from the payload, and nothing compares the two. So a token is
bound to the expected issuer exactly when the payload names that issuer, and whoever holds a key may
name another.
-/

set_option autoImplicit false

namespace SealedToken

/-- The issuer that a payload names, in its fifth field. -/
def Wire.namedIssuer? (payload : Text) : Option Text := (Text.split Payload.delimiter payload)[4]?

theorem Wire.namedIssuer?_of_readPayload {payload : Text} {extensions : Nat} {common : Common}
    {extension : List Text} (read : readPayload payload extensions = .ok (common, extension)) :
    namedIssuer? payload = some common.issuer := by
  obtain ⟨a, b, c, d, e, fields, _, _, rfl⟩ := readPayload_eq_ok_iff.mp read
  rw [namedIssuer?, fields]
  rfl

namespace Variant

theorem namedIssuer?_of_ofPayload {variant : Variant} {payload : Text} {token : Token}
    (read : variant.ofPayload payload = .ok token) :
    Wire.namedIssuer? payload = some token.common.issuer := by
  obtain ⟨common, extension, contents, fields, _, made⟩ := ofPayload_eq_ok_iff.mp read
  -- Making the token leaves the issuer as it was read.
  obtain ⟨_, same, _⟩ := Token.make_eq_ok_iff.mp made
  rw [Wire.namedIssuer?_of_readPayload fields, same]
  rfl

/-- What is read as a token opens to a payload that names the token's issuer. -/
theorem issuer_of_parse {variant : Variant} {resolver : Resolver} {credential issuer : Option Text}
    {token : Token} (parsed : (variant.parse resolver credential issuer).result = .ok token) :
    ∃ payload, variant.opened? resolver credential issuer = some payload ∧
      Wire.namedIssuer? payload = some token.common.issuer := by
  obtain ⟨payload, opened, read⟩ := parse_eq_ok_iff.mp parsed
  exact ⟨payload, opened, namedIssuer?_of_ofPayload read⟩

end Variant

theorem Registry.issuer_of_parse {registry : Registry} {resolver : Resolver}
    {credential issuer : Option Text} {token : Token}
    (parsed : (registry.parse resolver credential issuer).result = .ok token) :
    ∃ payload, registry.opened? resolver credential issuer = some payload ∧
      Wire.namedIssuer? payload = some token.common.issuer := by
  obtain ⟨variant, detected, read⟩ := parse_eq_ok_iff.mp parsed
  obtain ⟨payload, opened, named⟩ := Variant.issuer_of_parse read
  refine ⟨payload, ?_, named⟩
  rw [opened?, detected]
  exact opened

namespace Verifier

theorem judge_token {verifier : Verifier} {token : Token} {moment : Int} {verdict : Verdict}
    (judged : (verifier.judge token moment).result = .ok verdict) :
    verdict.token? = some token := by
  unfold judge at judged
  split at judged
  · cases written : Decimal.write? token.expiresAt with
    | error exceeded =>
      rw [written] at judged
      cases judged
    | ok text =>
      rw [written] at judged
      obtain rfl := Except.ok.inj judged
      rfl
  · obtain rfl := Except.ok.inj judged
    rfl

theorem verdictOn_token {verifier : Verifier} {clock : Float} {now : Option Int}
    {read : Except ParseFault Token} {verdict : Verdict} {token : Token}
    (decided : (verifier.verdictOn clock now read).result = .ok verdict)
    (held : verdict.token? = some token) : read = .ok token := by
  match read with
  | .error (.rejected rejection) =>
    obtain rfl := Except.ok.inj decided
    cases held
  | .error (.limit exceeded) => cases decided
  | .error .fieldMissing => cases decided
  | .error (.unencodable fault) => cases decided
  | .ok found =>
    unfold verdictOn at decided
    by_cases allowed : verifier.allows found.variant = true
    · cases told : instantOr clock now with
      | error fault =>
        simp only [allowed, told, if_true] at decided
        cases decided
      | ok moment =>
        simp only [allowed, told, if_true] at decided
        rw [judge_token decided] at held
        exact congrArg Except.ok (Option.some.inj held)
    · simp only [allowed] at decided
      obtain rfl := Except.ok.inj decided
      exact congrArg Except.ok (Option.some.inj held)

/-- The token of a verdict is the one that was read. -/
theorem parse_of_verify {verifier : Verifier} {credential issuer : Option Text} {clock : Float}
    {now : Option Int} {verdict : Verdict} {token : Token}
    (decided : (verifier.verify credential issuer clock now).result = .ok verdict)
    (held : verdict.token? = some token) :
    (verifier.registry.parse verifier.resolver credential issuer).result = .ok token :=
  verdictOn_token decided held

theorem verify_of_current {verifier : Verifier} {credential issuer : Option Text} {clock : Float}
    {now : Option Int} {moment : Int} {token : Token}
    (parsed : (verifier.registry.parse verifier.resolver credential issuer).result = .ok token)
    (allowed : verifier.allows token.variant = true) (told : instantOr clock now = .ok moment)
    (current : token.isExpired moment verifier.skew = false) :
    (verifier.verify credential issuer clock now).result = .ok (.accepted token) := by
  have decided : (verifier.verify credential issuer clock now).result =
      (verifier.verdictOn clock now (.ok token)).result := by
    rw [← parsed]
    rfl
  rw [decided, verdictOn, if_pos allowed, told]
  simp only [judge, current]
  rfl

end Verifier

/-- The payload of any token of a built-in kind can be sealed for any issuer that has a key, as long
as both can be encoded. -/
theorem Token.parse_planted {token : Token} {kind : Kind} {payload issuer : Text}
    {resolver : Resolver} {key : Key} (builtin : token.variant = .builtin kind)
    (written : token.payload = .ok payload) (named : issuer ≠ [])
    (sealable : Sealing.Sealable resolver issuer payload key) (nonce : Nonce) :
    (Registry.standard.parse resolver
      (some (kind.mark ++ Sealing.sealed key issuer payload nonce)) (some issuer)).result =
        .ok token :=
  (Registry.parse_sealed (Registry.builtin_mem_standard kind) named sealable nonce).trans
    (Variant.ofPayload_payload builtin written)

/-- The issuer of a token is the expected one exactly if what was opened names it. -/
def Token.BoundBy (token : Token) (opened : Option Text) (expected : Text) : Prop :=
  ∃ payload, opened = some payload ∧
    (token.common.issuer = expected ↔ Wire.namedIssuer? payload = some expected)

theorem Token.boundBy_of_named {token : Token} {opened : Option Text}
    (named : ∃ payload, opened = some payload ∧
      Wire.namedIssuer? payload = some token.common.issuer) (expected : Text) :
    token.BoundBy opened expected := by
  obtain ⟨payload, found, issuer⟩ := named
  refine ⟨payload, found, ?_⟩
  rw [issuer, Option.some.injEq]

/-- A token that a variant, a registry or a verifier takes for one of the expected issuer reports
that issuer exactly if the payload names it. The key alone does not see to that: every token of a
built-in kind, whatever issuer it reports, is taken so under the key of any other. -/
theorem Token.issuer_of_accepted {token : Token} {resolver : Resolver} {expected : Text} :
    (∀ variant credential,
        (Variant.parse variant resolver credential (some expected)).result = .ok token →
          token.BoundBy (variant.opened? resolver credential (some expected)) expected) ∧
      (∀ registry credential,
        (Registry.parse registry resolver credential (some expected)).result = .ok token →
          token.BoundBy (registry.opened? resolver credential (some expected)) expected) ∧
      (∀ verifier credential clock now verdict,
        (Verifier.verify verifier credential (some expected) clock now).result = .ok verdict →
          verdict.token? = some token →
            token.BoundBy
              (verifier.registry.opened? verifier.resolver credential (some expected)) expected) ∧
      ∀ kind payload key nonce, token.variant = .builtin kind → token.payload = .ok payload →
        expected ≠ [] → Sealing.Sealable resolver expected payload key →
          (Registry.standard.parse resolver
            (some (kind.mark ++ Sealing.sealed key expected payload nonce))
            (some expected)).result = .ok token := by
  refine ⟨?_, ?_, ?_, ?_⟩
  · intro variant credential parsed
    exact boundBy_of_named (Variant.issuer_of_parse parsed) expected
  · intro registry credential parsed
    exact boundBy_of_named (Registry.issuer_of_parse parsed) expected
  · intro verifier credential clock now verdict decided held
    have parsed := Verifier.parse_of_verify decided held
    exact boundBy_of_named (Registry.issuer_of_parse parsed) expected
  · intro kind payload key nonce builtin written named sealable
    exact parse_planted builtin written named sealable nonce

namespace Sample

def foreign : Text := "https://other.example/"

theorem foreign_ne_nil : foreign ≠ [] := by decide

/-- A visitor's token, sealed for an issuer that it does not name. -/
def planted : Text :=
  Kind.visitorRefresh.mark ++
    Sealing.sealed (secret.keyFor foreign) foreign visitorPayload source.nonce

end Sample

theorem Token.issuer_of_accepted_visitor :
    (Registry.standard.parse Sample.secret.resolver (some Sample.planted)
        (some Sample.foreign)).result = .ok Sample.visitor ∧
      Sample.visitor.BoundBy (Registry.standard.opened? Sample.secret.resolver (some Sample.planted)
        (some Sample.foreign)) Sample.foreign := by
  have sealable := Sample.sealable_visitor Sample.foreign_ne_nil (by decide)
  obtain ⟨_, bound, _, planted⟩ :=
    @Token.issuer_of_accepted Sample.visitor Sample.secret.resolver Sample.foreign
  have parsed := planted .visitorRefresh Sample.visitorPayload _ Sample.source.nonce rfl
    Sample.payload_visitor Sample.foreign_ne_nil sealable
  exact ⟨parsed, bound _ _ parsed⟩

theorem Verifier.not_forall_issuer_expected :
    ¬ ∀ (verifier : Verifier) (credential : Option Text) (expected : Text) (clock : Float)
      (now : Option Int) (token : Token),
      (verifier.verify credential (some expected) clock now).result = .ok (.accepted token) →
        token.common.issuer = expected := by
  intro bound
  -- The visitor's token, sealed under the key of another issuer, is accepted as that issuer's.
  have sealable := Sample.sealable_visitor Sample.foreign_ne_nil (by decide)
  have parsed : (Sample.verifier.registry.parse Sample.verifier.resolver (some Sample.planted)
      (some Sample.foreign)).result = .ok Sample.visitor :=
    Token.parse_planted rfl Sample.payload_visitor Sample.foreign_ne_nil sealable
      Sample.source.nonce
  have told : instantOr 0 (some 100) = .ok 100 := rfl
  have accepted := Verifier.verify_of_current parsed rfl told (by decide)
  exact absurd (bound _ _ _ _ _ _ accepted) (by decide)

end SealedToken
