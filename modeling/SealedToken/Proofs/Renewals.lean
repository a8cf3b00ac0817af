import SealedToken.Proofs.Resealing
import SealedToken.Token.Request

/-!
Renewals. A refresh token that was read can be renewed for any time and length that can be written:
the access token has the same issuer, subject, schema, scope and roles, it can be sealed wherever
its issuer has a key, and it is read back as it is.
-/

set_option autoImplicit false

namespace SealedToken

/-- An access token that carries on the grant of a refresh token: a token of a cell renews that of a
cell, and one of a visitor that of a visitor. -/
structure Token.Renews (renewed token : Token) (issuedAt lifespan : Int) : Prop where
  kinds :
    token.variant = .builtin .cellRefresh ∧ renewed.variant = .builtin .cellAccess ∨
      token.variant = .builtin .visitorRefresh ∧ renewed.variant = .builtin .visitorAccess
  issuedAt : renewed.common.issuedAt = issuedAt
  lifespan : renewed.common.lifespan = lifespan
  issuer : renewed.common.issuer = token.common.issuer
  subject : renewed.common.subject = token.common.subject
  schema : renewed.common.schema = token.common.schema
  scope : renewed.contents.scope = token.contents.scope
  roles : renewed.contents.roles = token.contents.roles

/-! ## What reading lets through -/

/-- Reading through a registry is reading by the variant of the token. -/
theorem Registry.parse_variant_of_parse {registry : Registry} {resolver : Resolver}
    {credential issuer : Option Text} {token : Token}
    (parsed : (registry.parse resolver credential issuer).result = .ok token) :
    (token.variant.parse resolver credential issuer).result = .ok token := by
  obtain ⟨variant, _, read⟩ := parse_eq_ok_iff.mp parsed
  rw [Variant.variant_of_parse read]
  exact read

/-! ## What renewing makes -/

namespace Kind

variable {kind access : Kind}

/-- The access token carries what it takes over. -/
theorem carries_of_renews (renews : kind.renews? = some access) {part : Part}
    (taken : part = .scope ∨ part = .roles) (carried : (Variant.builtin kind).carries part = true) :
    (Variant.builtin access).carries part = true := by
  revert renews taken carried
  cases kind <;> cases access <;> cases part <;> decide

end Kind

namespace Token

variable {token renewed : Token} {kind access : Kind} {issuedAt lifespan : Int}

/-- The fields of an access token with the grant of a token. -/
theorem admitted_renewal (refresh : token.variant = .builtin kind)
    (renews : kind.renews? = some access) (issuedAt_nonneg : 0 ≤ issuedAt)
    (lifespan_pos : 0 < lifespan) :
    Admitted (.builtin access) { token.common with issuedAt := issuedAt, lifespan := lifespan }
      { Contents.empty with scope := token.contents.scope, roles := token.contents.roles } := by
  have admitted := token.admitted
  have carried := admitted.carried
  rw [refresh] at carried
  refine ⟨?_, issuedAt_nonneg, lifespan_pos, admitted.issuer_nonempty, admitted.scope_items,
    nofun, nofun⟩
  intro part held
  cases part with
  | scope => exact Kind.carries_of_renews renews (.inl rfl) (carried .scope held)
  | roles => exact Kind.carries_of_renews renews (.inr rfl) (carried .roles held)
  | target | originalIssuer => cases held

theorem exists_renewed (refresh : token.variant = .builtin kind)
    (renews : kind.renews? = some access) (issuedAt_nonneg : 0 ≤ issuedAt)
    (lifespan_pos : 0 < lifespan) :
    ∃ renewed, token.renewed? issuedAt lifespan = some (.ok renewed) ∧
      renewed.variant = .builtin access ∧
      renewed.common = { token.common with issuedAt := issuedAt, lifespan := lifespan } ∧
      renewed.contents =
        { Contents.empty with scope := token.contents.scope, roles := token.contents.roles } := by
  obtain ⟨renewed, made, rest⟩ :=
    make_of_admitted (admitted_renewal refresh renews issuedAt_nonneg lifespan_pos)
      (by simp only [Common.normal, token.subject_normal, token.schema_normal]) rfl
  refine ⟨renewed, ?_, rest⟩
  rw [renewed?, renews?, refresh]
  simp only [renews, Option.map_some, made]

theorem Writable.of_renews (writable : token.Writable)
    (renews : renewed.Renews token issuedAt lifespan)
    (issuedAt_short : issuedAt.natAbs < Decimal.tenTo Decimal.digitLimit)
    (lifespan_short : lifespan.natAbs < Decimal.tenTo Decimal.digitLimit) : renewed.Writable where
  issuedAt := renews.issuedAt ▸ issuedAt_short
  lifespan := renews.lifespan ▸ lifespan_short
  subject := renews.subject ▸ writable.subject
  schema := renews.schema ▸ writable.schema
  issuer := renews.issuer ▸ writable.issuer
  roles := renews.roles ▸ writable.roles

/-- The parts that an access token has fields for are written by the refresh token as well. -/
theorem Encodable.of_renews (encodable : token.Encodable)
    (renews : renewed.Renews token issuedAt lifespan) : renewed.Encodable where
  subject := renews.subject ▸ encodable.subject
  schema := renews.schema ▸ encodable.schema
  issuer := renews.issuer ▸ encodable.issuer
  parts := by
    intro part placed
    rcases renews.kinds with ⟨refresh, access⟩ | ⟨refresh, access⟩
    · rw [access] at placed
      obtain rfl := List.mem_singleton.mp placed
      have scope := encodable.parts .scope (by rw [refresh]; decide)
      simpa only [Contents.EncodableAt, renews.scope] using scope
    · have scope := encodable.parts .scope (by rw [refresh]; decide)
      have roles := encodable.parts .roles (by rw [refresh]; decide)
      rw [access] at placed
      simp only [Variant.layout, Kind.layout, List.mem_cons, List.not_mem_nil, or_false] at placed
      rcases placed with rfl | rfl
      · simpa only [Contents.EncodableAt, renews.roles] using roles
      · simpa only [Contents.EncodableAt, renews.scope] using scope

theorem exists_renewal
    (refresh : token.variant = .builtin .cellRefresh ∨ token.variant = .builtin .visitorRefresh)
    (issuedAt_nonneg : 0 ≤ issuedAt) (lifespan_pos : 0 < lifespan) (settings : Settings)
    (clock : Float) :
    ∃ renewed, token.renewal? settings clock (some issuedAt) (some lifespan) =
        some (.ok renewed) ∧ renewed.Renews token issuedAt lifespan := by
  have renewal (kind access : Kind) (known : token.variant = .builtin kind)
      (renews : kind.renews? = some access) :
      token.renewal? settings clock (some issuedAt) (some lifespan) =
        token.renewed? issuedAt lifespan := by
    rw [renewal?, renews?, known]
    simp only [renews, Option.bind_some, instantOr, Option.getD_some]
  rcases refresh with cell | visitor
  · obtain ⟨renewed, made, variant, common, contents⟩ :=
      exists_renewed cell rfl issuedAt_nonneg lifespan_pos
    refine ⟨renewed, (renewal _ _ cell rfl).trans made, ?_⟩
    constructor <;> simp [cell, variant, common, contents]
  · obtain ⟨renewed, made, variant, common, contents⟩ :=
      exists_renewed visitor rfl issuedAt_nonneg lifespan_pos
    refine ⟨renewed, (renewal _ _ visitor rfl).trans made, ?_⟩
    constructor <;> simp [visitor, variant, common, contents]

/-- A refresh token that was read, by its variant or through a registry, renews for every time and
length that can be written. With any key of its issuer the access token can be sealed, and it is
read back as an access token of the same grant, of that time and length. -/
theorem renewal_keeps_grant {resolver other : Resolver} {credential issuer : Option Text}
    {key : Key}
    (refresh : token.variant = .builtin .cellRefresh ∨ token.variant = .builtin .visitorRefresh)
    (parsed : (token.variant.parse resolver credential issuer).result = .ok token ∨
      ∃ registry : Registry, (registry.parse resolver credential issuer).result = .ok token)
    (answered : other token.common.issuer = .ok key) (issuedAt_nonneg : 0 ≤ issuedAt)
    (issuedAt_short : issuedAt < Decimal.tenTo Decimal.digitLimit) (lifespan_pos : 0 < lifespan)
    (lifespan_short : lifespan < Decimal.tenTo Decimal.digitLimit) (settings : Settings)
    (clock : Float) (source : ByteSource) :
    ∃ renewed text,
      token.renewal? settings clock (some issuedAt) (some lifespan) = some (.ok renewed) ∧
        renewed.Renews token issuedAt lifespan ∧
          (renewed.encode other source).result = .ok text ∧
            (Registry.standard.parse other (some text) (some token.common.issuer)).result =
              .ok renewed := by
  have read : (token.variant.parse resolver credential issuer).result = .ok token := by
    rcases parsed with read | ⟨registry, read⟩
    · exact read
    · exact Registry.parse_variant_of_parse read
  obtain ⟨writable, encodable⟩ : token.Writable ∧ token.Encodable := by
    rcases refresh with kind | kind <;> rw [kind] at read <;> exact Variant.writable_of_parse read
  obtain ⟨renewed, made, renews⟩ :=
    exists_renewal refresh issuedAt_nonneg lifespan_pos settings clock
  have written := writable.of_renews renews (by omega) (by omega)
  -- The access token names the same issuer, so the same key seals and opens it.
  rw [← renews.issuer] at answered ⊢
  rcases renews.kinds with ⟨_, kind⟩ | ⟨_, kind⟩ <;>
  · obtain ⟨text, encoded, _, opened⟩ :=
      written.exists_encoded (encodable.of_renews renews) kind answered source
    exact ⟨renewed, text, made, renews, encoded, opened⟩

end Token

namespace Sample

/-- The last time that can be written. -/
def lastTime : Int := Decimal.tenTo Decimal.digitLimit - 1

theorem lastTime_range : 0 ≤ lastTime ∧ lastTime < Decimal.tenTo Decimal.digitLimit := by
  have := Decimal.tenTo_pos Decimal.digitLimit
  unfold lastTime
  omega

end Sample

/-- The guest's token is renewed for the last time that can be written, for the guest's roles. -/
theorem Token.renewal_keeps_grant_guest :
    ∃ renewed text,
      Sample.guest.renewal? .standard 0 (some Sample.lastTime) (some 1) = some (.ok renewed) ∧
        renewed.variant = .builtin .visitorAccess ∧ renewed.common.issuedAt = Sample.lastTime ∧
          renewed.contents.roles = Sample.guest.contents.roles ∧
            (Registry.standard.parse Sample.secret.resolver (some text)
              (some Sample.issuer)).result = .ok renewed := by
  have answered : Sample.secret.resolver Sample.guest.common.issuer =
      .ok (Sample.secret.keyFor Sample.issuer) :=
    Sample.secret.resolver_of_isEncodable Sample.guest.admitted.issuer_nonempty (by decide)
  have range := Sample.lastTime_range
  have lasting : (1 : Int) < Decimal.tenTo Decimal.digitLimit := by decide +kernel
  have refresh : Sample.guest.variant = .builtin .cellRefresh ∨
      Sample.guest.variant = .builtin .visitorRefresh := .inr rfl
  obtain ⟨renewed, text, made, renews, _, opened⟩ :=
    Token.renewal_keeps_grant refresh (.inr ⟨.standard, Sample.parse_looseGuest⟩) answered range.1
      range.2 (by decide) lasting .standard 0 Sample.source
  refine ⟨renewed, text, made, ?_, renews.issuedAt, renews.roles, opened⟩
  exact (renews.kinds.resolve_left fun cell => absurd cell.1 (by decide)).2

end SealedToken
