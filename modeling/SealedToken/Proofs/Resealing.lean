import SealedToken.Proofs.Encodable
import SealedToken.Proofs.IssuerBinding

/-!
Sealing what was read. Reading forgets how a payload was spelled: leading zeros, the coding of
names, empty fields. What it keeps can always be written again: numbers stay within the digit limit,
addresses stay valid, and no text holds the delimiter or a surrogate. So a token that was read can
be sealed anew, and is then read as the same token.
-/

set_option autoImplicit false

namespace SealedToken

/-! ## Fields free of the delimiter -/

open Payload (delimiter)

theorem delimiter_not_mem_getD {address : Option Text}
    (valid : ∀ text, address = some text → isWebAddress text = true) :
    delimiter ∉ address.getD [] := by
  cases address with
  | none => exact List.not_mem_nil
  | some text => exact not_mem_of_isWebAddress (by decide) (valid text rfl)

theorem Role.delimiter_not_mem_encode {roles : List Role} {field : Text}
    (encoded : encode roles = .ok field) : delimiter ∉ field := by
  obtain ⟨listable, rfl⟩ := encode_eq_ok_iff.mp encoded
  apply Text.not_mem_join (by decide)
  intro entry inside
  obtain ⟨role, listed, rfl⟩ := List.mem_map.mp inside
  exact not_mem_entry (by decide) (by decide) (by decide) (listable role listed).address_valid

namespace Contents

variable {variant : Variant} {common : Common} {contents : Contents}

/-- With roles that can be listed, each part has a field, and none holds the delimiter. -/
theorem exists_field (admitted : Admitted variant common contents)
    (listable : ∀ role ∈ contents.roles, role.Listable) (part : Part) :
    ∃ field, contents.field part = .ok field ∧ delimiter ∉ field := by
  cases part with
  | scope =>
    refine ⟨_, rfl, Text.not_mem_join (by decide) ?_⟩
    intro item inside
    exact Scope.not_mem_of_isItem (by decide) (admitted.scope_items item inside)
  | roles =>
    have encoded := Role.encode_eq_ok_iff.mpr ⟨listable, rfl⟩
    exact ⟨_, encoded, Role.delimiter_not_mem_encode encoded⟩
  | target => exact ⟨_, rfl, delimiter_not_mem_getD admitted.target_valid⟩
  | originalIssuer => exact ⟨_, rfl, delimiter_not_mem_getD admitted.originalIssuer_valid⟩

theorem exists_fields (admitted : Admitted variant common contents)
    (listable : ∀ role ∈ contents.roles, role.Listable) (layout : List Part) :
    ∃ fields, contents.fields layout = .ok fields ∧ ∀ field ∈ fields, delimiter ∉ field := by
  induction layout with
  | nil => exact ⟨[], rfl, List.forall_mem_nil _⟩
  | cons part layout ih =>
    obtain ⟨field, first, free⟩ := exists_field admitted listable part
    obtain ⟨fields, later, rest⟩ := ih
    exact ⟨field :: fields, fields_cons_eq_ok_iff.mpr ⟨field, fields, first, later, rfl⟩,
      List.forall_mem_cons.mpr ⟨free, rest⟩⟩

end Contents

/-! ## Tokens that can be written -/

namespace Token

/-- A token whose payload can be written: its numbers are within the digit limit, its texts are free
of the delimiter, and its roles can be listed. -/
structure Writable (token : Token) : Prop where
  issuedAt : token.common.issuedAt.natAbs < Decimal.tenTo Decimal.digitLimit
  lifespan : token.common.lifespan.natAbs < Decimal.tenTo Decimal.digitLimit
  subject : delimiter ∉ token.common.subject.getD []
  schema : delimiter ∉ token.common.schema.getD []
  issuer : delimiter ∉ token.common.issuer
  roles : ∀ role ∈ token.contents.roles, role.Listable

theorem Writable.exists_payload {token : Token} (writable : token.Writable) :
    ∃ plain, token.payload = .ok plain := by
  have admitted := token.admitted
  obtain ⟨extension, parts, free⟩ :=
    Contents.exists_fields admitted writable.roles token.variant.layout
  obtain ⟨issuedAt, written, issuedDigits⟩ :=
    Decimal.exists_write? admitted.issuedAt_nonneg writable.issuedAt
  obtain ⟨lifespan, counted, lifespanDigits⟩ :=
    Decimal.exists_write? (Int.le_of_lt admitted.lifespan_pos) writable.lifespan
  -- Digits are no delimiters, back to front or not.
  have first : delimiter ∉ issuedAt.reverse := by
    rw [List.mem_reverse]
    exact Payload.delimiter_not_mem_of_digits issuedDigits
  have second := Payload.delimiter_not_mem_of_digits lifespanDigits
  have front : ∀ field ∈ [issuedAt.reverse, lifespan, token.common.subject.getD [],
      token.common.schema.getD [], token.common.issuer], delimiter ∉ field := by
    simp only [List.forall_mem_cons]
    exact ⟨first, second, writable.subject, writable.schema, writable.issuer, List.forall_mem_nil _⟩
  have disguised := Payload.disguise_eq_ok_iff.mpr ⟨issuedAt, written, rfl⟩
  have common := Wire.commonFields_eq_ok_iff.mpr ⟨_, _, disguised, counted, rfl⟩
  have joined := Payload.join_eq_ok_iff.mpr ⟨List.forall_mem_append.mpr ⟨front, free⟩, rfl⟩
  have plain := Wire.payload_eq_ok_iff.mpr ⟨_, common, joined⟩
  exact ⟨_, payload_eq_ok_iff.mpr ⟨extension, parts, plain⟩⟩

end Token

namespace Wire.Fields

variable {fields : Fields} {kind : Kind} {token : Token} {payload : Text}

theorem Denote.listable (denoted : fields.Denote kind token) (spelled : fields.Spell payload)
    (encodable : payload.isEncodable = true) : ∀ role ∈ token.contents.roles, role.Listable := by
  intro role inside
  -- Roles are held only where the layout has a field for them, and that field lists them.
  have held : token.contents.holds .roles = true := by
    simp [Contents.holds, List.ne_nil_of_mem inside]
  have carried := token.admitted.carried .roles held
  rw [denoted.variant, Variant.carries, List.contains_iff_mem] at carried
  obtain ⟨field, placed, listed⟩ :=
    Contents.exists_field_of_fits denoted.extension .roles carried
  have free := spelled.isEncodable encodable field (by simp [toList, placed])
  exact (Role.Listed.listable listed free role inside).1

/-- The token of a payload can be written. -/
theorem Denote.writable (denoted : fields.Denote kind token) (spelled : fields.Spell payload)
    (grammatical : fields.Grammatical kind) (encodable : payload.isEncodable = true) :
    token.Writable where
  issuedAt := by
    rw [denoted.issuedAt, Int.natAbs_natCast]
    exact Decimal.value_lt_of_legible (Decimal.legible_reverse.mpr grammatical.issuedAt)
  lifespan := by
    rw [denoted.lifespan, Int.natAbs_natCast]
    exact Decimal.value_lt_of_legible grammatical.lifespan
  subject := by
    rw [denoted.subject, getD_absentIfEmpty]
    exact spelled.1 fields.subject (by simp [toList])
  schema := by
    rw [denoted.schema, getD_absentIfEmpty]
    exact spelled.1 fields.schema (by simp [toList])
  issuer := by
    rw [denoted.issuer]
    exact spelled.1 fields.issuer (by simp [toList])
  roles := denoted.listable spelled encodable

end Wire.Fields

/-! ## Sealing anew -/

theorem Variant.isEncodable_of_opened? {variant : Variant} {resolver : Resolver}
    {credential issuer : Option Text} {payload : Text}
    (opened : variant.opened? resolver credential issuer = some payload) :
    payload.isEncodable = true := by
  obtain ⟨_, _, _, _, _, sealable, _⟩ := opened?_eq_some_iff.mp opened
  exact sealable.payload_encodable

/-- What a kind read can be written again, with a UTF-8 form. -/
theorem Variant.writable_of_parse {kind : Kind} {resolver : Resolver}
    {credential issuer : Option Text} {token : Token}
    (parsed : ((Variant.builtin kind).parse resolver credential issuer).result = .ok token) :
    token.Writable ∧ token.Encodable := by
  obtain ⟨payload, opened, read⟩ := parse_eq_ok_iff.mp parsed
  obtain ⟨fields, spelled, grammatical, denoted⟩ := grammatical_of_ofPayload read
  have encodable := isEncodable_of_opened? opened
  exact ⟨denoted.writable spelled grammatical encodable, denoted.encodable spelled encodable⟩

theorem Variant.variant_of_parse {variant : Variant} {resolver : Resolver}
    {credential issuer : Option Text} {token : Token}
    (parsed : (variant.parse resolver credential issuer).result = .ok token) :
    token.variant = variant := by
  obtain ⟨payload, _, read⟩ := parse_eq_ok_iff.mp parsed
  obtain ⟨common, extension, contents, _, _, made⟩ := ofPayload_eq_ok_iff.mp read
  exact (Token.make_eq_ok_iff.mp made).1

/-- What the standard registry read was read by one of the kinds. -/
theorem Registry.exists_kind_of_parse {resolver : Resolver} {credential issuer : Option Text}
    {token : Token} (parsed : (standard.parse resolver credential issuer).result = .ok token) :
    ∃ kind, token.variant = .builtin kind ∧
      ((Variant.builtin kind).parse resolver credential issuer).result = .ok token := by
  obtain ⟨variant, detected, read⟩ := parse_eq_ok_iff.mp parsed
  obtain ⟨kind, _, rfl⟩ := List.mem_map.mp (detect?_eq_some_iff.mp detected).1
  exact ⟨kind, Variant.variant_of_parse read, read⟩

theorem Token.Writable.exists_sealed {token : Token} {resolver : Resolver} {key : Key}
    (writable : token.Writable) (encodable : token.Encodable)
    (answered : resolver token.common.issuer = .ok key) (source : ByteSource) :
    ∃ text, (token.encode resolver source).result = .ok text := by
  obtain ⟨plain, written⟩ := writable.exists_payload
  have sealable : Sealing.Sealable resolver token.common.issuer plain key :=
    ⟨answered, encodable.issuer, (payload_isEncodable_iff written).mpr encodable⟩
  exact ⟨_, encode_of_sealable written sealable source⟩

/-- A token of a built-in kind that can be written, with a UTF-8 form, can be sealed with any key of
its issuer and any nonce, and is read back as it was, alone and through the standard registry. -/
theorem Token.Writable.exists_encoded {token : Token} {kind : Kind} {resolver : Resolver}
    {key : Key} (writable : token.Writable) (encodable : token.Encodable)
    (builtin : token.variant = .builtin kind) (answered : resolver token.common.issuer = .ok key)
    (source : ByteSource) :
    ∃ text, (token.encode resolver source).result = .ok text ∧
      (token.variant.parse resolver (some text) (some token.common.issuer)).result = .ok token ∧
        (Registry.standard.parse resolver (some text) (some token.common.issuer)).result =
          .ok token := by
  obtain ⟨text, encoded⟩ := writable.exists_sealed encodable answered source
  have parsed := parse_encode builtin encoded
  rw [← builtin] at parsed
  exact ⟨text, encoded, parsed⟩

/-- Whatever the standard registry read can be sealed again, with any key of the issuer that the
token names and any nonce, and the new text is read as the token it was, alone and through the
registry. -/
theorem Token.encode_of_parse {token : Token} {resolver other : Resolver}
    {credential issuer : Option Text} {key : Key}
    (parsed : (Registry.standard.parse resolver credential issuer).result = .ok token)
    (answered : other token.common.issuer = .ok key) (source : ByteSource) :
    ∃ text, (token.encode other source).result = .ok text ∧
      (token.variant.parse other (some text) (some token.common.issuer)).result = .ok token ∧
        (Registry.standard.parse other (some text) (some token.common.issuer)).result =
          .ok token := by
  obtain ⟨kind, builtin, read⟩ := Registry.exists_kind_of_parse parsed
  -- The payload that was read may be spelled otherwise; from here on the one written counts.
  obtain ⟨writable, encodable⟩ := Variant.writable_of_parse read
  exact writable.exists_encoded encodable builtin answered source

namespace Sample

/-- A refresh token of a guest, without a subject or a schema. -/
def guest : Token where
  variant := .builtin .visitorRefresh
  common := ⟨120, 60, none, none, issuer⟩
  contents :=
    { scope := ["root"]
      roles := [⟨"A%zz\uFFFD", "https://cell.example/__role/box/doctor"⟩]
      target := none
      originalIssuer := none }
  faultless := by decide +kernel
  common_normal := by decide
  contents_normal := by decide

/-- The guest's payload with leading zeros, and with the role's name coded in another way: a letter
that needs no code, an escape that is none, and a byte of no text. -/
def looseGuestPayload : Text :=
  Text.join Payload.delimiter <|
    ["0210", "0060", "", "", "https://cell.example/",
      "%41%zz%ff;https://cell.example/__role/box/doctor", "", "root"].map Text.ofString

theorem ofPayload_looseGuestPayload :
    (Variant.builtin .visitorRefresh).ofPayload looseGuestPayload = .ok guest := rfl

/-- The guest's token, sealed for another issuer than the one it names. -/
def looseGuest : Text :=
  Kind.visitorRefresh.mark ++
    Sealing.sealed (secret.keyFor foreign) foreign looseGuestPayload source.nonce

theorem parse_looseGuest :
    (Registry.standard.parse secret.resolver (some looseGuest) (some foreign)).result =
      .ok guest := by
  have sealable : Sealing.Sealable secret.resolver foreign looseGuestPayload
      (secret.keyFor foreign) :=
    secret.sealable foreign_ne_nil (by decide) (by decide)
  exact (Registry.parse_sealed (Registry.builtin_mem_standard .visitorRefresh) foreign_ne_nil
    sealable source.nonce).trans ofPayload_looseGuestPayload

end Sample

theorem Token.encode_of_parse_guest :
    ∃ text, (Sample.guest.encode Sample.secret.resolver Sample.source).result = .ok text ∧
      ((Variant.builtin .visitorRefresh).parse Sample.secret.resolver (some text)
          (some Sample.issuer)).result = .ok Sample.guest ∧
        (Registry.standard.parse Sample.secret.resolver (some text) (some Sample.issuer)).result =
          .ok Sample.guest := by
  have answered : Sample.secret.resolver Sample.guest.common.issuer =
      .ok (Sample.secret.keyFor Sample.issuer) :=
    Sample.secret.resolver_of_isEncodable (by decide) (by decide)
  exact Token.encode_of_parse Sample.parse_looseGuest answered Sample.source

end SealedToken
