import SealedToken.Proofs.Grammar

/-!
Payloads with a UTF-8 form. A payload has one exactly if the texts that are written into it have
one: the subject, the schema, the issuer, and those of the parts. Numbers always have one, and so
has the code of a role's name. What is read from such a payload is free of surrogates again, the
names of its roles included.
-/

set_option autoImplicit false

namespace SealedToken

theorem Percent.isEncodable_encode (name : Text) : (encode name).isEncodable = true := by
  rw [Text.isEncodable, List.all_eq_true]
  intro c inside
  obtain ⟨byte, _, written⟩ := List.mem_flatMap.mp inside
  have small := small_of_mem_encodeByte written
  exact CodePoint.isChar_of_lt (by omega)

/-! ## Fields of parts -/

namespace Role

/-- Of a role only the address brings surrogates into the field. -/
theorem isEncodable_entry_iff {role : Role} :
    role.entry.isEncodable = true ↔ role.address.isEncodable = true := by
  rw [entry, Text.isEncodable_append, Text.isEncodable_cons,
    and_iff_right (Percent.isEncodable_encode role.name),
    and_iff_right (show nameSeparator.isChar = true from rfl)]

/-- An entry free of surrogates is that of a role free of them, which can be listed again. -/
theorem Entered.listable {entry : Text} {role : Role} (entered : Entered entry role)
    (encodable : entry.isEncodable = true) :
    role.Listable ∧ role.address.isEncodable = true := by
  obtain ⟨name, _, _, decoded, rfl⟩ := entered.written
  rw [Text.isEncodable_append, Text.isEncodable_cons] at encodable
  have named : role.name.isEncodable = true := by
    rw [decoded]
    exact Percent.isEncodable_decode encodable.1
  exact ⟨⟨entered.address_valid, named⟩, encodable.2.2⟩

theorem Listed.listable {field : Text} {roles : List Role} (listed : Listed field roles)
    (encodable : field.isEncodable = true) :
    ∀ role ∈ roles, role.Listable ∧ role.address.isEncodable = true := by
  obtain ⟨entries, entered, rfl⟩ := listed
  rw [Text.isEncodable_join rfl] at encodable
  -- On the pairing of entries with roles; the whole field is encodable if each entry is.
  induction entered with
  | nil => exact List.forall_mem_nil _
  | cons first _ ih =>
    obtain ⟨here, later⟩ := List.forall_mem_cons.mp encodable
    exact List.forall_mem_cons.mpr ⟨first.listable here, ih later⟩

end Role

namespace Contents

/-- The texts that are written for a part have a UTF-8 form. -/
def EncodableAt (contents : Contents) : Part → Prop
  | .scope => ∀ item ∈ contents.scope, item.isEncodable = true
  | .roles => ∀ role ∈ contents.roles, role.address.isEncodable = true
  | .target => (contents.target.getD []).isEncodable = true
  | .originalIssuer => (contents.originalIssuer.getD []).isEncodable = true

variable {contents : Contents}

theorem field_isEncodable_iff {part : Part} {field : Text}
    (written : contents.field part = .ok field) :
    field.isEncodable = true ↔ contents.EncodableAt part := by
  cases part with
  | scope =>
    obtain rfl := Except.ok.inj written
    exact Text.isEncodable_join rfl
  | roles =>
    obtain ⟨_, rfl⟩ := Role.encode_eq_ok_iff.mp written
    rw [Text.isEncodable_join rfl, List.forall_mem_map]
    simp only [Role.isEncodable_entry_iff, EncodableAt]
  | target | originalIssuer =>
    obtain rfl := Except.ok.inj written
    exact Iff.rfl

theorem fields_isEncodable_iff {layout : List Part} {fields : List Text}
    (written : contents.fields layout = .ok fields) :
    (∀ field ∈ fields, field.isEncodable = true) ↔ ∀ part ∈ layout, contents.EncodableAt part := by
  induction layout generalizing fields with
  | nil =>
    obtain rfl := Except.ok.inj written
    simp
  | cons part layout ih =>
    obtain ⟨field, rest, first, later, rfl⟩ := fields_cons_eq_ok_iff.mp written
    rw [List.forall_mem_cons, List.forall_mem_cons, field_isEncodable_iff first, ih later]

theorem encodableAt_of_addressed {field : Text} {address : Option Text}
    (addressed : Addressed field address) (encodable : field.isEncodable = true) :
    (address.getD []).isEncodable = true := by
  rcases addressed with ⟨_, rfl⟩ | ⟨_, rfl⟩
  · rfl
  · exact encodable

theorem encodableAt_of_fits {part : Part} {field : Text} (fits : contents.Fits part field)
    (encodable : field.isEncodable = true) : contents.EncodableAt part := by
  cases part with
  | scope =>
    rw [fits.written, Text.isEncodable_join rfl] at encodable
    exact encodable
  | roles => exact fun role inside => (Role.Listed.listable fits encodable role inside).2
  | target | originalIssuer => exact encodableAt_of_addressed fits encodable

end Contents

/-! ## Payloads -/

/-- The texts that are written of a token have a UTF-8 form. -/
structure Token.Encodable (token : Token) : Prop where
  subject : (token.common.subject.getD []).isEncodable = true
  schema : (token.common.schema.getD []).isEncodable = true
  issuer : token.common.issuer.isEncodable = true
  parts : ∀ part ∈ token.variant.layout, token.contents.EncodableAt part

theorem Token.payload_isEncodable_iff {token : Token} {plain : Text}
    (written : token.payload = .ok plain) : plain.isEncodable = true ↔ token.Encodable := by
  obtain ⟨extension, fields, sealing⟩ := payload_eq_ok_iff.mp written
  obtain ⟨front, common, joined⟩ := Wire.payload_eq_ok_iff.mp sealing
  obtain ⟨_, lifespan, disguised, counted, rfl⟩ := Wire.commonFields_eq_ok_iff.mp common
  obtain ⟨issuedAt, number, rfl⟩ := Payload.disguise_eq_ok_iff.mp disguised
  obtain ⟨_, rfl⟩ := Payload.join_eq_ok_iff.mp joined
  -- The numbers are not negative, so digits are all they are written in.
  have first : Text.isEncodable issuedAt.reverse = true := by
    rw [Text.isEncodable, List.all_reverse]
    exact Decimal.isEncodable_of_digits
      (Decimal.isDigit_of_write? token.admitted.issuedAt_nonneg number)
  have second : lifespan.isEncodable = true :=
    Decimal.isEncodable_of_digits
      (Decimal.isDigit_of_write? (Int.le_of_lt token.admitted.lifespan_pos) counted)
  rw [Text.isEncodable_join rfl, List.forall_mem_append, Contents.fields_isEncodable_iff fields]
  simp only [List.forall_mem_cons, first, second, true_and, List.not_mem_nil, false_implies,
    implies_true, and_true]
  constructor
  · rintro ⟨⟨subject, schema, issuer⟩, parts⟩
    exact ⟨subject, schema, issuer, parts⟩
  · rintro ⟨subject, schema, issuer, parts⟩
    exact ⟨⟨subject, schema, issuer⟩, parts⟩

namespace Wire.Fields

variable {fields : Fields} {kind : Kind} {token : Token} {payload : Text}

theorem Spell.isEncodable (spelled : fields.Spell payload)
    (encodable : payload.isEncodable = true) :
    ∀ field ∈ fields.toList, field.isEncodable = true := by
  rw [spelled.2, Text.isEncodable_join rfl] at encodable
  exact encodable

/-- A payload free of surrogates stands for a token free of them. -/
theorem Denote.encodable (denoted : fields.Denote kind token) (spelled : fields.Spell payload)
    (encodable : payload.isEncodable = true) : token.Encodable where
  subject := by
    rw [denoted.subject, getD_absentIfEmpty]
    exact spelled.isEncodable encodable fields.subject (by simp [toList])
  schema := by
    rw [denoted.schema, getD_absentIfEmpty]
    exact spelled.isEncodable encodable fields.schema (by simp [toList])
  issuer := by
    rw [denoted.issuer]
    exact spelled.isEncodable encodable fields.issuer (by simp [toList])
  parts := by
    intro part placed
    rw [denoted.variant] at placed
    obtain ⟨field, inside, fits⟩ := Contents.exists_field_of_fits denoted.extension part placed
    exact Contents.encodableAt_of_fits fits
      (spelled.isEncodable encodable field (by simp [toList, inside]))

end Wire.Fields

end SealedToken
