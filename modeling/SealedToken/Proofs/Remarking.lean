import SealedToken.Proofs.RoundTrip

/-!
Token strings under another mark. The seal covers the payload and the issuer but not the mark, so a
body is read as the kind that its mark names. It passes as another kind exactly where the fields of
both kinds are alike in number and in form.
-/

set_option autoImplicit false

namespace SealedToken

/-- A token string of one kind under the mark of another. -/
def Kind.remark (kind other : Kind) (text : Text) : Text := other.mark ++ text.drop kind.mark.length

/-- The two kinds that have an address and roles in one another's place. -/
def Kind.Exchanged (kind other : Kind) : Prop :=
  (kind = .visitorRefresh ∧ other = .grantCode) ∨ (kind = .grantCode ∧ other = .visitorRefresh)

/-- Whether a text reads as one role: what follows its first separator is an address. -/
def Role.isEntry (text : Text) : Bool := (Text.cut nameSeparator text).2.any isWebAddress

namespace Contents

/-- The address beside the roles; a token of a built-in kind carries one at most. -/
def address? (contents : Contents) : Option Text := contents.target.or contents.originalIssuer

/-- Whether contents written for one kind can be read as those of another. Where both kinds have an
address and roles in each other's place, there are no roles, and the address reads as a role. -/
def passes (contents : Contents) (kind other : Kind) : Bool :=
  match kind, other with
  | .visitorRefresh, .grantCode | .grantCode, .visitorRefresh =>
    contents.roles.isEmpty && contents.address?.all Role.isEntry
  | _, _ => other.layout.length = kind.layout.length

theorem passes_of_exchanged {contents : Contents} {kind other : Kind}
    (exchanged : kind.Exchanged other) :
    contents.passes kind other = true ↔
      contents.roles = [] ∧ contents.address?.all Role.isEntry = true := by
  rcases exchanged with ⟨rfl, rfl⟩ | ⟨rfl, rfl⟩
  · simp [passes]
  · simp [passes]

example : passes ⟨[], [], some "https://cell.example/;https://a/", none⟩
    .grantCode .visitorRefresh = true := by decide +kernel

end Contents

/-- What a token becomes under another mark: the common fields and the scope stay, and an address is
taken for a role. -/
structure Token.Remarked (token : Token) (other : Kind) (converted : Token) : Prop where
  variant : converted.variant = .builtin other
  common : converted.common = token.common
  scope : converted.contents.scope = token.contents.scope
  roles : Role.ofEntries token.contents.address?.toList = .ok converted.contents.roles
  target : converted.contents.target = none
  originalIssuer : converted.contents.originalIssuer = none

theorem Token.Remarked.contents_eq {token converted : Token} {other : Kind}
    (remarked : token.Remarked other converted) :
    converted.contents = ⟨token.contents.scope, converted.contents.roles, none, none⟩ := by
  have scope := remarked.scope
  have target := remarked.target
  have original := remarked.originalIssuer
  cases contents : converted.contents with
  | mk scope roles target original => simp_all

/-! ## Kinds with as many fields -/

namespace Kind

/-- Layouts of one length are the same, but for two that have an address and roles exchanged. -/
theorem layout_of_length {kind other : Kind}
    (counted : other.layout.length = kind.layout.length) :
    other.layout = kind.layout ∨ kind.Exchanged other := by
  unfold Exchanged
  revert counted
  cases kind <;> cases other <;> decide

theorem eq_scope_of_layout {kind other : Kind} (different : other ≠ kind)
    (alike : other.layout = kind.layout) : ∀ part ∈ kind.layout, part = .scope := by
  revert different alike
  cases kind <;> cases other <;> decide

theorem passes_of_layout {kind other : Kind} (contents : Contents) (different : other ≠ kind)
    (alike : other.layout = kind.layout) : contents.passes kind other = true := by
  revert different alike
  cases kind <;> cases other <;> simp [Contents.passes, layout]

theorem not_passes_of_length {kind other : Kind} (contents : Contents)
    (miscounted : other.layout.length ≠ kind.layout.length) :
    contents.passes kind other = false := by
  revert miscounted
  cases kind <;> cases other <;> simp [Contents.passes, layout]

end Kind

/-- A token holds nothing but a scope if another kind has the layout of its own. -/
theorem Contents.eq_of_layout {kind other : Kind} {common : Common} {contents : Contents}
    (different : other ≠ kind) (alike : other.layout = kind.layout)
    (admitted : Admitted (.builtin kind) common contents) :
    contents = ⟨contents.scope, [], none, none⟩ := by
  have single := Kind.eq_scope_of_layout different alike
  have free : ∀ part, part ≠ .scope → contents.holds part = false := by
    intro part beside
    apply Bool.eq_false_iff.mpr
    intro held
    have carried := admitted.carried part held
    rw [Variant.carries, List.contains_iff_mem] at carried
    exact beside (single part carried)
  have roles := free .roles (by decide)
  have target := free .target (by decide)
  have original := free .originalIssuer (by decide)
  cases contents with
  | mk scope roles target original => simp_all [holds]

namespace Variant

variable {token : Token} {kind other : Kind} {text : Text}

theorem ofPayload_of_length_ne (builtin : token.variant = .builtin kind)
    (written : token.payload = .ok text)
    (miscounted : other.layout.length ≠ kind.layout.length) :
    ∃ rejection, (Variant.builtin other).ofPayload text = .error (.rejected rejection) := by
  obtain ⟨extension, fields, joined⟩ := Token.payload_eq_ok_iff.mp written
  rw [builtin] at fields
  have size : extension.length = kind.layout.length := Contents.length_fields fields
  obtain ⟨issuedAt, lifespan, _, _, split⟩ := Wire.split_payload joined
  -- No field holds the delimiter, so the payload has as many fields as its own kind writes.
  have counted : (Text.split Payload.delimiter text).length ≠
      Wire.commonCount + other.layout.length := by
    rw [split]
    simp only [List.length_cons, size, Wire.commonCount]
    omega
  have refused := Wire.readPayload_of_length_ne counted (Wire.countable other)
  rw [ofPayload, extensionCount_builtin, refused]
  exact ⟨_, rfl⟩

theorem ofPayload_of_counted (builtin : token.variant = .builtin kind)
    (written : token.payload = .ok text) (counted : other.layout.length = kind.layout.length) :
    ∃ extension, token.contents.fields kind.layout = .ok extension ∧
      (Variant.builtin other).ofPayload text =
        (Variant.builtin other).tokenOf token.common extension := by
  obtain ⟨extension, fields, joined⟩ := Token.payload_eq_ok_iff.mp written
  rw [builtin] at fields
  refine ⟨extension, fields, ofPayload_of_length joined ?_⟩
  rw [extensionCount_builtin, counted]
  exact (Contents.length_fields fields).symm

/-- A kind with the same layout reads the payload as a token of its own with the same contents. -/
theorem ofPayload_of_layout (builtin : token.variant = .builtin kind) (different : other ≠ kind)
    (written : token.payload = .ok text) (alike : other.layout = kind.layout) :
    ∃ converted, (Variant.builtin other).ofPayload text = .ok converted ∧
      token.Remarked other converted := by
  obtain ⟨extension, fields, judged⟩ :=
    ofPayload_of_counted builtin written (congrArg List.length alike)
  have admitted := token.admitted
  rw [builtin] at admitted
  -- What a kind carries is known from its layout alone.
  have carried : ∀ part, token.contents.holds part = true →
      (Variant.builtin other).carries part = true := by
    intro part held
    rw [carries, alike]
    exact admitted.carried part held
  obtain ⟨converted, made, variant, common, contents⟩ := Token.make_of_admitted
    { admitted with carried := carried } token.common_normal token.contents_normal
  have read : Contents.empty.ofFields (Variant.builtin other).layout extension =
      .ok token.contents := by
    rw [show (Variant.builtin other).layout = kind.layout from alike,
      Contents.ofFields_fields .empty admitted.scope_items token.contents_normal fields]
    exact congrArg Except.ok (Contents.foldl_take_layout admitted)
  refine ⟨converted, ?_, variant, common, ?_, ?_, ?_, ?_⟩
  · rw [judged, tokenOf_eq_ok_iff]
    exact ⟨token.contents, read, made⟩
  all_goals rw [contents, Contents.eq_of_layout different alike admitted]
  rfl

end Variant

/-! ## An address in the place of roles -/

namespace Role

theorem isEntry_iff {text : Text} : isEntry text = true ↔ ∃ role, ofEntry text = .ok role := by
  unfold isEntry ofEntry
  rcases Text.cut nameSeparator text with ⟨name, _ | address⟩
  · simp
  · by_cases valid : isWebAddress address = true
    · simp [valid]
    · simp [valid]

/-- An address holds no blank, so its field is one entry. -/
theorem decode_address {address : Option Text}
    (valid : ∀ text, address = some text → isWebAddress text = true) :
    decode (address.getD []) = ofEntries address.toList := by
  cases address with
  | none => rfl
  | some text =>
    have valid := valid text rfl
    have free : entrySeparator ∉ text := not_mem_of_isWebAddress (by decide) valid
    rw [Option.getD_some, decode_of_ne_nil (ne_nil_of_isWebAddress valid),
      Text.split_of_free entrySeparator free, Option.toList_some]

theorem ofEntries_toList_iff {address : Option Text} :
    (∃ roles, ofEntries address.toList = .ok roles) ↔ address.all isEntry = true := by
  cases address with
  | none => simp [ofEntries]
  | some text =>
    simp only [Option.toList_some, ofEntries, Option.all_some, isEntry_iff]
    cases ofEntry text with
    | error fault => simp
    | ok role => simp

theorem encode_nil : encode [] = .ok [] := rfl

/-- The field of roles is no address, and it is empty only without roles. -/
theorem address_of_encode {roles : List Role} {field : Text} (encoded : encode roles = .ok field) :
    (∀ text, absentIfEmpty (some field) = some text → isWebAddress text = true) ↔ roles = [] := by
  obtain ⟨_, rfl⟩ := encode_eq_ok_iff.mp encoded
  cases roles with
  | nil => simp [Text.join, absentIfEmpty]
  | cons role rest =>
    have filled := absentIfEmpty_eq_some_iff.mpr ⟨rfl, join_entries_ne_nil role rest⟩
    have foreign := not_isWebAddress_join role rest
    simp only [reduceCtorEq, iff_false]
    intro valid
    rw [valid _ filled] at foreign
    contradiction

end Role

namespace Contents

theorem fields_visitorRefresh {contents : Contents} {extension : List Text} :
    contents.fields Kind.visitorRefresh.layout = .ok extension ↔
      ∃ field, Role.encode contents.roles = .ok field ∧
        extension = [field, contents.originalIssuer.getD [], Scope.encode contents.scope] := by
  simp only [Kind.layout, fields, field]
  cases Role.encode contents.roles with
  | error fault => simp
  | ok field => simp [eq_comm]

theorem fields_grantCode {contents : Contents} {extension : List Text} :
    contents.fields Kind.grantCode.layout = .ok extension ↔
      ∃ field, Role.encode contents.roles = .ok field ∧
        extension = [contents.target.getD [], field, Scope.encode contents.scope] := by
  simp only [Kind.layout, fields, field]
  cases Role.encode contents.roles with
  | error fault => simp
  | ok field => simp [eq_comm]

theorem ofFields_visitorRefresh {a b c : Text} {contents : Contents} :
    empty.ofFields Kind.visitorRefresh.layout [a, b, c] = .ok contents ↔
      ∃ roles, Role.decode a = .ok roles ∧
        contents = ⟨Scope.decode c, roles, none, absentIfEmpty (some b)⟩ := by
  simp only [Kind.layout, ofFields, withField]
  cases Role.decode a with
  | error fault => simp
  | ok roles => simp [empty, eq_comm]

theorem ofFields_grantCode {a b c : Text} {contents : Contents} :
    empty.ofFields Kind.grantCode.layout [a, b, c] = .ok contents ↔
      ∃ roles, Role.decode b = .ok roles ∧
        contents = ⟨Scope.decode c, roles, absentIfEmpty (some a), none⟩ := by
  simp only [Kind.layout, ofFields, withField]
  cases Role.decode b with
  | error fault => simp
  | ok roles => simp [empty, eq_comm]

/-- Contents with an address where a kind has it. -/
def addressed (kind : Kind) (scope : List Text) (roles : List Role) (address : Option Text) :
    Contents :=
  match kind with
  | .grantCode => ⟨scope, roles, address, none⟩
  | _ => ⟨scope, roles, none, address⟩

theorem normal_addressed (kind : Kind) (scope : List Text) (roles : List Role)
    (address : Option Text) :
    (addressed kind scope roles address).normal =
      addressed kind scope roles (absentIfEmpty address) := by
  cases kind <;> rfl

theorem address?_addressed (kind : Kind) (scope : List Text) (roles : List Role)
    (address : Option Text) : (addressed kind scope roles address).address? = address := by
  cases kind <;> simp [addressed, address?]

theorem addressed_none (kind : Kind) (scope : List Text) (roles : List Role) :
    addressed kind scope roles none = ⟨scope, roles, none, none⟩ := by
  cases kind <;> rfl

theorem address?_valid {variant : Variant} {common : Common} {contents : Contents}
    (admitted : Admitted variant common contents) (address : Text)
    (present : contents.address? = some address) : isWebAddress address = true := by
  rcases Option.or_eq_some_iff.mp present with target | ⟨_, original⟩
  · exact admitted.target_valid address target
  · exact admitted.originalIssuer_valid address original

/-- The two kinds take the roles from the address of one another, and the address from the roles. -/
theorem ofFields_exchanged {token : Token} {kind other : Kind} {extension : List Text}
    (exchanged : kind.Exchanged other) (builtin : token.variant = .builtin kind)
    (written : token.contents.fields kind.layout = .ok extension) :
    ∃ field, Role.encode token.contents.roles = .ok field ∧ ∀ contents,
      empty.ofFields other.layout extension = .ok contents ↔
        ∃ roles, Role.ofEntries token.contents.address?.toList = .ok roles ∧
          contents = addressed other token.contents.scope roles (absentIfEmpty (some field)) := by
  have admitted := token.admitted
  rw [builtin] at admitted
  have scope := Scope.decode_encode admitted.scope_items
  rcases exchanged with ⟨rfl, rfl⟩ | ⟨rfl, rfl⟩
  -- The roles stand first and are read as the target; the original issuer is read as roles.
  · obtain ⟨field, encoded, rfl⟩ := fields_visitorRefresh.mp written
    refine ⟨field, encoded, fun contents => ?_⟩
    have absent : token.contents.target = none := by
      have := admitted.carried .target
      simpa [holds, Variant.carries, Kind.layout] using this
    rw [ofFields_grantCode, Role.decode_address admitted.originalIssuer_valid, scope, address?,
      absent, Option.none_or]
    rfl
  -- The target stands first and is read as roles; the roles are read as the original issuer.
  · obtain ⟨field, encoded, rfl⟩ := fields_grantCode.mp written
    refine ⟨field, encoded, fun contents => ?_⟩
    have absent : token.contents.originalIssuer = none := by
      have := admitted.carried .originalIssuer
      simpa [holds, Variant.carries, Kind.layout] using this
    rw [ofFields_visitorRefresh, Role.decode_address admitted.target_valid, scope, address?,
      absent, Option.or_none]
    rfl

end Contents

theorem Token.exists_remarked {token : Token} {kind other : Kind}
    (exchanged : kind.Exchanged other)
    (entry : token.contents.address?.all Role.isEntry = true) :
    ∃ converted, token.Remarked other converted := by
  obtain ⟨roles, adopted⟩ := Role.ofEntries_toList_iff.mpr entry
  have carried : ∀ part, (Contents.mk token.contents.scope roles none none).holds part = true →
      (Variant.builtin other).carries part = true := by
    intro part held
    -- Both kinds carry a scope and roles, and nothing else is held.
    rcases exchanged with ⟨_, rfl⟩ | ⟨_, rfl⟩ <;> cases part <;>
      simp_all [Contents.holds, Variant.carries, Kind.layout]
  have admitted : Admitted (.builtin other) token.common
      (Contents.mk token.contents.scope roles none none) :=
    { token.admitted with
      carried := carried
      target_valid := by simp
      originalIssuer_valid := by simp }
  obtain ⟨converted, _, variant, common, contents⟩ :=
    make_of_admitted admitted token.common_normal rfl
  refine ⟨converted, variant, common, ?_, ?_, ?_, ?_⟩
  all_goals rw [contents]
  exact adopted

namespace Variant

variable {token : Token} {kind other : Kind} {text : Text}

theorem tokenOf_exchanged_iff {extension : List Text} {converted : Token}
    (exchanged : kind.Exchanged other) (builtin : token.variant = .builtin kind)
    (written : token.contents.fields kind.layout = .ok extension) :
    (Variant.builtin other).tokenOf token.common extension = .ok converted ↔
      token.contents.roles = [] ∧ token.Remarked other converted := by
  obtain ⟨field, encoded, read⟩ := Contents.ofFields_exchanged exchanged builtin written
  rw [tokenOf_eq_ok_iff]
  constructor
  · rintro ⟨contents, found, made⟩
    obtain ⟨roles, adopted, rfl⟩ := (read contents).mp found
    obtain ⟨variant, common, held⟩ := Token.make_eq_ok_iff.mp made
    rw [token.common_normal] at common
    rw [Contents.normal_addressed, absentIfEmpty_idem] at held
    -- The field of roles has become an address, which it can only be when it is empty.
    have valid : ∀ address, absentIfEmpty (some field) = some address →
        isWebAddress address = true := by
      intro address present
      apply Contents.address?_valid converted.admitted
      rw [held, Contents.address?_addressed, present]
    have roleless := (Role.address_of_encode encoded).mp valid
    rw [roleless, Role.encode_nil] at encoded
    obtain rfl := Except.ok.inj encoded
    rw [show absentIfEmpty (some []) = none from rfl, Contents.addressed_none] at held
    exact ⟨roleless, variant, common, by rw [held], by rw [held]; exact adopted, by rw [held],
      by rw [held]⟩
  · rintro ⟨roleless, remarked⟩
    rw [roleless, Role.encode_nil] at encoded
    obtain rfl := Except.ok.inj encoded
    refine ⟨_, (read _).mpr ⟨_, remarked.roles, rfl⟩, ?_⟩
    rw [Token.make_eq_ok_iff, Contents.normal_addressed, token.common_normal]
    refine ⟨remarked.variant, remarked.common, ?_⟩
    rw [show absentIfEmpty (absentIfEmpty (some [])) = none from rfl, Contents.addressed_none]
    exact remarked.contents_eq

theorem ofPayload_of_passes (builtin : token.variant = .builtin kind) (different : other ≠ kind)
    (written : token.payload = .ok text) (passing : token.contents.passes kind other = true) :
    ∃ converted, (Variant.builtin other).ofPayload text = .ok converted ∧
      token.Remarked other converted := by
  by_cases counted : other.layout.length = kind.layout.length
  · rcases Kind.layout_of_length counted with alike | exchanged
    · exact ofPayload_of_layout builtin different written alike
    · obtain ⟨roleless, entry⟩ := (Contents.passes_of_exchanged exchanged).mp passing
      obtain ⟨converted, remarked⟩ := Token.exists_remarked exchanged entry
      obtain ⟨extension, fields, judged⟩ := ofPayload_of_counted builtin written counted
      have read := (tokenOf_exchanged_iff exchanged builtin fields).mpr ⟨roleless, remarked⟩
      exact ⟨converted, judged.trans read, remarked⟩
  · rw [Kind.not_passes_of_length token.contents counted] at passing
    contradiction

theorem ofPayload_of_not_passes (builtin : token.variant = .builtin kind) (different : other ≠ kind)
    (written : token.payload = .ok text) (failing : token.contents.passes kind other = false) :
    ∃ rejection, (Variant.builtin other).ofPayload text = .error (.rejected rejection) := by
  by_cases counted : other.layout.length = kind.layout.length
  · rcases Kind.layout_of_length counted with alike | exchanged
    · rw [Kind.passes_of_layout token.contents different alike] at failing
      contradiction
    · obtain ⟨extension, fields, judged⟩ := ofPayload_of_counted builtin written counted
      rw [judged]
      apply tokenOf_of_not_ok
      intro converted read
      obtain ⟨roleless, remarked⟩ := (tokenOf_exchanged_iff exchanged builtin fields).mp read
      have entry := Role.ofEntries_toList_iff.mp ⟨_, remarked.roles⟩
      rw [(Contents.passes_of_exchanged exchanged).mpr ⟨roleless, entry⟩] at failing
      cases failing
  · exact ofPayload_of_length_ne builtin written counted

end Variant

/-- The mark of a token string is not sealed: under another mark the same payload opens. -/
theorem Token.parse_remark_result {token : Token} {kind : Kind} {resolver : Resolver}
    {source : ByteSource} {text : Text} (builtin : token.variant = .builtin kind)
    (encoded : (token.encode resolver source).result = .ok text) (other : Kind) :
    ∃ plain, token.payload = .ok plain ∧
      ((Variant.builtin other).parse resolver (some (kind.remark other text))
        (some token.common.issuer)).result = (Variant.builtin other).ofPayload plain := by
  obtain ⟨plain, key, written, sealable, rfl⟩ := Token.encode_eq_ok_iff.mp encoded
  refine ⟨plain, written, ?_⟩
  -- The body is the same behind either mark, and the mark is no part of what is opened.
  have body : kind.remark other (token.variant.mark ++
      Sealing.sealed key token.common.issuer plain source.nonce) =
        (Variant.builtin other).mark ++
          Sealing.sealed key token.common.issuer plain source.nonce := by
    rw [builtin]
    exact congrArg (other.mark ++ ·) List.drop_left
  rw [body]
  exact Variant.parse_sealed token.admitted.issuer_nonempty sealable _ source.nonce

/-- The body of a sealed token under the mark of another kind is read by that kind, which accepts it
as a token of its own exactly where the contents pass, and rejects it otherwise. -/
theorem Token.parse_remark {token : Token} {kind other : Kind} {resolver : Resolver}
    {source : ByteSource} {text : Text} (builtin : token.variant = .builtin kind)
    (different : other ≠ kind)
    (encoded : (token.encode resolver source).result = .ok text) :
    Registry.standard.parse resolver (some (kind.remark other text)) (some token.common.issuer) =
        (Variant.builtin other).parse resolver (some (kind.remark other text))
          (some token.common.issuer) ∧
      (token.contents.passes kind other = true →
        ∃ converted, ((Variant.builtin other).parse resolver (some (kind.remark other text))
            (some token.common.issuer)).result = .ok converted ∧
          token.Remarked other converted) ∧
      (token.contents.passes kind other = false →
        ∃ rejection, ((Variant.builtin other).parse resolver (some (kind.remark other text))
            (some token.common.issuer)).result = .error (.rejected rejection)) := by
  obtain ⟨plain, written, parsed⟩ := parse_remark_result builtin encoded other
  refine ⟨?_, ?_, ?_⟩
  · exact Registry.parse_mark_append (Registry.builtin_mem_standard other) resolver _ _
  · intro passing
    rw [parsed]
    exact Variant.ofPayload_of_passes builtin different written passing
  · intro failing
    rw [parsed]
    exact Variant.ofPayload_of_not_passes builtin different written failing

theorem Token.parse_remark_visitor :
    ∃ text, (Sample.visitor.encode Sample.secret.resolver Sample.source).result = .ok text ∧
      ∃ rejection, ((Variant.builtin .grantCode).parse Sample.secret.resolver
        (some (Kind.visitorRefresh.remark .grantCode text))
        (some Sample.visitor.common.issuer)).result = .error (.rejected rejection) := by
  have encoded := Token.encode_of_payload Sample.payload_visitor Sample.secret (by decide)
    (by decide) Sample.source
  have different : Kind.grantCode ≠ .visitorRefresh := by decide
  obtain ⟨_, _, refused⟩ := Token.parse_remark rfl different encoded
  exact ⟨_, encoded, refused (by decide)⟩

theorem Token.not_forall_remark_rejected :
    ¬ ∀ (token : Token) (kind other : Kind) (resolver : Resolver) (source : ByteSource)
        (text : Text),
      token.variant = .builtin kind → other ≠ kind →
        (token.encode resolver source).result = .ok text →
          ∃ rejection, ((Variant.builtin other).parse resolver (some (kind.remark other text))
            (some token.common.issuer)).result = .error (.rejected rejection) := by
  intro rejected
  have encoded := Token.encode_of_payload Sample.payload_change Sample.secret (by decide)
    (by decide) Sample.source
  -- Neither kind has an extension field, so nothing tells their payloads apart.
  have different : Kind.unitUser ≠ .passwordChange := by decide
  obtain ⟨rejection, refused⟩ :=
    rejected Sample.change .passwordChange .unitUser _ _ _ rfl different encoded
  obtain ⟨plain, written, parsed⟩ := Token.parse_remark_result rfl encoded .unitUser
  obtain ⟨converted, accepted, _⟩ :=
    Variant.ofPayload_of_layout rfl different written rfl
  rw [parsed, accepted] at refused
  cases refused

end SealedToken
