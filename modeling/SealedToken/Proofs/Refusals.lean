import SealedToken.Proofs.KeyLookups
import SealedToken.Proofs.RoleLists

/-!
Sealing that is refused. A token makes no payload if a role cannot be listed, a number is too long
to be written, or its subject, schema or issuer holds the delimiter; of these the first is blamed,
in this order. No key is asked for before there is a payload. With a key in hand all that can be
missing is the UTF-8 form of the payload. The scope, the target and the original issuer of a token
stand in the way only by surrogates.
-/

set_option autoImplicit false

namespace SealedToken

open Payload (delimiter)

/-! ## What is looked at, in order -/

namespace Common

/-- Both numbers are within the digit limit. -/
def Numbered (common : Common) : Prop :=
  common.issuedAt.natAbs < Decimal.tenTo Decimal.digitLimit ∧
    common.lifespan.natAbs < Decimal.tenTo Decimal.digitLimit

/-- The place of the first field that holds the delimiter. The numbers in front never do. -/
inductive FirstDelimiterAt (common : Common) : Nat → Prop where
  | subject (held : delimiter ∈ common.subject.getD []) : FirstDelimiterAt common 2
  | schema (free : delimiter ∉ common.subject.getD [])
      (held : delimiter ∈ common.schema.getD []) : FirstDelimiterAt common 3
  | issuer (free : delimiter ∉ common.subject.getD []) (also : delimiter ∉ common.schema.getD [])
      (held : delimiter ∈ common.issuer) : FirstDelimiterAt common 4

end Common

/-- Why common fields and roles make no payload. Each reason counts only where none before it
does. -/
inductive Unwritable (common : Common) (roles : List Role) : SealFault → Prop where
  | role {fault : RoleFault} (first : FirstAtFault Role.Listable Role.Unlisted roles fault) :
      Unwritable common roles (.ofRole fault)
  | number (listable : ∀ role ∈ roles, role.Listable) (long : ¬ common.Numbered) :
      Unwritable common roles (.limit .writing)
  | text (listable : ∀ role ∈ roles, role.Listable) (numbered : common.Numbered) {index : Nat}
      (first : common.FirstDelimiterAt index) : Unwritable common roles (.delimiter index)

/-- Why a token is not sealed: it makes no payload, or else there is no key for its issuer, or else
its payload has no UTF-8 form. -/
inductive Token.Refused (token : Token) (resolver : Resolver) : SealFault → Prop where
  | unwritten {fault : SealFault}
      (unwritable : Unwritable token.common token.contents.roles fault) :
      Refused token resolver fault
  | keyless (writable : token.Writable) {reason : KeyFault}
      (unanswered : resolver token.common.issuer = .error reason) :
      Refused token resolver (.key reason)
  | unencodable (writable : token.Writable) {key : Key}
      (answered : resolver token.common.issuer = .ok key) {plain : Text}
      (written : token.payload = .ok plain) {fault : EncodingFault}
      (found : plain.encodingFault? = some fault) : Refused token resolver (.unencodable fault)

/-! ## Fields that are not written -/

namespace Contents

variable {contents : Contents} {fault : RoleFault}

theorem field_eq_error_iff {part : Part} :
    contents.field part = .error fault ↔
      part = .roles ∧ Role.encode contents.roles = .error fault := by
  cases part <;> simp [field]

/-- The fields of a layout fail with the role list, if that is among them. -/
theorem fields_eq_error_iff {layout : List Part} :
    contents.fields layout = .error fault ↔
      .roles ∈ layout ∧ Role.encode contents.roles = .error fault := by
  induction layout with
  | nil => simp [fields]
  | cons part layout ih =>
    rw [fields, List.mem_cons, eq_comm (a := Part.roles), or_and_right, ← field_eq_error_iff, ← ih]
    cases written : contents.field part with
    | error found =>
      have also := (field_eq_error_iff.mp written).2
      -- Whichever field of the list comes first, it fails in the same way.
      have later : contents.fields layout = .error fault → found = fault := by
        intro failed
        rw [(ih.mp failed).2] at also
        exact (Except.error.inj also).symm
      simpa using later
    | ok field =>
      cases contents.fields layout with
      | error found => simp
      | ok rest => simp

end Contents

namespace Wire

variable {common : Common}

theorem commonFields_of_not_numbered (long : ¬ common.Numbered) :
    commonFields common = .error .writing := by
  unfold commonFields Payload.disguise
  by_cases small : common.issuedAt.natAbs < Decimal.tenTo Decimal.digitLimit
  · have large : ¬ common.lifespan.natAbs < Decimal.tenTo Decimal.digitLimit :=
      fun also => long ⟨small, also⟩
    simp only [Decimal.write?_eq_ok_iff.mpr ⟨small, rfl⟩, Decimal.write?_of_large large]
  · simp only [Decimal.write?_of_large small]

theorem payload_of_not_numbered (long : ¬ common.Numbered) (extension : List Text) :
    payload common extension = .error (.limit .writing) := by
  unfold payload
  rw [commonFields_of_not_numbered long]

/-- The numbers are written without the delimiter. -/
theorem exists_commonFields (issuedAt_nonneg : 0 ≤ common.issuedAt)
    (lifespan_nonneg : 0 ≤ common.lifespan) (numbered : common.Numbered) :
    ∃ issuedAt lifespan, delimiter ∉ issuedAt ∧ delimiter ∉ lifespan ∧
      commonFields common = .ok [issuedAt, lifespan, common.subject.getD [],
        common.schema.getD [], common.issuer] := by
  obtain ⟨plain, written, digits⟩ := Decimal.exists_write? issuedAt_nonneg numbered.1
  obtain ⟨lifespan, counted, lifespanDigits⟩ := Decimal.exists_write? lifespan_nonneg numbered.2
  have disguised := Payload.disguise_eq_ok_iff.mpr ⟨plain, written, rfl⟩
  refine ⟨plain.reverse, lifespan, ?_, Payload.delimiter_not_mem_of_digits lifespanDigits,
    commonFields_eq_ok_iff.mpr ⟨_, _, disguised, counted, rfl⟩⟩
  rw [List.mem_reverse]
  exact Payload.delimiter_not_mem_of_digits digits

theorem payload_of_delimiter (issuedAt_nonneg : 0 ≤ common.issuedAt)
    (lifespan_nonneg : 0 ≤ common.lifespan) (numbered : common.Numbered) {index : Nat}
    (first : common.FirstDelimiterAt index) (extension : List Text) :
    payload common extension = .error (.delimiter index) := by
  obtain ⟨issuedAt, lifespan, free, also, fields⟩ :=
    exists_commonFields issuedAt_nonneg lifespan_nonneg numbered
  have joined : Payload.join ([issuedAt, lifespan, common.subject.getD [],
      common.schema.getD [], common.issuer] ++ extension) = .error index := by
    cases first with
    | subject held =>
      exact Payload.join_of_first [issuedAt, lifespan] (by simp [free, also]) held _
    | schema clear held =>
      exact Payload.join_of_first [issuedAt, lifespan, _] (by simp [free, also, clear]) held _
    | issuer clear clean held =>
      exact Payload.join_of_first [issuedAt, lifespan, _, _]
        (by simp [free, also, clear, clean]) held _
  unfold payload
  rw [fields]
  simp only [joined]

end Wire

/-- Sealing asks for the key first of all. -/
theorem Sealing.asked_sealFor (resolver : Resolver) (issuer payload : Text) (source : ByteSource) :
    (sealFor resolver issuer payload source).asked = [issuer] := by
  cases answered : resolver issuer with
  | error fault =>
    rw [sealFor_of_error answered]
    rfl
  | ok key =>
    cases found : textFault? issuer payload with
    | some fault =>
      rw [sealFor_of_unencodable answered found]
      rfl
    | none =>
      obtain ⟨named, plain⟩ := textFault?_eq_none_iff.mp found
      rw [sealFor_of_sealable ⟨answered, named, plain⟩]
      rfl

/-! ## Tokens that are not written -/

namespace Token

variable {token : Token} {fault : SealFault}

theorem roles_mem_layout (held : token.contents.roles ≠ []) :
    .roles ∈ token.variant.layout := by
  have carried := token.admitted.carried .roles (by simpa [Contents.holds] using held)
  cases variant : token.variant with
  | builtin kind => simpa [variant, Variant.carries, Variant.layout] using carried
  | base | scopedBase | custom => simp [variant, Variant.carries] at carried

theorem payload_of_unwritable (unwritable : Unwritable token.common token.contents.roles fault) :
    token.payload = .error fault := by
  have admitted := token.admitted
  have lifespan_nonneg := Int.le_of_lt admitted.lifespan_pos
  cases unwritable with
  | role first =>
    have held : token.contents.roles ≠ [] := by
      obtain ⟨before, role, after, same, _⟩ := first
      simp [same]
    have failed := Contents.fields_eq_error_iff.mpr
      ⟨roles_mem_layout held, Role.encode_eq_error_iff.mpr first⟩
    rw [payload, failed]
  | number listable long =>
    obtain ⟨extension, parts, _⟩ :=
      Contents.exists_fields admitted listable token.variant.layout
    rw [payload, parts]
    exact Wire.payload_of_not_numbered long extension
  | text listable numbered first =>
    obtain ⟨extension, parts, _⟩ :=
      Contents.exists_fields admitted listable token.variant.layout
    rw [payload, parts]
    exact Wire.payload_of_delimiter admitted.issuedAt_nonneg lifespan_nonneg numbered first
      extension

theorem writable_or_unwritable (token : Token) :
    token.Writable ∨ ∃ fault, Unwritable token.common token.contents.roles fault := by
  -- The conditions in the order of their faults, so that each finds the earlier ones met.
  cases encoded : Role.encode token.contents.roles with
  | error fault => exact .inr ⟨_, .role (Role.encode_eq_error_iff.mp encoded)⟩
  | ok =>
    have listable := (Role.encode_eq_ok_iff.mp encoded).1
    by_cases numbered : token.common.Numbered
    · by_cases subject : delimiter ∈ token.common.subject.getD []
      · exact .inr ⟨_, .text listable numbered (.subject subject)⟩
      by_cases schema : delimiter ∈ token.common.schema.getD []
      · exact .inr ⟨_, .text listable numbered (.schema subject schema)⟩
      by_cases issuer : delimiter ∈ token.common.issuer
      · exact .inr ⟨_, .text listable numbered (.issuer subject schema issuer)⟩
      · exact .inl ⟨numbered.1, numbered.2, subject, schema, issuer, listable⟩
    · exact .inr ⟨_, .number listable numbered⟩

theorem writable_iff_not_unwritable :
    token.Writable ↔ ∀ fault, ¬ Unwritable token.common token.contents.roles fault := by
  constructor
  · intro writable fault unwritable
    obtain ⟨plain, written⟩ := writable.exists_payload
    rw [payload_of_unwritable unwritable] at written
    contradiction
  · intro none
    exact token.writable_or_unwritable.resolve_right (not_exists.mpr none)

/-! ## Sealing tokens -/

variable {resolver : Resolver} {plain : Text}

/-- A token without a payload draws nothing and asks for no key. -/
theorem encode_of_unwritten (failed : token.payload = .error fault) (resolver : Resolver) :
    token.encode resolver = .fail fault := by
  unfold payload at failed
  unfold encode
  cases fields : token.contents.fields token.variant.layout with
  | error found =>
    rw [fields] at failed
    obtain rfl := Except.error.inj failed
    rfl
  | ok extension =>
    rw [fields] at failed
    exact Wire.encode_of_unwritten failed token.variant.mark resolver

theorem encode_of_written (written : token.payload = .ok plain) (resolver : Resolver)
    (source : ByteSource) :
    token.encode resolver source =
      ⟨⟨(Sealing.sealFor resolver token.common.issuer plain source).result.map
          (token.variant.mark ++ ·),
        (Sealing.sealFor resolver token.common.issuer plain source).events⟩,
        (Sealing.sealFor resolver token.common.issuer plain source).left⟩ := by
  obtain ⟨extension, fields, joined⟩ := payload_eq_ok_iff.mp written
  unfold encode
  rw [fields]
  exact Wire.encode_of_written joined token.variant.mark resolver source

/-- The issuer is part of the payload, so a fault of its encoding is one of the payload's. -/
theorem textFault?_payload (written : token.payload = .ok plain) :
    Sealing.textFault? token.common.issuer plain = plain.encodingFault? := by
  cases found : plain.encodingFault? with
  | some fault => rw [Sealing.textFault?, found, Option.some_or]
  | none =>
    have encodable := Text.encodingFault?_eq_none_iff.mp found
    have issuer := ((payload_isEncodable_iff written).mp encodable).issuer
    exact Sealing.textFault?_eq_none_iff.mpr ⟨issuer, encodable⟩

/-- Every way to refuse a token is the outcome of sealing it. -/
theorem Refused.result_encode (refused : token.Refused resolver fault) (source : ByteSource) :
    (token.encode resolver source).result = .error fault := by
  cases refused with
  | unwritten unwritable =>
    rw [encode_of_unwritten (payload_of_unwritable unwritable)]
    rfl
  | keyless writable unanswered =>
    obtain ⟨plain, written⟩ := writable.exists_payload
    rw [encode_of_written written, Sealing.sealFor_of_error unanswered]
    rfl
  | unencodable writable answered written found =>
    rw [encode_of_written written,
      Sealing.sealFor_of_unencodable answered ((textFault?_payload written).trans found)]
    rfl

/-- What is not refused is sealed. -/
theorem sealed_or_refused (token : Token) (resolver : Resolver) :
    (token.Writable ∧ token.Encodable ∧ ∃ key, resolver token.common.issuer = .ok key) ∨
      ∃ fault, token.Refused resolver fault := by
  rcases token.writable_or_unwritable with writable | ⟨fault, unwritable⟩
  · obtain ⟨plain, written⟩ := writable.exists_payload
    cases answered : resolver token.common.issuer with
    | error reason => exact .inr ⟨_, .keyless writable answered⟩
    | ok key =>
      cases found : plain.encodingFault? with
      | some fault => exact .inr ⟨_, .unencodable writable answered written found⟩
      | none =>
        have encodable := Text.encodingFault?_eq_none_iff.mp found
        exact .inl ⟨writable, (payload_isEncodable_iff written).mp encodable, key, rfl⟩
  · exact .inr ⟨fault, .unwritten unwritable⟩

theorem exists_encoded_iff (source : ByteSource) :
    (∃ text, (token.encode resolver source).result = .ok text) ↔
      token.Writable ∧ token.Encodable ∧ ∃ key, resolver token.common.issuer = .ok key := by
  constructor
  · rintro ⟨text, encoded⟩
    rcases token.sealed_or_refused resolver with sound | ⟨fault, refused⟩
    · exact sound
    · rw [refused.result_encode] at encoded
      contradiction
  · rintro ⟨writable, encodable, key, answered⟩
    exact writable.exists_sealed encodable answered source

theorem encode_eq_error_iff {source : ByteSource} :
    (token.encode resolver source).result = .error fault ↔ token.Refused resolver fault := by
  refine ⟨fun failed => ?_, fun refused => refused.result_encode source⟩
  rcases token.sealed_or_refused resolver with sound | ⟨found, refused⟩
  · obtain ⟨text, encoded⟩ := (exists_encoded_iff source).mpr sound
    rw [encoded] at failed
    contradiction
  · rw [refused.result_encode] at failed
    exact Except.error.inj failed ▸ refused

theorem Writable.asked_encode (writable : token.Writable) (resolver : Resolver)
    (source : ByteSource) : (token.encode resolver source).asked = [token.common.issuer] := by
  obtain ⟨plain, written⟩ := writable.exists_payload
  rw [encode_of_written written]
  exact Sealing.asked_sealFor resolver token.common.issuer plain source

/-- Tokens alike in common fields and roles are refused alike, but for faults of encoding. -/
theorem Refused.of_alike {other : Token} (common : other.common = token.common)
    (roles : other.contents.roles = token.contents.roles)
    (encoded : ∀ found, fault ≠ .unencodable found) (refused : token.Refused resolver fault) :
    other.Refused resolver fault := by
  cases refused with
  | unwritten unwritable =>
    rw [← common, ← roles] at unwritable
    exact .unwritten unwritable
  | keyless writable unanswered =>
    rw [writable_iff_not_unwritable, ← common, ← roles, ← writable_iff_not_unwritable] at writable
    rw [← common] at unanswered
    exact .keyless writable unanswered
  | unencodable => exact absurd rfl (encoded _)

/-- A token is sealed exactly if it can be written, has a UTF-8 form, and its issuer has a key.
Otherwise the fault is the first reason not to write it, or else the missing key, or else the first
surrogate of the payload. The key is asked for once, of the issuer, when the token can be written,
and never before. But for surrogates, tokens alike in common fields and roles are refused alike,
whatever their kind, scope, target and original issuer. -/
theorem encode_or_refused (token : Token) (resolver : Resolver) (source : ByteSource) :
    ((∃ text, (token.encode resolver source).result = .ok text) ↔
        token.Writable ∧ token.Encodable ∧ ∃ key, resolver token.common.issuer = .ok key) ∧
      (∀ fault, (token.encode resolver source).result = .error fault ↔
        token.Refused resolver fault) ∧
      (token.Writable ∧ (token.encode resolver source).asked = [token.common.issuer] ∨
        ¬ token.Writable ∧ (token.encode resolver source).asked = []) ∧
      ∀ other : Token, other.common = token.common → other.contents.roles = token.contents.roles →
        ∀ fault, (∀ found, fault ≠ .unencodable found) →
          ((other.encode resolver source).result = .error fault ↔
            (token.encode resolver source).result = .error fault) := by
  refine ⟨exists_encoded_iff source, fun fault => encode_eq_error_iff, ?_, ?_⟩
  · by_cases writable : token.Writable
    · exact .inl ⟨writable, writable.asked_encode resolver source⟩
    · obtain ⟨fault, unwritable⟩ := token.writable_or_unwritable.resolve_left writable
      rw [encode_of_unwritten (payload_of_unwritable unwritable)]
      exact .inr ⟨writable, rfl⟩
  · intro other common roles fault encoded
    rw [encode_eq_error_iff, encode_eq_error_iff]
    exact ⟨.of_alike common.symm roles.symm encoded, .of_alike common roles encoded⟩

end Token

namespace Sample

/-- A visitor's token with every reason not to write it: the second of its roles has no web address,
its issue time is too long, and its subject holds the delimiter. -/
def flawed : Token where
  variant := .builtin .visitorAccess
  common := ⟨Decimal.tenTo Decimal.digitLimit, 60, some [.char '\t'], none, issuer⟩
  contents := { Contents.empty with roles := unlisted }
  faultless := by decide +kernel
  common_normal := by decide +kernel
  contents_normal := by decide

/-- A surrogate, which has no UTF-8 form. -/
def half : Text := [.surrogate 0]

/-- A visitor's token with a tab in its subject and a surrogate for the name of its role. -/
def halved : Token where
  variant := .builtin .visitorAccess
  common := ⟨120, 60, some [.char '\t'], none, issuer⟩
  contents := { Contents.empty with roles := [⟨half, "https://h"⟩] }
  faultless := by decide
  common_normal := by decide
  contents_normal := by decide

/-- A resolver that knows no issuer. -/
def unknowing : Resolver := fun issuer => .error (.unknownIssuer issuer)

end Sample

/-- The address is blamed before the rest, without a look for the key; a token that can be written
is blamed for the missing key, which was asked for. -/
theorem Token.encode_or_refused_flawed :
    (Sample.flawed.encode Sample.unknowing Sample.source).result =
        .error (.reference (.malformed [.char 'h'])) ∧
      (Sample.flawed.encode Sample.unknowing Sample.source).asked = [] ∧
      (Sample.change.encode Sample.unknowing Sample.source).result =
        .error (.key (.unknownIssuer Sample.issuer)) ∧
      (Sample.change.encode Sample.unknowing Sample.source).asked = [Sample.issuer] := by
  obtain ⟨_, blamed, asked, _⟩ :=
    Token.encode_or_refused Sample.flawed Sample.unknowing Sample.source
  obtain ⟨_, keyless, looked, _⟩ :=
    Token.encode_or_refused Sample.change Sample.unknowing Sample.source
  have unlisted : FirstAtFault Role.Listable Role.Unlisted Sample.flawed.contents.roles
      (.reference (.malformed [.char 'h'])) :=
    ⟨[⟨[], "http://h"⟩], ⟨[], [.char 'h']⟩, [⟨[], []⟩], rfl,
      List.forall_mem_singleton.mpr ⟨by decide, by decide⟩, .address (by decide)⟩
  have unwritten : ¬ Sample.flawed.Writable := fun writable =>
    Token.writable_iff_not_unwritable.mp writable _ (.role unlisted)
  -- What a resolver with keys seals can be written for any other.
  have encoded := Token.encode_of_payload Sample.payload_change Sample.secret (by decide)
    (by decide) Sample.source
  have writable := ((Token.encode_or_refused _ _ _).1.mp ⟨_, encoded⟩).1
  exact ⟨(blamed _).mpr (.unwritten (.role unlisted)),
    (asked.resolve_left fun found => unwritten found.1).2,
    (keyless _).mpr (.keyless writable rfl), (looked.resolve_right fun found => found.1 writable).2⟩

/-- With valid addresses and short numbers, a tab in the subject is not always what is blamed: the
name of a role may have no UTF-8 form. -/
theorem Token.not_forall_delimiter_blamed :
    ¬ ∀ (token : Token) (kind : Kind) (resolver : Resolver) (source : ByteSource),
        token.variant = .builtin kind →
          (∀ role ∈ token.contents.roles, isWebAddress role.address = true) →
            token.common.Numbered → delimiter ∈ token.common.subject.getD [] →
              (token.encode resolver source).result = .error (.delimiter 2) := by
  intro blamed
  have numbered : Sample.halved.common.Numbered := by
    constructor <;> decide +kernel
  have unlisted : FirstAtFault Role.Listable Role.Unlisted Sample.halved.contents.roles
      (.unencodable ⟨0, 0, 0⟩) :=
    ⟨[], _, [], rfl, List.forall_mem_nil _, .name (by decide) (by decide)⟩
  have refused : Sample.halved.Refused Sample.secret.resolver (.unencodable ⟨0, 0, 0⟩) :=
    .unwritten (.role unlisted)
  have encoded := blamed Sample.halved .visitorAccess Sample.secret.resolver Sample.source rfl
    (by decide) numbered (by decide)
  rw [refused.result_encode] at encoded
  contradiction

end SealedToken
