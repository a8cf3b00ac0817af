import Mathlib.Control.Monad.Basic
import SealedToken.Proofs.Reading

/-!
The round trip of token strings. A token's payload is read back as the token by its own variant, so
a sealed token opens as itself for its issuer, alone and through the standard registry.
-/

set_option autoImplicit false

namespace SealedToken

namespace Token

/-- What is sealed of a token. -/
def payload (token : Token) : Except SealFault Text :=
  match token.contents.fields token.variant.layout with
  | .error fault => .error (.ofRole fault)
  | .ok extension => Wire.payload token.common extension

theorem payload_eq_ok_iff {token : Token} {text : Text} :
    token.payload = .ok text ↔
      ∃ extension, token.contents.fields token.variant.layout = .ok extension ∧
        Wire.payload token.common extension = .ok text := by
  unfold payload
  cases token.contents.fields token.variant.layout with
  | error fault => simp
  | ok extension => simp

/-- A token string is the mark and the sealed payload. -/
theorem encode_eq_ok_iff {token : Token} {resolver : Resolver} {source : ByteSource}
    {text : Text} :
    (token.encode resolver source).result = .ok text ↔
      ∃ plain key, token.payload = .ok plain ∧
        Sealing.Sealable resolver token.common.issuer plain key ∧
          text = token.variant.mark ++
            Sealing.sealed key token.common.issuer plain source.nonce := by
  unfold encode payload
  cases token.contents.fields token.variant.layout with
  | error fault => simp [Draw.fail, Draw.ofAttempt]
  | ok extension =>
    dsimp only
    exact Wire.encode_eq_ok_iff

theorem readPayload_payload {token : Token} {extension : List Text} {text : Text}
    (written : Wire.payload token.common extension = .ok text) :
    Wire.readPayload text extension.length = .ok (token.common, extension) := by
  have read := Wire.readPayload_payload token.admitted.issuedAt_nonneg
    token.admitted.lifespan_pos written
  rwa [token.common_normal] at read

end Token

namespace Variant

/-- The payload of a token, for a variant with as many extension fields as the token has. -/
theorem ofPayload_of_length {variant : Variant} {token : Token} {extension : List Text}
    {text : Text} (written : Wire.payload token.common extension = .ok text)
    (counted : variant.extensionCount = extension.length) :
    variant.ofPayload text = variant.tokenOf token.common extension := by
  rw [ofPayload, counted, token.readPayload_payload written]

theorem extensionCount_builtin (kind : Kind) :
    (Variant.builtin kind).extensionCount = kind.layout.length := rfl

/-- A token's payload stands for the token. -/
theorem ofPayload_payload {token : Token} {kind : Kind} {text : Text}
    (builtin : token.variant = .builtin kind) (written : token.payload = .ok text) :
    (Variant.builtin kind).ofPayload text = .ok token := by
  obtain ⟨extension, fields, joined⟩ := Token.payload_eq_ok_iff.mp written
  rw [builtin] at fields
  have counted : (Variant.builtin kind).extensionCount = extension.length :=
    (Contents.length_fields fields).symm
  have admitted := token.admitted
  rw [builtin] at admitted
  -- Each part is read from its own field, and no part lies outside the layout.
  have contents : Contents.empty.ofFields (Variant.builtin kind).layout extension =
      .ok token.contents := by
    rw [Contents.ofFields_fields .empty admitted.scope_items token.contents_normal fields]
    exact congrArg Except.ok (Contents.foldl_take_layout admitted)
  have made : Token.make (.builtin kind) token.common token.contents = .ok token := by
    rw [← builtin]
    exact token.make_self
  rw [ofPayload_of_length joined counted, tokenOf, contents]
  simp only [made]

end Variant

/-- A sealed token of a built-in kind opens for its issuer as the token that was sealed, whatever
nonce was drawn, both for its own kind and for the standard registry. -/
theorem Token.parse_encode {token : Token} {kind : Kind} {resolver : Resolver}
    {source : ByteSource} {text : Text} (builtin : token.variant = .builtin kind)
    (encoded : (token.encode resolver source).result = .ok text) :
    ((Variant.builtin kind).parse resolver (some text) (some token.common.issuer)).result =
        .ok token ∧
      (Registry.standard.parse resolver (some text) (some token.common.issuer)).result =
        .ok token := by
  obtain ⟨plain, key, written, sealable, rfl⟩ := Token.encode_eq_ok_iff.mp encoded
  rw [builtin]
  have opened := Variant.opened?_sealed token.admitted.issuer_nonempty sealable
    (.builtin kind) source.nonce
  have parsed := (Variant.parse_of_opened? opened).trans
    (Variant.ofPayload_payload builtin written)
  refine ⟨parsed, ?_⟩
  rw [Registry.parse_mark_append (Registry.builtin_mem_standard kind)]
  exact parsed

theorem Secret.resolver_of_ne_nil (secret : Secret) {issuer : Text} (named : issuer ≠ []) :
    secret.resolver issuer = secret.derive issuer := by
  rw [resolver, List.isEmpty_eq_false_iff.mpr named, if_neg (by decide)]

theorem Secret.resolver_of_isEncodable (secret : Secret) {issuer : Text} (named : issuer ≠ [])
    (encodable : issuer.isEncodable = true) :
    secret.resolver issuer = .ok (secret.keyFor issuer) := by
  rw [secret.resolver_of_ne_nil named, secret.derive_of_isEncodable encodable]

theorem Secret.sealable (secret : Secret) {issuer payload : Text} (named : issuer ≠ [])
    (issuer_encodable : issuer.isEncodable = true)
    (payload_encodable : payload.isEncodable = true) :
    Sealing.Sealable secret.resolver issuer payload (secret.keyFor issuer) :=
  ⟨secret.resolver_of_isEncodable named issuer_encodable, issuer_encodable, payload_encodable⟩

theorem Token.encode_of_sealable {token : Token} {plain : Text} {resolver : Resolver} {key : Key}
    (written : token.payload = .ok plain)
    (sealable : Sealing.Sealable resolver token.common.issuer plain key) (source : ByteSource) :
    (token.encode resolver source).result = .ok (token.variant.mark ++
      Sealing.sealed key token.common.issuer plain source.nonce) :=
  Token.encode_eq_ok_iff.mpr ⟨plain, key, written, sealable, rfl⟩

theorem Token.encode_of_payload {token : Token} {plain : Text} (written : token.payload = .ok plain)
    (secret : Secret) (issuer_encodable : token.common.issuer.isEncodable = true)
    (plain_encodable : plain.isEncodable = true) (source : ByteSource) :
    (token.encode secret.resolver source).result = .ok (token.variant.mark ++
      Sealing.sealed (secret.keyFor token.common.issuer) token.common.issuer plain source.nonce) :=
  encode_of_sealable written
    (secret.sealable token.admitted.issuer_nonempty issuer_encodable plain_encodable) source

namespace Sample

def secret : Secret := ⟨List.replicate 16 0, by decide⟩

def source : ByteSource := .ofBytes []

def issuer : Text := "https://cell.example/"

/-- A refresh token of a visitor with separators in its subject, scope, names and addresses. -/
def visitor : Token where
  variant := .builtin .visitorRefresh
  common := ⟨120, 60, some "https://home.example/;% #me", none, issuer⟩
  contents :=
    { scope := ["root", "a;b%20"]
      roles := [⟨"a b;c%\t", "https://cell.example/__role/box/doctor"⟩,
        ⟨[], "http://[::1]:80/;x"⟩]
      target := none
      originalIssuer := some "https://home.example/" }
  faultless := by decide +kernel
  common_normal := by decide
  contents_normal := by decide

def visitorPayload : Text :=
  Text.join Payload.delimiter <|
    ["021", "60", "https://home.example/;% #me", "", "https://cell.example/",
      "a%20b%3Bc%25%09;https://cell.example/__role/box/doctor ;http://[::1]:80/;x",
      "https://home.example/", "root a;b%20"].map Text.ofString

theorem payload_visitor : visitor.payload = .ok visitorPayload := by
  decide +kernel

/-- What a visitor's token seals can be sealed for any issuer with a name that can be encoded. -/
theorem sealable_visitor {issuer : Text} (named : issuer ≠ [])
    (encodable : issuer.isEncodable = true) :
    Sealing.Sealable secret.resolver issuer visitorPayload (secret.keyFor issuer) :=
  secret.sealable named encodable (by decide)

/-- A token that lets a subject change the password, and carries no parts. -/
def change : Token where
  variant := .builtin .passwordChange
  common := ⟨120, 60, some "me", none, issuer⟩
  contents := .empty
  faultless := by decide
  common_normal := by decide
  contents_normal := by decide

def changePayload : Text :=
  Text.join Payload.delimiter (["021", "60", "me", "", "https://cell.example/"].map Text.ofString)

theorem payload_change : change.payload = .ok changePayload := by
  decide +kernel

end Sample

theorem Token.parse_encode_visitor :
    ∃ text, (Sample.visitor.encode Sample.secret.resolver Sample.source).result = .ok text ∧
      ((Variant.builtin .visitorRefresh).parse Sample.secret.resolver (some text)
          (some Sample.visitor.common.issuer)).result = .ok Sample.visitor ∧
        (Registry.standard.parse Sample.secret.resolver (some text)
          (some Sample.visitor.common.issuer)).result = .ok Sample.visitor := by
  have encoded := Token.encode_of_payload Sample.payload_visitor Sample.secret (by decide)
    (by decide) Sample.source
  exact ⟨_, encoded, Token.parse_encode rfl encoded⟩

end SealedToken
