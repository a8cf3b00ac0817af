import Mathlib.Data.List.Pairwise
import SealedToken.Proofs.Wire
import SealedToken.Registry

/-!
Reading credentials. A credential opens to a payload behind the mark of a variant, under the key of
the issuer; the payload alone decides which token it is. What does not open is rejected, unless the
issuer has no UTF-8 form.
-/

set_option autoImplicit false

namespace SealedToken

theorem absentIfEmpty_eq_some_iff {text : Option Text} {name : Text} :
    absentIfEmpty text = some name ↔ text = some name ∧ name ≠ [] := by
  match text with
  | none => simp [absentIfEmpty]
  | some [] => simp only [absentIfEmpty]; constructor <;> simp_all
  | some (c :: rest) =>
    simp only [absentIfEmpty, Option.some.injEq]
    constructor
    · rintro rfl
      exact ⟨rfl, List.cons_ne_nil c rest⟩
    · exact fun named => named.1

namespace Variant

/-- The token that an opened payload stands for. -/
def ofPayload (variant : Variant) (payload : Text) : Except ParseFault Token :=
  match Wire.readPayload payload variant.extensionCount with
  | .error fault => .error fault
  | .ok (common, extension) => variant.tokenOf common extension

theorem tokenOf_eq_ok_iff {variant : Variant} {common : Common} {extension : List Text}
    {token : Token} :
    variant.tokenOf common extension = .ok token ↔
      ∃ contents, Contents.empty.ofFields variant.layout extension = .ok contents ∧
        Token.make variant common contents = .ok token := by
  unfold tokenOf
  cases Contents.empty.ofFields variant.layout extension with
  | error fault => simp
  | ok contents =>
    cases made : Token.make variant common contents with
    | ok token => simp [made]
    | error fault => cases fault <;> simp [made]

theorem ofPayload_eq_ok_iff {variant : Variant} {payload : Text} {token : Token} :
    variant.ofPayload payload = .ok token ↔
      ∃ common extension contents,
        Wire.readPayload payload variant.extensionCount = .ok (common, extension) ∧
          Contents.empty.ofFields variant.layout extension = .ok contents ∧
            Token.make variant common contents = .ok token := by
  unfold ofPayload
  cases Wire.readPayload payload variant.extensionCount with
  | error fault => simp
  | ok fields =>
    obtain ⟨common, extension⟩ := fields
    simp [tokenOf_eq_ok_iff, and_assoc]

/-- Fields that stand for no token are rejected. -/
theorem tokenOf_of_not_ok {variant : Variant} {common : Common} {extension : List Text}
    (failed : ∀ token, variant.tokenOf common extension ≠ .ok token) :
    ∃ rejection, variant.tokenOf common extension = .error (.rejected rejection) := by
  unfold tokenOf at failed ⊢
  cases read : Contents.empty.ofFields variant.layout extension with
  | error fault => exact ⟨_, rfl⟩
  | ok contents =>
    cases made : Token.make variant common contents with
    | ok token =>
      simp only [read, made] at failed
      exact absurd rfl (failed token)
    | error fault => cases fault <;> simp [made]

/-- The payload of a credential: what stands behind the mark, opened for the issuer. -/
def opened? (variant : Variant) (resolver : Resolver) (credential issuer : Option Text) :
    Option Text :=
  match credential.bind (Text.strip? variant.mark), absentIfEmpty issuer with
  | some body, some issuer => (Sealing.unsealFor resolver issuer body).result.toOption
  | _, _ => none

theorem opened?_eq_some_iff {variant : Variant} {resolver : Resolver}
    {credential issuer : Option Text} {payload : Text} :
    variant.opened? resolver credential issuer = some payload ↔
      ∃ name key nonce, issuer = some name ∧ name ≠ [] ∧
        Sealing.Sealable resolver name payload key ∧
          credential = some (variant.mark ++ Sealing.sealed key name payload nonce) := by
  constructor
  · intro opened
    unfold opened? at opened
    split at opened
    · next body name stripped named =>
      obtain ⟨text, rfl, cut⟩ := Option.bind_eq_some_iff.mp stripped
      obtain rfl := Text.strip?_eq_some_iff.mp cut
      obtain ⟨rfl, nonempty⟩ := absentIfEmpty_eq_some_iff.mp named
      cases unsealed : (Sealing.unsealFor resolver name body).result with
      | error rejection => simp [unsealed, Except.toOption] at opened
      | ok found =>
        simp only [unsealed, Except.toOption, Option.some.injEq] at opened
        subst opened
        obtain ⟨key, nonce, sealable, rfl⟩ := Sealing.unsealFor_eq_ok_iff.mp unsealed
        exact ⟨name, key, nonce, rfl, nonempty, sealable, rfl⟩
    · contradiction
  · rintro ⟨name, key, nonce, rfl, nonempty, sealable, rfl⟩
    have stripped : (some (variant.mark ++ Sealing.sealed key name payload nonce)).bind
        (Text.strip? variant.mark) = some (Sealing.sealed key name payload nonce) :=
      Text.strip?_append _ _
    have named := absentIfEmpty_eq_some_iff.mpr ⟨rfl, nonempty⟩
    have unsealed := Sealing.unsealFor_sealed sealable nonce
    simp only [opened?, stripped, named, unsealed, Except.toOption]

/-- A payload sealed under the key of an issuer opens for that issuer. -/
theorem opened?_sealed {resolver : Resolver} {issuer payload : Text} {key : Key}
    (named : issuer ≠ []) (sealable : Sealing.Sealable resolver issuer payload key)
    (variant : Variant) (nonce : Nonce) :
    variant.opened? resolver (some (variant.mark ++ Sealing.sealed key issuer payload nonce))
      (some issuer) = some payload :=
  opened?_eq_some_iff.mpr ⟨issuer, key, nonce, rfl, named, sealable, rfl⟩

theorem decode_of_unsealed {resolver : Resolver} {body issuer payload : Text}
    (unsealed : (Sealing.unsealFor resolver issuer body).result = .ok payload)
    (extensions : Int) :
    (Wire.decode body issuer extensions resolver).result = Wire.readPayload payload extensions := by
  rw [Wire.decode, Attempt.result_bind_of_ok _ unsealed, Attempt.result_ofExcept]

theorem decode_of_refused {resolver : Resolver} {body issuer : Text} {fault : ParseFault}
    (refused : (Sealing.unsealFor resolver issuer body).result = .error fault) (extensions : Int) :
    (Wire.decode body issuer extensions resolver).result = .error fault := by
  rw [Wire.decode, Attempt.result_bind_of_error _ refused]

/-- The payload alone decides what an opened credential is. -/
theorem parse_of_opened? {variant : Variant} {resolver : Resolver} {credential issuer : Option Text}
    {payload : Text} (opened : variant.opened? resolver credential issuer = some payload) :
    (variant.parse resolver credential issuer).result = variant.ofPayload payload := by
  obtain ⟨name, key, nonce, rfl, nonempty, sealable, rfl⟩ := opened?_eq_some_iff.mp opened
  have stripped : (some (variant.mark ++ Sealing.sealed key name payload nonce)).bind
      (Text.strip? variant.mark) = some (Sealing.sealed key name payload nonce) :=
    Text.strip?_append _ _
  have named := absentIfEmpty_eq_some_iff.mpr ⟨rfl, nonempty⟩
  have unsealed := Sealing.unsealFor_sealed sealable nonce
  have decoded := decode_of_unsealed unsealed variant.extensionCount
  simp only [parse, stripped, named]
  unfold ofPayload
  cases read : Wire.readPayload payload variant.extensionCount with
  | error fault => rw [Attempt.result_bind_of_error _ (decoded.trans read)]
  | ok fields => rw [Attempt.result_bind_of_ok _ (decoded.trans read), Attempt.result_ofExcept]

/-- What a payload sealed for an issuer is, the payload alone decides. -/
theorem parse_sealed {resolver : Resolver} {issuer payload : Text} {key : Key}
    (named : issuer ≠ []) (sealable : Sealing.Sealable resolver issuer payload key)
    (variant : Variant) (nonce : Nonce) :
    (variant.parse resolver (some (variant.mark ++ Sealing.sealed key issuer payload nonce))
      (some issuer)).result = variant.ofPayload payload :=
  parse_of_opened? (opened?_sealed named sealable variant nonce)

/-- The fault of encoding that reading a credential ends in. -/
def escape? (variant : Variant) (resolver : Resolver) (credential issuer : Option Text) :
    Option EncodingFault :=
  match credential.bind (Text.strip? variant.mark), absentIfEmpty issuer with
  | some body, some issuer => Sealing.escape? resolver issuer body
  | _, _ => none

theorem escape?_eq_none_of_opened? {variant : Variant} {resolver : Resolver}
    {credential issuer : Option Text} {payload : Text}
    (opened : variant.opened? resolver credential issuer = some payload) :
    variant.escape? resolver credential issuer = none := by
  unfold opened? at opened
  unfold escape?
  split at opened
  · next body name stripped named =>
    cases unsealed : (Sealing.unsealFor resolver name body).result with
    | error fault => simp [unsealed, Except.toOption] at opened
    | ok found => exact Sealing.escape?_eq_none_of_ok unsealed
  · contradiction

/-- What does not open is rejected, unless a fault of encoding escapes. -/
theorem parse_of_unopened {variant : Variant} {resolver : Resolver}
    {credential issuer : Option Text}
    (unopened : variant.opened? resolver credential issuer = none) :
    ∃ rejection, (variant.parse resolver credential issuer).result =
      .error ((variant.escape? resolver credential issuer).elim (.rejected rejection)
        .unencodable) := by
  unfold parse escape?
  cases stripped : credential.bind (Text.strip? variant.mark) with
  | none => exact ⟨.wrongMark variant.title, rfl⟩
  | some body =>
    cases named : absentIfEmpty issuer with
    | none => exact ⟨.issuerRequired, rfl⟩
    | some name =>
      have failed : ∀ payload, (Sealing.unsealFor resolver name body).result ≠ .ok payload := by
        intro payload unsealed
        simp [opened?, stripped, named, unsealed, Except.toOption] at unopened
      exact ⟨.undecryptable, Attempt.result_bind_of_error _
        (decode_of_refused (Sealing.unsealFor_of_not_ok failed) _)⟩

theorem parse_of_escape? {variant : Variant} {resolver : Resolver} {credential issuer : Option Text}
    {fault : EncodingFault} (found : variant.escape? resolver credential issuer = some fault) :
    (variant.parse resolver credential issuer).result = .error (.unencodable fault) := by
  cases opened : variant.opened? resolver credential issuer with
  | none =>
    obtain ⟨_, failed⟩ := parse_of_unopened opened
    rw [failed, found]
    rfl
  | some payload => simp [escape?_eq_none_of_opened? opened] at found

theorem parse_of_contained {variant : Variant} {resolver : Resolver}
    {credential issuer : Option Text}
    (unopened : variant.opened? resolver credential issuer = none)
    (contained : variant.escape? resolver credential issuer = none) :
    ∃ rejection, (variant.parse resolver credential issuer).result =
      .error (.rejected rejection) := by
  simpa [contained] using parse_of_unopened unopened

theorem parse_eq_ok_iff {variant : Variant} {resolver : Resolver} {credential issuer : Option Text}
    {token : Token} :
    (variant.parse resolver credential issuer).result = .ok token ↔
      ∃ payload, variant.opened? resolver credential issuer = some payload ∧
        variant.ofPayload payload = .ok token := by
  cases opened : variant.opened? resolver credential issuer with
  | none =>
    cases found : variant.escape? resolver credential issuer with
    | some fault => simp [parse_of_escape? found]
    | none =>
      obtain ⟨rejection, refused⟩ := parse_of_contained opened found
      simp [refused]
  | some payload => simp [parse_of_opened? opened]

end Variant

/-! ## Registries -/

theorem marksCollide_of_append {first second rest other : Text}
    (same : first ++ rest = second ++ other) : marksCollide first second = true := by
  rw [marksCollide, Bool.or_eq_true]
  rcases List.append_eq_append_iff.mp same with ⟨more, rfl, _⟩ | ⟨more, rfl, _⟩
  · exact .inl (by rw [Text.strip?_append]; rfl)
  · exact .inr (by rw [Text.strip?_append]; rfl)

namespace Registry

theorem claims_iff {variant : Variant} {credential : Text} :
    claims variant credential = true ↔ ∃ body, credential = variant.mark ++ body := by
  simp only [claims, Option.isSome_iff_exists, Text.strip?_eq_some_iff]

/-- Marks are apart, so no text carries the marks of two variants. -/
theorem claimant_unique {registry : Registry} {first second : Variant}
    (one : first ∈ registry.variants) (two : second ∈ registry.variants) {credential : Text}
    (claimed : claims first credential = true) (also : claims second credential = true) :
    first = second := by
  by_contra different
  -- One text behind two marks makes one of the marks begin with the other.
  obtain ⟨body, rfl⟩ := claims_iff.mp claimed
  obtain ⟨other, same⟩ := claims_iff.mp also
  have symmetric : Std.Symm fun first second : Variant =>
      marksCollide first.mark second.mark = false :=
    ⟨fun first second apart => by rwa [marksCollide_comm]⟩
  have apart := registry.apart.forall one two different
  rw [marksCollide_of_append same] at apart
  contradiction

theorem detect?_eq_some_iff {registry : Registry} {credential : Option Text} {variant : Variant} :
    registry.detect? credential = some variant ↔
      variant ∈ registry.variants ∧ ∃ body, credential = some (variant.mark ++ body) := by
  constructor
  · intro detected
    obtain ⟨text, rfl, found⟩ := Option.bind_eq_some_iff.mp detected
    have claimed : claims variant text = true :=
      List.find?_some (p := fun other => claims other text) found
    obtain ⟨body, rfl⟩ := claims_iff.mp claimed
    exact ⟨List.mem_of_find?_eq_some found, body, rfl⟩
  · rintro ⟨registered, body, rfl⟩
    have claimed : claims variant (variant.mark ++ body) = true := claims_iff.mpr ⟨body, rfl⟩
    cases found : registry.variants.find? (claims · (variant.mark ++ body)) with
    | none => exact absurd claimed (List.find?_eq_none.mp found variant registered)
    | some other =>
      have also : claims other (variant.mark ++ body) = true :=
        List.find?_some (p := fun other => claims other (variant.mark ++ body)) found
      have same := claimant_unique (List.mem_of_find?_eq_some found) registered also claimed
      exact found.trans (congrArg some same)

theorem parse_of_detected {registry : Registry} {credential : Option Text} {variant : Variant}
    (detected : registry.detect? credential = some variant) (resolver : Resolver)
    (issuer : Option Text) :
    registry.parse resolver credential issuer = variant.parse resolver credential issuer := by
  simp only [parse, detect, detected]

theorem parse_of_undetected {registry : Registry} {credential : Option Text}
    (undetected : registry.detect? credential = none) (resolver : Resolver)
    (issuer : Option Text) :
    registry.parse resolver credential issuer = .fail (.rejected .unrecognized) := by
  simp only [parse, detect, undetected]

theorem detect?_mark_append {registry : Registry} {variant : Variant}
    (registered : variant ∈ registry.variants) (body : Text) :
    registry.detect? (some (variant.mark ++ body)) = some variant :=
  detect?_eq_some_iff.mpr ⟨registered, body, rfl⟩

/-- A credential with the mark of a registered variant is read by that variant. -/
theorem parse_mark_append {registry : Registry} {variant : Variant}
    (registered : variant ∈ registry.variants) (resolver : Resolver) (body : Text)
    (issuer : Option Text) :
    registry.parse resolver (some (variant.mark ++ body)) issuer =
      variant.parse resolver (some (variant.mark ++ body)) issuer :=
  parse_of_detected (detect?_mark_append registered body) resolver issuer

theorem parse_sealed {registry : Registry} {variant : Variant} {resolver : Resolver}
    {issuer payload : Text} {key : Key} (registered : variant ∈ registry.variants)
    (named : issuer ≠ []) (sealable : Sealing.Sealable resolver issuer payload key)
    (nonce : Nonce) :
    (registry.parse resolver (some (variant.mark ++ Sealing.sealed key issuer payload nonce))
      (some issuer)).result = variant.ofPayload payload := by
  rw [parse_mark_append registered]
  exact Variant.parse_sealed named sealable variant nonce

theorem builtin_mem_standard (kind : Kind) : Variant.builtin kind ∈ standard.variants :=
  List.mem_map_of_mem (Kind.mem_all kind)

/-- The payload of a credential for the variant that its mark selects. -/
def opened? (registry : Registry) (resolver : Resolver) (credential issuer : Option Text) :
    Option Text :=
  (registry.detect? credential).bind fun variant => variant.opened? resolver credential issuer

theorem parse_eq_ok_iff {registry : Registry} {resolver : Resolver}
    {credential issuer : Option Text} {token : Token} :
    (registry.parse resolver credential issuer).result = .ok token ↔
      ∃ variant, registry.detect? credential = some variant ∧
        (variant.parse resolver credential issuer).result = .ok token := by
  cases detected : registry.detect? credential with
  | none => simp [parse_of_undetected detected]
  | some variant => simp [parse_of_detected detected]

end Registry

end SealedToken
