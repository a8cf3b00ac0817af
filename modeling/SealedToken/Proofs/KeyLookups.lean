import SealedToken.Proofs.IssuerBinding

/-!
The keys that reading asks for. A credential is tested for its mark, its issuer and the form of what
stands behind the mark before any key is asked for; then the key of the expected issuer is asked
for, once, and no other, whatever the opened payload names.
-/

set_option autoImplicit false

namespace SealedToken

/-! ## Lookups of attempts -/

namespace Attempt

variable {Fault Other Value Next : Type}

@[simp] theorem asked_fail (fault : Fault) : (fail fault : Attempt Fault Value).asked = [] := rfl

@[simp] theorem asked_ofExcept (result : Except Fault Value) : (ofExcept result).asked = [] := rfl

@[simp] theorem asked_mapFault (change : Fault → Other) (attempt : Attempt Fault Value) :
    (attempt.mapFault change).asked = attempt.asked := rfl

/-- A step after which nothing is asked for leaves the lookups as they are. -/
theorem asked_bind_of_silent {attempt : Attempt Fault Value} {next : Value → Attempt Fault Next}
    (silent : ∀ value, (next value).asked = []) : (attempt >>= next).asked = attempt.asked := by
  change (Attempt.bind attempt next).asked = attempt.asked
  unfold Attempt.bind
  cases attempt.result with
  | error fault => rfl
  | ok value =>
    change (attempt.events ++ (next value).events).filterMap Event.issuer? = _
    rw [List.filterMap_append]
    exact (congrArg (attempt.asked ++ ·) (silent value)).trans (List.append_nil _)

/-- The key of the expected issuer is asked for once if that is due, and no other key. -/
structure AsksOnly (attempt : Attempt Fault Value) (issuer : Option Text) (due : Text → Prop) :
    Prop where
  nothing_else : attempt.asked = [] ∨ ∃ name, issuer = some name ∧ attempt.asked = [name]
  asked_iff : ∀ name, attempt.asked = [name] ↔ due name

theorem asksOnly_of_cases {attempt : Attempt Fault Value} {issuer : Option Text}
    {due : Text → Prop}
    (cases : (∃ name, issuer = some name ∧ due name ∧ attempt.asked = [name]) ∨
      (∀ name, ¬ due name) ∧ attempt.asked = [])
    (expected : ∀ name, due name → issuer = some name) : attempt.AsksOnly issuer due := by
  rcases cases with ⟨name, rfl, isDue, asked⟩ | ⟨undue, asked⟩
  · refine ⟨.inr ⟨name, rfl, asked⟩, fun other => ?_⟩
    rw [asked]
    constructor
    · intro same
      rwa [← List.head_eq_of_cons_eq same]
    · intro also
      rw [Option.some.inj (expected other also)]
  · refine ⟨.inl asked, fun name => ?_⟩
    rw [asked]
    exact ⟨fun impossible => absurd impossible (List.cons_ne_nil _ _).symm,
      fun isDue => absurd isDue (undue name)⟩

end Attempt

/-! ## Opening -/

namespace Sealing

/-- The form of a sealed payload: the text of a nonce, a ciphertext and a tag. -/
def HasForm (text : Text) : Prop :=
  ∃ bytes, text = Base64.encode bytes ∧ nonceSize + Gcm.tagSize ≤ bytes.length

theorem asked_unsealFor (resolver : Resolver) (issuer text : Text) :
    (HasForm text ∧ (unsealFor resolver issuer text).asked = [issuer]) ∨
      (¬ HasForm text ∧ (unsealFor resolver issuer text).asked = []) := by
  cases formed : wellFormed? text with
  | none =>
    rw [unsealFor_of_malformed formed]
    refine .inr ⟨?_, rfl⟩
    rintro ⟨bytes, form⟩
    rw [wellFormed?_eq_some_iff.mpr form] at formed
    contradiction
  | some bytes =>
    refine .inl ⟨⟨bytes, wellFormed?_eq_some_iff.mp formed⟩, ?_⟩
    -- Whether there is a key and whether it opens the payload comes after the lookup.
    cases found : issuerFault? resolver issuer with
    | some fault =>
      rw [unsealFor_of_issuerFault formed found]
      rfl
    | none =>
      rw [unsealFor_of_faultless formed found]
      split
      · rfl
      · rfl

theorem unsealFor_congr {resolver other : Resolver} {issuer : Text}
    (same : other issuer = resolver issuer) (text : Text) :
    unsealFor other issuer text = unsealFor resolver issuer text := by
  unfold unsealFor openFor askKey
  rw [same]

theorem sealFor_congr {resolver other : Resolver} {issuer : Text}
    (same : other issuer = resolver issuer) (payload : Text) :
    sealFor other issuer payload = sealFor resolver issuer payload := by
  unfold sealFor askKey
  rw [same]

end Sealing

/-! ## Reading -/

namespace Variant

/-- A credential that a variant comes to open for an issuer: one with a name, and the form of a
sealed payload behind the mark. -/
def ComesToOpen (variant : Variant) (credential issuer : Option Text) (name : Text) : Prop :=
  issuer = some name ∧ name ≠ [] ∧
    ∃ body, credential = some (variant.mark ++ body) ∧ Sealing.HasForm body

/-- After the opening, reading works on the payload alone. -/
theorem asked_decode_bind {body issuer : Text} {extensions : Int} {resolver : Resolver}
    {next : Common × List Text → Attempt ParseFault Token}
    (silent : ∀ fields, (next fields).asked = []) :
    (Wire.decode body issuer extensions resolver >>= next).asked =
      (Sealing.unsealFor resolver issuer body).asked := by
  rw [Attempt.asked_bind_of_silent silent, Wire.decode,
    Attempt.asked_bind_of_silent fun _ => Attempt.asked_ofExcept _]

theorem asksOnly_parse (variant : Variant) (resolver : Resolver) (credential issuer : Option Text) :
    (variant.parse resolver credential issuer).AsksOnly issuer
      (variant.ComesToOpen credential issuer) := by
  apply Attempt.asksOnly_of_cases ?_ fun name opens => opens.1
  unfold parse
  cases stripped : credential.bind (Text.strip? variant.mark) with
  | none =>
    refine .inr ⟨?_, rfl⟩
    rintro name ⟨_, _, body, rfl, _⟩
    rw [Option.bind_some, Text.strip?_append] at stripped
    contradiction
  | some body =>
    obtain ⟨text, rfl, cut⟩ := Option.bind_eq_some_iff.mp stripped
    obtain rfl := Text.strip?_eq_some_iff.mp cut
    cases named : absentIfEmpty issuer with
    | none =>
      refine .inr ⟨?_, rfl⟩
      rintro name ⟨rfl, nonempty, _⟩
      rw [absentIfEmpty_eq_some_iff.mpr ⟨rfl, nonempty⟩] at named
      contradiction
    | some name =>
      obtain ⟨rfl, nonempty⟩ := absentIfEmpty_eq_some_iff.mp named
      rcases Sealing.asked_unsealFor resolver name body with ⟨form, lookups⟩ | ⟨formless, lookups⟩
      · refine .inl ⟨name, rfl, ⟨rfl, nonempty, body, rfl, form⟩, ?_⟩
        exact (asked_decode_bind fun _ => rfl).trans lookups
      · refine .inr ⟨?_, (asked_decode_bind fun _ => rfl).trans lookups⟩
        rintro other ⟨_, _, found, same, form⟩
        rw [List.append_cancel_left (Option.some.inj same)] at formless
        exact formless form

/-- Reading depends on the resolver only through its answer for the expected issuer. -/
theorem parse_congr {resolver other : Resolver} {issuer : Option Text}
    (same : ∀ name, issuer = some name → other name = resolver name) (variant : Variant)
    (credential : Option Text) :
    variant.parse other credential issuer = variant.parse resolver credential issuer := by
  unfold parse
  cases credential.bind (Text.strip? variant.mark) with
  | none => rfl
  | some body =>
    cases named : absentIfEmpty issuer with
    | none => rfl
    | some name =>
      have answers := same name (absentIfEmpty_eq_some_iff.mp named).1
      simp only [Wire.decode, Sealing.unsealFor_congr answers]

end Variant

namespace Registry

/-- A credential that the variant whose mark it carries comes to open. -/
def ComesToOpen (registry : Registry) (credential issuer : Option Text) (name : Text) : Prop :=
  ∃ variant ∈ registry.variants, variant.ComesToOpen credential issuer name

theorem asksOnly_parse (registry : Registry) (resolver : Resolver)
    (credential issuer : Option Text) :
    (registry.parse resolver credential issuer).AsksOnly issuer
      (registry.ComesToOpen credential issuer) := by
  cases detected : registry.detect? credential with
  | none =>
    rw [parse_of_undetected detected]
    apply Attempt.asksOnly_of_cases (.inr ⟨?_, rfl⟩) ?_
    · rintro name ⟨variant, registered, _, _, body, rfl, _⟩
      rw [detect?_mark_append registered] at detected
      contradiction
    · rintro name ⟨_, _, expected, _⟩
      exact expected
  | some variant =>
    rw [parse_of_detected detected]
    obtain ⟨nothing_else, asked_iff⟩ := variant.asksOnly_parse resolver credential issuer
    refine ⟨nothing_else, fun name => (asked_iff name).trans ⟨?_, ?_⟩⟩
    · intro opens
      exact ⟨variant, (detect?_eq_some_iff.mp detected).1, opens⟩
    · rintro ⟨other, registered, expected, nonempty, body, rfl, form⟩
      -- The mark in front selects the variant that comes to open the rest.
      rw [detect?_mark_append registered] at detected
      obtain rfl := Option.some.inj detected
      exact ⟨expected, nonempty, body, rfl, form⟩

theorem parse_congr {resolver other : Resolver} {issuer : Option Text}
    (same : ∀ name, issuer = some name → other name = resolver name) (registry : Registry)
    (credential : Option Text) :
    registry.parse other credential issuer = registry.parse resolver credential issuer := by
  unfold parse
  cases registry.detect credential with
  | error rejection => rfl
  | ok variant => exact Variant.parse_congr same variant credential

end Registry

/-- Reading, by a registry or by one variant, asks for the key of the expected issuer exactly if a
mark, a named issuer and the form of a sealed payload are there, and for no other key; so it is the
same under all resolvers that answer alike for that issuer. A registry leaves a credential to the
variant whose mark it carries, failing or not. -/
theorem Registry.lookups_of_parse (resolver : Resolver) (credential issuer : Option Text) :
    (∀ registry : Registry,
        (registry.parse resolver credential issuer).AsksOnly issuer
            (registry.ComesToOpen credential issuer) ∧
          ∀ variant ∈ registry.variants, ∀ body, credential = some (variant.mark ++ body) →
            registry.parse resolver credential issuer =
              variant.parse resolver credential issuer) ∧
      (∀ variant : Variant,
        (variant.parse resolver credential issuer).AsksOnly issuer
          (variant.ComesToOpen credential issuer)) ∧
      ∀ other : Resolver, (∀ name, issuer = some name → other name = resolver name) →
        (∀ registry : Registry, registry.parse other credential issuer =
            registry.parse resolver credential issuer) ∧
          ∀ variant : Variant, variant.parse other credential issuer =
            variant.parse resolver credential issuer := by
  refine ⟨?_, ?_, ?_⟩
  · intro registry
    refine ⟨registry.asksOnly_parse resolver credential issuer, ?_⟩
    rintro variant registered body rfl
    exact parse_mark_append registered resolver body issuer
  · intro variant
    exact variant.asksOnly_parse resolver credential issuer
  · intro other same
    exact ⟨fun registry => parse_congr same registry credential,
      fun variant => Variant.parse_congr same variant credential⟩

/-- A resolver that knows one issuer alone. -/
def Sample.onlyForeign : Resolver := fun issuer =>
  if issuer = foreign then secret.resolver issuer else .error (.unknownIssuer issuer)

/-- A payload that names another issuer is read with the key of the expected one alone, so nothing
changes where no other is known. -/
theorem Registry.lookups_of_parse_visitor :
    Wire.namedIssuer? Sample.visitorPayload = some Sample.issuer ∧ Sample.foreign ≠ Sample.issuer ∧
      (Registry.standard.parse Sample.secret.resolver (some Sample.planted)
        (some Sample.foreign)).asked = [Sample.foreign] ∧
      Registry.standard.parse Sample.onlyForeign (some Sample.planted) (some Sample.foreign) =
        (Variant.builtin .visitorRefresh).parse Sample.secret.resolver (some Sample.planted)
          (some Sample.foreign) := by
  refine ⟨by decide +kernel, by decide, ?_⟩
  obtain ⟨reading, _, alike⟩ :=
    Registry.lookups_of_parse Sample.secret.resolver (some Sample.planted) (some Sample.foreign)
  obtain ⟨lookups, left⟩ := reading .standard
  have registered := Registry.builtin_mem_standard .visitorRefresh
  have opens : Registry.standard.ComesToOpen (some Sample.planted) (some Sample.foreign)
      Sample.foreign :=
    ⟨.builtin .visitorRefresh, registered, rfl, Sample.foreign_ne_nil, _, rfl, _, rfl,
      Sealing.length_sealedBytes _ _ _ _⟩
  have same : ∀ name, some Sample.foreign = some name →
      Sample.onlyForeign name = Sample.secret.resolver name := by
    rintro name ⟨⟩
    exact if_pos rfl
  refine ⟨(lookups.asked_iff Sample.foreign).mpr opens, ?_⟩
  exact ((alike Sample.onlyForeign same).1 .standard).trans (left _ registered _ rfl)

end SealedToken
