import SealedToken.Text.Ranges
import SealedToken.Url.Basic

/-!
Addresses cut. A scheme, an authority behind two slashes and a rest that ends the authority are
found again in the text that they make up, and a text with a scheme and an authority is made up so.
What follows the authority has no say in whether an address is well formed.
-/

set_option autoImplicit false

namespace SealedToken

/-! ## Characters -/

namespace Url

theorem isAddressChar_iff {c : CodePoint} :
    isAddressChar c = true ↔ Text.isBlank c = false ∧ 0x20 ≤ c.toNat ∧ c.toNat ≠ 0x7F := by
  simp [isAddressChar, and_assoc]

/-- The visible characters of ASCII are address characters. -/
theorem isAddressChar_of_visible {c : CodePoint} (low : 0x20 < c.toNat) (high : c.toNat < 0x7F) :
    isAddressChar c = true := by
  have apart : ∀ range ∈ Text.blankRanges, range.2 ≤ 0x20 ∨ 0x7F ≤ range.1 := by decide
  have unblank : Text.isBlank c = false := by
    rw [Text.isBlank, Bool.eq_false_iff, Ne, Text.inRanges_iff]
    rintro ⟨range, listed, above, below⟩
    have := apart range listed
    omega
  exact isAddressChar_iff.mpr ⟨unblank, by omega, by omega⟩

end Url

theorem isAddressChar_of_mem {address : Text} {c : CodePoint} (valid : isWebAddress address = true)
    (inside : c ∈ address) : Url.isAddressChar c = true := by
  simp only [isWebAddress, Bool.and_eq_true, List.all_eq_true] at valid
  exact valid.1 c inside

theorem not_mem_of_isWebAddress {address : Text} {c : CodePoint}
    (foreign : Url.isAddressChar c = false)
    (valid : isWebAddress address = true) : c ∉ address := by
  intro inside
  rw [isAddressChar_of_mem valid inside] at foreign
  contradiction

theorem ne_nil_of_isWebAddress {address : Text} (valid : isWebAddress address = true) :
    address ≠ [] := by
  rintro rfl
  exact absurd valid (by decide)

/-! ## Schemes -/

namespace Url

theorem isSchemeChar_of_isAlpha {c : CodePoint} (letter : c.isAlpha = true) :
    isSchemeChar c = true := by
  simp [isSchemeChar, CodePoint.isAlphanum, letter]

theorem visible_of_isSchemeChar {c : CodePoint} (valid : isSchemeChar c = true) :
    0x20 < c.toNat ∧ c.toNat < 0x7F := by
  simp only [isSchemeChar, Bool.or_eq_true, decide_eq_true_eq] at valid
  rcases valid with ((alphanumeric | rfl) | rfl) | rfl
  · have := CodePoint.range_of_isAlphanum alphanumeric
    omega
  all_goals decide

/-- A letter, then letters, digits, plus signs, dashes and points. -/
def isScheme : Text → Bool
  | [] => false
  | first :: rest => first.isAlpha && rest.all isSchemeChar

theorem isSchemeChar_of_mem {scheme : Text} (valid : isScheme scheme = true) :
    ∀ c ∈ scheme, isSchemeChar c = true := by
  cases scheme with
  | nil => exact List.forall_mem_nil _
  | cons first rest =>
    rw [isScheme, Bool.and_eq_true, List.all_eq_true] at valid
    rw [List.forall_mem_cons]
    exact ⟨isSchemeChar_of_isAlpha valid.1, valid.2⟩

theorem cutScheme_of_isScheme {scheme : Text} (valid : isScheme scheme = true) (rest : Text) :
    cutScheme (scheme ++ .char ':' :: rest) = (scheme.map CodePoint.toLower, rest) := by
  have colonless : .char ':' ∉ scheme := fun inside =>
    absurd (isSchemeChar_of_mem valid (.char ':') inside) (by decide)
  have found := Text.cut_append_cons ':' colonless rest
  cases scheme with
  | nil => contradiction
  | cons first others =>
    rw [isScheme] at valid
    simp only [cutScheme, found, valid, if_true]

theorem exists_scheme_of_cutScheme {text scheme rest : Text} (cut : cutScheme text = (scheme, rest))
    (nonempty : scheme ≠ []) :
    ∃ written, isScheme written = true ∧ text = written ++ .char ':' :: rest := by
  unfold cutScheme at cut
  split at cut
  · next first others after found =>
    split at cut
    · next valid =>
      obtain ⟨_, rfl⟩ := Prod.mk.inj cut
      exact ⟨first :: others, valid, (Text.cut_eq_some_iff.mp found).1⟩
    · exact absurd (Prod.mk.inj cut).1.symm nonempty
  · exact absurd (Prod.mk.inj cut).1.symm nonempty

/-- What is no scheme before the first colon leaves a text without one. -/
theorem cutScheme_of_foreign {text : Text} {c : CodePoint} (foreign : isSchemeChar c = false)
    (inside : c ∈ (Text.cut ':' text).1) : cutScheme text = ([], text) := by
  unfold cutScheme
  split
  · next first scheme rest found =>
    rw [found, List.mem_cons] at inside
    split
    · next plain =>
      rw [Bool.and_eq_true, List.all_eq_true] at plain
      rcases inside with rfl | later
      · rw [isSchemeChar_of_isAlpha plain.1] at foreign
        contradiction
      · rw [plain.2 c later] at foreign
        contradiction
    · rfl
  · rfl

end Url

theorem isWebAddress_of_schemeless {text : Text} (schemeless : Url.cutScheme text = ([], text)) :
    isWebAddress text = false := by
  have scheme : (Url.ofText text).scheme = [] := by
    simp only [Url.ofText, schemeless]
  simp [isWebAddress, Url.isWellFormed, scheme]

/-! ## Authorities -/

namespace Url

theorem cutAuthority_append {authority rest : Text}
    (authority_open : ∀ c ∈ authority, endsAuthority c = false)
    (rest_apart : ∀ c ∈ rest.head?, endsAuthority c = true) :
    cutAuthority (.char '/' :: .char '/' :: (authority ++ rest)) = (authority, rest) := by
  have inner : ∀ c ∈ authority, (!endsAuthority c) = true := by simpa using authority_open
  rw [cutAuthority, List.takeWhile_append_of_pos inner, List.dropWhile_append_of_pos inner]
  cases rest with
  | nil => rw [List.takeWhile_nil, List.dropWhile_nil, List.append_nil]
  | cons c rest =>
    have ends : endsAuthority c = true := rest_apart c rfl
    simp [ends]

theorem exists_authority_of_cutAuthority {text authority rest : Text}
    (cut : cutAuthority text = (authority, rest)) (nonempty : authority ≠ []) :
    (∀ c ∈ authority, endsAuthority c = false) ∧ (∀ c ∈ rest.head?, endsAuthority c = true) ∧
      text = .char '/' :: .char '/' :: (authority ++ rest) := by
  unfold cutAuthority at cut
  split at cut
  · next after =>
    obtain ⟨rfl, rfl⟩ := Prod.mk.inj cut
    refine ⟨?_, ?_, by rw [List.takeWhile_append_dropWhile]⟩
    · intro c inside
      have kept := List.all_eq_true.mp List.all_takeWhile c inside
      simpa using kept
    · intro c first
      have stopped := List.head?_dropWhile_not (!endsAuthority ·) after
      rw [Option.mem_def.mp first] at stopped
      simpa using stopped
  · exact absurd (Prod.mk.inj cut).1.symm nonempty

/-! ## Whole addresses -/

/-- A text made up of a scheme, an authority behind two slashes, and a rest that ends the
authority. -/
structure Spells (scheme authority rest text : Text) : Prop where
  scheme_valid : isScheme scheme = true
  authority_open : ∀ c ∈ authority, endsAuthority c = false
  rest_apart : ∀ c ∈ rest.head?, endsAuthority c = true
  eq : text = scheme ++ .char ':' :: .char '/' :: .char '/' :: (authority ++ rest)

namespace Spells

variable {scheme authority rest text : Text}

theorem ofText_eq (spells : Spells scheme authority rest text) :
    ofText text =
      ⟨scheme.map CodePoint.toLower, authority, (Text.cut '?' (Text.cut '#' rest).1).1⟩ := by
  obtain ⟨scheme_valid, authority_open, rest_apart, rfl⟩ := spells
  simp only [ofText, cutScheme_of_isScheme scheme_valid,
    cutAuthority_append authority_open rest_apart]

/-- A rest without query and fragment is the path. -/
theorem path_eq (spells : Spells scheme authority rest text) (queryless : .char '?' ∉ rest)
    (fragmentless : .char '#' ∉ rest) : (ofText text).path = rest := by
  rw [spells.ofText_eq]
  simp only [Text.cut_of_free '#' fragmentless, Text.cut_of_free '?' queryless]

theorem mem_of_mem_rest (spells : Spells scheme authority rest text) {c : CodePoint}
    (inside : c ∈ rest) : c ∈ text := by
  rw [spells.eq]
  simp [inside]

/-- What is added behind a slash comes after the authority. -/
theorem append_slash (spells : Spells scheme authority rest text) (segment : Text) :
    Spells scheme authority (rest ++ .char '/' :: segment) (text ++ .char '/' :: segment) := by
  obtain ⟨scheme_valid, authority_open, rest_apart, rfl⟩ := spells
  refine ⟨scheme_valid, authority_open, ?_, by simp⟩
  cases rest with
  | nil => simp [endsAuthority]
  | cons c rest => exact rest_apart

end Spells

theorem exists_spells {text : Text} (schemed : (ofText text).scheme ≠ [])
    (authorized : (ofText text).authority ≠ []) :
    ∃ scheme authority rest, Spells scheme authority rest text := by
  obtain ⟨lowered, after, found⟩ : ∃ lowered after, cutScheme text = (lowered, after) := ⟨_, _, rfl⟩
  obtain ⟨authority, rest, cut⟩ : ∃ authority rest, cutAuthority after = (authority, rest) :=
    ⟨_, _, rfl⟩
  simp only [ofText, found, cut] at schemed authorized
  obtain ⟨scheme, scheme_valid, rfl⟩ := exists_scheme_of_cutScheme found schemed
  obtain ⟨authority_open, rest_apart, rfl⟩ := exists_authority_of_cutAuthority cut authorized
  exact ⟨scheme, authority, rest, scheme_valid, authority_open, rest_apart, rfl⟩

theorem isWellFormed_congr {url other : Url} (scheme : url.scheme = other.scheme)
    (authority : url.authority = other.authority) : url.isWellFormed = other.isWellFormed := by
  simp only [isWellFormed, scheme, authority]

theorem ne_nil_of_isWellFormed {url : Url} (wellFormed : url.isWellFormed = true) :
    url.scheme ≠ [] ∧ url.authority ≠ [] := by
  obtain ⟨scheme, authority, path⟩ := url
  constructor
  · rintro rfl
    simp [isWellFormed] at wellFormed
  · rintro rfl
    simp [isWellFormed, hostAndPort, Text.afterLast, Text.cut] at wellFormed

theorem isWellFormed_of_isWebAddress {text : Text} (valid : isWebAddress text = true) :
    (ofText text).isWellFormed = true := by
  rw [isWebAddress, Bool.and_eq_true] at valid
  exact valid.2

theorem exists_spells_of_isWebAddress {text : Text} (valid : isWebAddress text = true) :
    ∃ scheme authority rest, Spells scheme authority rest text := by
  obtain ⟨schemed, authorized⟩ := ne_nil_of_isWellFormed (isWellFormed_of_isWebAddress valid)
  exact exists_spells schemed authorized

/-- An address stays one when more is added behind a slash, whatever it has of path, query and
fragment. -/
theorem isWebAddress_append_slash {base segment : Text} (valid : isWebAddress base = true)
    (plain : ∀ c ∈ segment, isAddressChar c = true) :
    isWebAddress (base ++ .char '/' :: segment) = true := by
  obtain ⟨scheme, authority, rest, spells⟩ := exists_spells_of_isWebAddress valid
  have kept :
      (ofText (base ++ .char '/' :: segment)).isWellFormed = (ofText base).isWellFormed := by
    rw [(spells.append_slash segment).ofText_eq, spells.ofText_eq]
    exact isWellFormed_congr rfl rfl
  rw [isWebAddress, Bool.and_eq_true, List.all_eq_true, kept]
  refine ⟨?_, isWellFormed_of_isWebAddress valid⟩
  intro c inside
  rw [List.mem_append, List.mem_cons] at inside
  rcases inside with before | rfl | after
  · exact isAddressChar_of_mem valid before
  · decide
  · exact plain c after

end Url

end SealedToken
