import SealedToken.Proofs.Parts

/-!
Addresses judged and named after. An address whose authority is a host and perhaps a port is judged
by its scheme, its port and the characters of its rest, whatever marks the rest may hold. A name
that is put behind an address in percent code names the role there.
-/

set_option autoImplicit false

namespace SealedToken

/-! ## Plain authorities -/

namespace Url

/-- The characters of a host that is a name or an IPv4 address. -/
def isHostChar (c : CodePoint) : Bool := c.isAlphanum || c = '-' || c = '.'

theorem visible_of_isHostChar {c : CodePoint} (valid : isHostChar c = true) :
    0x20 < c.toNat ∧ c.toNat < 0x7F := by
  simp only [isHostChar, Bool.or_eq_true, decide_eq_true_eq] at valid
  rcases valid with (alphanumeric | rfl) | rfl
  · have := CodePoint.range_of_isAlphanum alphanumeric
    omega
  all_goals decide

/-- A text with a host, and perhaps a port, for its authority: no user information and no brackets.
What ends the authority may be followed by anything. -/
structure Plain where
  scheme : Text
  host : Text
  /-- What follows the colon behind the host, if there is one. -/
  port : Option Text
  rest : Text
  scheme_valid : isScheme scheme = true
  host_nonempty : host ≠ []
  host_chars : ∀ c ∈ host, isHostChar c = true
  port_digits : ∀ digits ∈ port, ∀ c ∈ digits, c.isDigit = true
  rest_apart : ∀ c ∈ rest.head?, c = '/' ∨ c = '?' ∨ c = '#'

namespace Plain

variable (address : Plain)

def portText : Text :=
  match address.port with
  | none => []
  | some digits => .char ':' :: digits

def text : Text :=
  address.scheme ++ "://" ++ address.host ++ address.portText ++ address.rest

/-- A port that is absent or empty, or a number that is in range and within the digit limit. -/
def PortFits : Prop :=
  address.port = none ∨ address.port = some [] ∨
    ∃ digits, address.port = some digits ∧ digits.length ≤ Decimal.digitLimit ∧
      Decimal.value digits ≤ 65535

/-- The scheme is one of the web in letters of any case, the port fits, and what follows holds no
blank and no control character of ASCII. -/
structure Fits : Prop where
  scheme : address.scheme.map CodePoint.toLower = "http" ∨
    address.scheme.map CodePoint.toLower = "https"
  port : address.PortFits
  rest : ∀ c ∈ address.rest, Text.isBlank c = false ∧ 0x20 ≤ c.toNat ∧ c.toNat ≠ 0x7F

/-! ### Where the text is cut -/

def authority : Text := address.host ++ address.portText

theorem isHostChar_of_mem_authority :
    ∀ c ∈ address.authority, isHostChar c = true ∨ c = ':' := by
  intro c inside
  rw [authority, List.mem_append] at inside
  rcases inside with host | port
  · exact .inl (address.host_chars c host)
  · unfold portText at port
    split at port
    · contradiction
    · next digits given =>
      rcases List.mem_cons.mp port with colon | digit
      · exact .inr colon
      · have numeric := address.port_digits digits given c digit
        exact .inl (by simp [isHostChar, CodePoint.isAlphanum, numeric])

theorem not_mem_authority {c : CodePoint} (foreign : isHostChar c = false) (other : c ≠ ':') :
    c ∉ address.authority := by
  intro inside
  rcases address.isHostChar_of_mem_authority c inside with host | colon
  · rw [host] at foreign
    contradiction
  · exact other colon

theorem visible_of_mem_authority {c : CodePoint} (inside : c ∈ address.authority) :
    0x20 < c.toNat ∧ c.toNat < 0x7F := by
  rcases address.isHostChar_of_mem_authority c inside with host | rfl
  · exact visible_of_isHostChar host
  · decide

theorem spells : Spells address.scheme address.authority address.rest address.text where
  scheme_valid := address.scheme_valid
  authority_open := by
    intro c inside
    rw [Bool.eq_false_iff]
    intro ends
    simp only [endsAuthority, Bool.or_eq_true, decide_eq_true_eq] at ends
    rcases ends with (rfl | rfl) | rfl
    all_goals exact address.not_mem_authority (by decide) (by decide) inside
  rest_apart := by
    intro c first
    simpa [endsAuthority, or_assoc] using address.rest_apart c first
  eq := by
    have marks : Text.ofString "://" = [.char ':', .char '/', .char '/'] := rfl
    simp [text, authority, marks]

/-! ### What the authority says -/

theorem hostAndPort_authority :
    hostAndPort address.authority = (address.host, address.port.getD []) := by
  have placed :=
    Text.afterLast_of_free '@' (address.not_mem_authority (c := .char '@') rfl (by decide))
  have unbracketed :=
    Text.cut_of_free '[' (address.not_mem_authority (c := .char '[') rfl (by decide))
  have colonless : .char ':' ∉ address.host := fun inside =>
    absurd (address.host_chars (.char ':') inside) (by decide)
  simp only [hostAndPort, placed, unbracketed]
  cases given : address.port with
  | none =>
    simp only [authority, portText, given, List.append_nil, Text.cut_of_free ':' colonless]
  | some digits =>
    simp only [authority, portText, given, Text.cut_append_cons ':' colonless]

theorem bracketsFit_authority : bracketsFit address.authority = true := by
  have left := address.not_mem_authority (c := .char '[') rfl (by decide)
  have right := address.not_mem_authority (c := .char ']') rfl (by decide)
  simp [bracketsFit, left, right]

theorem isPlainAuthority_authority : isPlainAuthority address.authority = true := by
  have beyond : ∀ code ∈ delimiterLookalikes, 0x7F ≤ code := by decide
  rw [isPlainAuthority, List.all_eq_true]
  intro c inside
  rw [Bool.not_eq_true', ← Bool.not_eq_true, List.contains_iff_mem]
  intro listed
  have := beyond c.toNat listed
  have := address.visible_of_mem_authority inside
  omega

theorem isPort_iff : isPort (address.port.getD []) = true ↔ address.PortFits := by
  have digits := address.port_digits
  unfold PortFits
  cases given : address.port with
  | none => exact iff_of_true (by decide) (.inl rfl)
  | some text =>
    have numeric : text.all Decimal.isDigit = true := List.all_eq_true.mpr fun c inside => by
      simpa [Decimal.isDigit] using CodePoint.isDigit_iff.mp (digits text given c inside)
    simp only [Option.getD_some, isPort, numeric, Bool.true_and, Bool.and_eq_true,
      decide_eq_true_eq, reduceCtorEq, Option.some.injEq, false_or, exists_eq_left']
    constructor
    · exact .inr
    · rintro (rfl | fits)
      · decide
      · exact fits

theorem isWellFormed_iff : (ofText address.text).isWellFormed = true ↔
    (address.scheme.map CodePoint.toLower = "http" ∨
      address.scheme.map CodePoint.toLower = "https") ∧ address.PortFits := by
  have host : address.host.isEmpty = false := List.isEmpty_eq_false_iff.mpr address.host_nonempty
  rw [address.spells.ofText_eq, ← address.isPort_iff]
  simp only [isWellFormed, address.hostAndPort_authority, address.bracketsFit_authority,
    address.isPlainAuthority_authority, host, Bool.true_and, Bool.not_false, Bool.and_true,
    Bool.and_eq_true, Bool.or_eq_true, decide_eq_true_eq]
  exact and_comm

/-! ### What is left to judge -/

/-- Scheme, host and port consist of address characters, so only the rest can hold others. -/
theorem forall_mem_text_iff : (∀ c ∈ address.text, isAddressChar c = true) ↔
    ∀ c ∈ address.rest, isAddressChar c = true := by
  constructor
  · intro all c inside
    exact all c (address.spells.mem_of_mem_rest inside)
  · intro all c inside
    rw [address.spells.eq] at inside
    simp only [List.mem_append, List.mem_cons] at inside
    rcases inside with scheme | rfl | rfl | rfl | authority | rest
    · have visible := visible_of_isSchemeChar
        (isSchemeChar_of_mem address.scheme_valid c scheme)
      exact isAddressChar_of_visible visible.1 visible.2
    · decide
    · decide
    · decide
    · have visible := address.visible_of_mem_authority authority
      exact isAddressChar_of_visible visible.1 visible.2
    · exact all c rest

theorem isWebAddress_text_iff : isWebAddress address.text = true ↔ address.Fits := by
  rw [isWebAddress, Bool.and_eq_true, List.all_eq_true, address.forall_mem_text_iff,
    address.isWellFormed_iff]
  simp only [isAddressChar_iff]
  constructor
  · rintro ⟨rest, scheme, port⟩
    exact ⟨scheme, port, rest⟩
  · rintro ⟨scheme, port, rest⟩
    exact ⟨rest, scheme, port⟩

end Plain

end Url

/-- A text with a plain authority is an address exactly if its parts fit. Otherwise it is malformed,
and it is blamed as a whole. -/
theorem checkAddress_plain (address : Url.Plain) :
    (checkAddress address.text = .ok () ↔ address.Fits) ∧
      (¬ address.Fits →
        ∃ fault, checkAddress address.text = .error fault ∧ fault = .malformed address.text ∧
          fault.reference = address.text) := by
  rw [checkAddress_eq_ok_iff, address.isWebAddress_text_iff]
  refine ⟨Iff.rfl, ?_⟩
  intro unfit
  refine ⟨.malformed address.text, ?_, rfl, rfl⟩
  exact if_neg (mt address.isWebAddress_text_iff.mp unfit)

namespace Sample

/-- Addresses, one for each port, whose rest holds whatever delimits authorities. -/
def crowded (port : Text) (digits : port.all CodePoint.isDigit = true) : Url.Plain where
  scheme := "hTTps"
  host := "0-.h"
  port := some port
  rest := "?@[x]:99999/#é"
  scheme_valid := by decide
  host_nonempty := by decide
  host_chars := List.all_eq_true.mp (by decide)
  port_digits := by
    intro text given
    exact Option.some.inj given ▸ List.all_eq_true.mp digits
  rest_apart := by
    rintro c first
    obtain rfl : .char '?' = c := Option.some.inj first
    decide

theorem crowded_rest_clean : (Text.ofString "?@[x]:99999/#é").all (fun c =>
    Text.isBlank c = false ∧ 0x20 ≤ c.toNat ∧ c.toNat ≠ 0x7F) = true := by
  decide

end Sample

theorem checkAddress_plain_crowded :
    checkAddress "hTTps://0-.h:000065535?@[x]:99999/#é" = .ok () ∧
      checkAddress "hTTps://0-.h:65536?@[x]:99999/#é" =
        .error (.malformed "hTTps://0-.h:65536?@[x]:99999/#é") := by
  have highest : Text.ofString "hTTps://0-.h:000065535?@[x]:99999/#é" =
      (Sample.crowded "000065535" (by decide)).text := by decide +kernel
  have beyond : Text.ofString "hTTps://0-.h:65536?@[x]:99999/#é" =
      (Sample.crowded "65536" (by decide)).text := by decide +kernel
  rw [highest, beyond]
  constructor
  · refine (checkAddress_plain _).1.mpr ⟨.inr (by decide), .inr (.inr ?_), ?_⟩
    · exact ⟨_, rfl, by decide, by decide⟩
    · intro c inside
      exact of_decide_eq_true (List.all_eq_true.mp Sample.crowded_rest_clean c inside)
  · have unfit : ¬ (Sample.crowded "65536" (by decide)).Fits := by
      intro fits
      rcases fits.port with absent | empty | ⟨digits, given, _, small⟩
      · contradiction
      · exact absurd empty (by decide)
      · obtain rfl := Option.some.inj given
        exact absurd small (by decide)
    obtain ⟨_, refused, rfl, _⟩ := (checkAddress_plain _).2 unfit
    exact refused

/-! ## Names behind addresses -/

namespace Percent

theorem isAddressChar_of_isWritten {c : CodePoint} (written : isWritten c = true) :
    Url.isAddressChar c = true := by
  rw [isWritten, Bool.or_eq_true, Bool.and_eq_true, decide_eq_true_eq, decide_eq_true_eq]
    at written
  rcases written with rfl | ⟨ascii, unreserved⟩
  · decide
  · have same : (UInt8.ofNat c.toNat).toNat = c.toNat :=
      UInt8.toNat_ofNat_of_lt' (Nat.lt_trans ascii (by decide))
    simp only [isUnreserved, same, Bool.or_eq_true, Bool.and_eq_true, decide_eq_true_eq,
      beq_iff_eq] at unreserved
    exact Url.isAddressChar_of_visible (by omega) (by omega)

theorem encode_eq_nil_iff {name : Text} (encodable : name.isEncodable = true) :
    encode name = [] ↔ name = [] := by
  constructor
  · intro empty
    rw [← decode_encode encodable, empty]
    rfl
  · rintro rfl
    rfl

end Percent

namespace Role

theorem lastSegment_append_slash {segment : Text} (nonempty : segment ≠ [])
    (free : .char '/' ∉ segment)
    (before : Text) : lastSegment (before ++ .char '/' :: segment) = segment := by
  obtain ⟨last, others, reversed⟩ :=
    List.exists_cons_of_ne_nil (mt List.reverse_eq_nil_iff.mp nonempty)
  have other : last ≠ '/' := by
    rintro rfl
    exact free (List.mem_reverse.mp (reversed ▸ List.mem_cons_self))
  -- The text does not end in a slash, so none is taken off.
  have kept : (before ++ .char '/' :: segment).reverse.dropWhile (fun c : CodePoint => c = '/') =
      (before ++ .char '/' :: segment).reverse := by
    rw [List.reverse_append, List.reverse_cons, reversed]
    simp [other]
  rw [lastSegment, kept, List.reverse_reverse, Text.afterLast_append_cons '/' free]

/-- The path behind an address ends with what was put there, as the address has neither query nor
fragment and percent code has no delimiters. -/
theorem lastSegment_path {base name : Text} (valid : isWebAddress base = true)
    (queryless : .char '?' ∉ base) (fragmentless : .char '#' ∉ base) (named : name ≠ [])
    (encodable : name.isEncodable = true) :
    lastSegment (Url.ofText (base ++ .char '/' :: Percent.encode name)).path =
      Percent.encode name := by
  obtain ⟨scheme, authority, rest, spells⟩ := Url.exists_spells_of_isWebAddress valid
  have free {c : CodePoint} (outside : c ∉ base) (other : c ≠ '/')
      (unwritten : Percent.isWritten c = false) : c ∉ rest ++ .char '/' :: Percent.encode name := by
    rw [List.mem_append, List.mem_cons]
    rintro (before | slash | after)
    · exact outside (spells.mem_of_mem_rest before)
    · exact other slash
    · exact Percent.not_mem_encode unwritten name after
  rw [(spells.append_slash _).path_eq (free queryless (by decide) (by decide))
    (free fragmentless (by decide) (by decide))]
  exact lastSegment_append_slash (mt (Percent.encode_eq_nil_iff encodable).mp named)
    (Percent.not_mem_encode (by decide) name) rest

/-- A name, of whatever characters, in percent code behind an address gives the role of that name at
the whole address. -/
theorem ofAddress_append_encode {base name : Text} (accepted : checkAddress base = .ok ())
    (queryless : .char '?' ∉ base) (fragmentless : .char '#' ∉ base) (named : name ≠ [])
    (encodable : name.isEncodable = true) :
    ofAddress (base ++ .char '/' :: Percent.encode name) =
      .ok ⟨name, base ++ .char '/' :: Percent.encode name⟩ := by
  have valid := checkAddress_eq_ok_iff.mp accepted
  have whole : isWebAddress (base ++ .char '/' :: Percent.encode name) = true :=
    Url.isWebAddress_append_slash valid fun c inside =>
      Percent.isAddressChar_of_isWritten (Percent.isWritten_of_mem_encode inside)
  simp only [ofAddress, whole, if_true, lastSegment_path valid queryless fragmentless named
    encodable, Percent.decode_encode encodable, List.isEmpty_eq_false_iff.mpr named,
    Bool.false_eq_true, if_false]

theorem ofAddress_append_encode_slashes :
    ofAddress "http://u@[::1]:80//;/%2F%3F%23%25%00%20%C3%A9%2F" =
      .ok ⟨"/?#%\x00 é/", "http://u@[::1]:80//;/%2F%3F%23%25%00%20%C3%A9%2F"⟩ := by
  have accepted : checkAddress "http://u@[::1]:80//;" = .ok () :=
    checkAddress_eq_ok_iff.mpr (by decide +kernel)
  have named : Text.ofString "/?#%\x00 é/" ≠ [] := by decide
  have written : Text.ofString "http://u@[::1]:80//;/%2F%3F%23%25%00%20%C3%A9%2F" =
      Text.ofString "http://u@[::1]:80//;" ++ .char '/' :: Percent.encode "/?#%\x00 é/" := by
    decide +kernel
  rw [written]
  exact ofAddress_append_encode accepted (by decide) (by decide) named (by decide)

end Role

end SealedToken
