import SealedToken.Text.Percent.Lemmas
import SealedToken.Token.Basic
import SealedToken.Url.Lemmas

/-!
Parts read back. Scope values hold no blank and role names are written without separators, so each
part is known from its field; the fields of a layout give the contents back when nothing is held
outside the layout.
-/

set_option autoImplicit false

namespace SealedToken

/-! ## Characters that cannot occur -/

namespace Percent

/-- The characters of percent-coded text. -/
def isWritten (c : CodePoint) : Bool := c = '%' || (c.toNat < 128 && isUnreserved (.ofNat c.toNat))

theorem isWritten_upperHexDigit : ∀ n < 16, isWritten (upperHexDigit n) = true := by decide

theorem isWritten_of_mem_encodeByte {byte : UInt8} {c : CodePoint} (inside : c ∈ encodeByte byte) :
    isWritten c = true := by
  have bound := byte.toNat_lt
  unfold encodeByte at inside
  split at inside
  · next unreserved =>
    obtain rfl := List.mem_singleton.mp inside
    have small := (small_of_isUnreserved unreserved).1
    have same : (CodePoint.ofNat byte.toNat).toNat = byte.toNat :=
      CodePoint.toNat_ofNat (by omega)
    simp [isWritten, same, small, unreserved]
  · simp only [List.mem_cons, List.not_mem_nil, or_false] at inside
    rcases inside with rfl | rfl | rfl
    · decide
    · exact isWritten_upperHexDigit (byte.toNat / 16) (by omega)
    · exact isWritten_upperHexDigit (byte.toNat % 16) (by omega)

theorem isWritten_of_mem_encode {name : Text} {c : CodePoint} (inside : c ∈ encode name) :
    isWritten c = true := by
  obtain ⟨byte, _, written⟩ := List.mem_flatMap.mp inside
  exact isWritten_of_mem_encodeByte written

theorem not_mem_encode {c : CodePoint} (foreign : isWritten c = false) (name : Text) :
    c ∉ encode name := by
  intro inside
  rw [isWritten_of_mem_encode inside] at foreign
  contradiction

end Percent

/-! ## Scopes -/

namespace Scope

theorem not_mem_of_isItem {c : CodePoint} (blank : Text.isBlank c = true) {item : Text}
    (valid : isItem item = true) : c ∉ item := by
  intro inside
  simp only [isItem, Bool.and_eq_true, List.all_eq_true, Bool.not_eq_true'] at valid
  rw [valid.2 c inside] at blank
  contradiction

theorem encode_ne_nil {item : Text} (valid : isItem item = true) (rest : List Text) :
    encode (item :: rest) ≠ [] := by
  have nonempty : item ≠ [] := by
    rintro rfl
    exact absurd valid (by decide)
  cases rest with
  | nil => exact nonempty
  | cons next rest => simp [encode, Text.join, nonempty]

theorem decode_of_ne_nil {field : Text} (nonempty : field ≠ []) :
    decode field = Text.split separator field := by
  rw [decode, List.isEmpty_eq_false_iff.mpr nonempty, if_neg (by decide)]

theorem decode_encode {scope : List Text} (valid : ∀ item ∈ scope, isItem item = true) :
    decode (encode scope) = scope := by
  cases scope with
  | nil => rfl
  | cons item rest =>
    rw [decode_of_ne_nil (encode_ne_nil (valid item List.mem_cons_self) rest)]
    exact Text.split_join separator (List.cons_ne_nil item rest)
      fun piece inside => not_mem_of_isItem (by decide) (valid piece inside)

end Scope

/-! ## Roles -/

namespace Role

theorem entry_ne_nil (role : Role) : role.entry ≠ [] := by simp [entry]

theorem not_mem_entry {c : CodePoint} (unwritten : Percent.isWritten c = false)
    (different : c ≠ nameSeparator) (foreign : Url.isAddressChar c = false) {role : Role}
    (valid : isWebAddress role.address = true) : c ∉ role.entry := by
  intro inside
  simp only [entry, List.mem_append, List.mem_cons] at inside
  rcases inside with name | separator | address
  · exact Percent.not_mem_encode unwritten role.name name
  · exact different separator
  · exact not_mem_of_isWebAddress foreign valid address

/-- A role that has an entry in lists. -/
structure Listable (role : Role) : Prop where
  address_valid : isWebAddress role.address = true
  name_encodable : role.name.isEncodable = true

theorem checkedEntry_eq_ok_iff {role : Role} {text : Text} :
    role.checkedEntry = .ok text ↔ role.Listable ∧ text = role.entry := by
  unfold checkedEntry
  cases checked : checkAddress role.address with
  | error fault =>
    simp only [reduceCtorEq, false_iff, not_and]
    intro listable
    rw [checkAddress_eq_ok_iff.mpr listable.address_valid] at checked
    contradiction
  | ok =>
    have valid := checkAddress_eq_ok_iff.mp checked
    cases named : role.name.isEncodable with
    | true =>
      have listable : role.Listable := ⟨valid, named⟩
      simp [Percent.encode?_of_isEncodable named, listable, entry, eq_comm]
    | false =>
      obtain ⟨fault, failed⟩ := Utf8.exists_encode?_error named
      simp only [Percent.encode?, failed, reduceCtorEq, false_iff, not_and]
      intro listable
      rw [listable.name_encodable] at named
      contradiction

theorem checkedEntries_eq_ok_iff {roles : List Role} {entries : List Text} :
    checkedEntries roles = .ok entries ↔
      (∀ role ∈ roles, role.Listable) ∧ entries = roles.map entry := by
  induction roles generalizing entries with
  | nil => simp [checkedEntries, eq_comm]
  | cons role rest ih =>
    rw [checkedEntries, List.forall_mem_cons, List.map_cons]
    cases written : role.checkedEntry with
    | error fault =>
      simp only [reduceCtorEq, false_iff, not_and]
      rintro ⟨listable, -⟩
      rw [checkedEntry_eq_ok_iff.mpr ⟨listable, rfl⟩] at written
      contradiction
    | ok text =>
      obtain ⟨listable, rfl⟩ := checkedEntry_eq_ok_iff.mp written
      cases others : checkedEntries rest with
      | error fault =>
        simp only [reduceCtorEq, false_iff, not_and]
        rintro ⟨-, later⟩
        rw [ih.mpr ⟨later, rfl⟩] at others
        contradiction
      | ok texts =>
        obtain ⟨later, rfl⟩ := ih.mp others
        simp only [Except.ok.injEq, listable, true_and]
        exact ⟨fun same => ⟨later, same.symm⟩, fun encoded => encoded.2.symm⟩

theorem encode_eq_ok_iff {roles : List Role} {field : Text} :
    encode roles = .ok field ↔
      (∀ role ∈ roles, role.Listable) ∧ field = Text.join entrySeparator (roles.map entry) := by
  unfold encode
  cases written : checkedEntries roles with
  | error fault =>
    simp only [reduceCtorEq, false_iff, not_and]
    intro listable
    rw [checkedEntries_eq_ok_iff.mpr ⟨listable, rfl⟩] at written
    contradiction
  | ok entries =>
    obtain ⟨listable, rfl⟩ := checkedEntries_eq_ok_iff.mp written
    simp only [Except.ok.injEq]
    exact ⟨fun same => ⟨listable, same.symm⟩, fun encoded => encoded.2.symm⟩

theorem ofEntry_entry {role : Role} (listable : role.Listable) : ofEntry role.entry = .ok role := by
  have free := Percent.not_mem_encode (c := nameSeparator) (by decide) role.name
  simp only [ofEntry, entry, Text.cut_append_cons nameSeparator free, if_pos listable.address_valid,
    Percent.decode_encode listable.name_encodable]

theorem ofEntries_map_entry {roles : List Role} (listable : ∀ role ∈ roles, role.Listable) :
    ofEntries (roles.map entry) = .ok roles := by
  induction roles with
  | nil => rfl
  | cons role rest ih =>
    obtain ⟨first, later⟩ := List.forall_mem_cons.mp listable
    simp only [List.map_cons, ofEntries, ofEntry_entry first, ih later]

theorem decode_of_ne_nil {field : Text} (nonempty : field ≠ []) :
    decode field = ofEntries (Text.split entrySeparator field) := by
  rw [decode, List.isEmpty_eq_false_iff.mpr nonempty, if_neg (by decide)]

theorem join_entries_ne_nil (role : Role) (rest : List Role) :
    Text.join entrySeparator ((role :: rest).map entry) ≠ [] := by
  cases rest with
  | nil => exact entry_ne_nil role
  | cons next rest => simp [Text.join]

theorem not_isWebAddress_entry (role : Role) : isWebAddress role.entry = false := by
  have free := Percent.not_mem_encode (c := .char ':') (by decide) role.name
  -- The name separator comes before the first colon, and no scheme contains it.
  have separated : .char ':' ∉ Percent.encode role.name ++ [nameSeparator] := by
    simp [free, nameSeparator]
  have split : role.entry = (Percent.encode role.name ++ [nameSeparator]) ++ role.address := by
    simp [entry]
  apply isWebAddress_of_schemeless
  apply Url.cutScheme_of_foreign (c := nameSeparator) (by decide)
  rw [split, Text.cut_append ':' separated]
  simp

theorem not_isWebAddress_join (role : Role) (rest : List Role) :
    isWebAddress (Text.join entrySeparator ((role :: rest).map entry)) = false := by
  cases rest with
  | nil => exact not_isWebAddress_entry role
  | cons next rest =>
    have inside : entrySeparator ∈
        Text.join entrySeparator ((role :: next :: rest).map entry) := by
      simp [Text.join]
    apply Bool.eq_false_iff.mpr
    intro valid
    exact not_mem_of_isWebAddress (by decide) valid inside

/-- The field of a list gives the list back. -/
theorem decode_encode {roles : List Role} {field : Text} (encoded : encode roles = .ok field) :
    decode field = .ok roles := by
  obtain ⟨listable, rfl⟩ := encode_eq_ok_iff.mp encoded
  cases roles with
  | nil => rfl
  | cons role rest =>
    have free : ∀ piece ∈ (role :: rest).map entry, entrySeparator ∉ piece := by
      intro piece inside
      obtain ⟨known, listed, rfl⟩ := List.mem_map.mp inside
      exact not_mem_entry (by decide) (by decide) (by decide) (listable known listed).address_valid
    rw [decode_of_ne_nil (join_entries_ne_nil role rest),
      Text.split_join entrySeparator (by simp) free, ofEntries_map_entry listable]

end Role

/-! ## Well-formed tokens -/

/-- What a token's fields are when they are free of faults. -/
structure Admitted (variant : Variant) (common : Common) (contents : Contents) : Prop where
  carried : ∀ part, contents.holds part = true → variant.carries part = true
  issuedAt_nonneg : 0 ≤ common.issuedAt
  lifespan_pos : 0 < common.lifespan
  issuer_nonempty : common.issuer ≠ []
  scope_items : ∀ item ∈ contents.scope, Scope.isItem item = true
  target_valid : ∀ address, contents.target = some address → isWebAddress address = true
  originalIssuer_valid :
    ∀ address, contents.originalIssuer = some address → isWebAddress address = true

theorem Contents.strayFault?_eq_none_iff {contents : Contents} {variant : Variant} :
    contents.strayFault? variant = none ↔
      ∀ part, contents.holds part = true → variant.carries part = true := by
  simp only [strayFault?, Option.map_eq_none_iff, List.find?_eq_none, Bool.and_eq_true,
    Bool.not_eq_true', not_and, Bool.not_eq_false]
  exact ⟨fun all part => all part (Part.mem_all part), fun all part _ => all part⟩

theorem Common.fault?_eq_none_iff {common : Common} :
    common.fault? = none ↔ 0 ≤ common.issuedAt ∧ 0 < common.lifespan ∧ common.issuer ≠ [] := by
  unfold fault?
  split
  · next negative => simp; omega
  split
  · next short => simp; omega
  split
  · next empty => simp_all
  · next filled => simp_all

theorem Contents.scopeFault?_eq_none_iff {scope : List Text} :
    scopeFault? scope = none ↔ ∀ item ∈ scope, Scope.isItem item = true := by
  simp [scopeFault?]

theorem Contents.addressFault?_eq_none_iff {address : Option Text} :
    addressFault? address = none ↔ ∀ text, address = some text → isWebAddress text = true := by
  cases address with
  | none => simp [addressFault?]
  | some text => simp [addressFault?]

theorem formFault?_eq_none_iff {variant : Variant} {common : Common} {contents : Contents} :
    formFault? variant common contents = none ↔ Admitted variant common contents := by
  simp only [formFault?, Option.or_eq_none_iff, Contents.strayFault?_eq_none_iff,
    Common.fault?_eq_none_iff, Contents.scopeFault?_eq_none_iff,
    Contents.addressFault?_eq_none_iff]
  constructor
  · rintro ⟨carried, ⟨issuedAt, lifespan, issuer⟩, scope, target, original⟩
    exact ⟨carried, issuedAt, lifespan, issuer, scope, target, original⟩
  · rintro ⟨carried, issuedAt, lifespan, issuer, scope, target, original⟩
    exact ⟨carried, ⟨issuedAt, lifespan, issuer⟩, scope, target, original⟩

theorem Token.admitted (token : Token) : Admitted token.variant token.common token.contents :=
  formFault?_eq_none_iff.mp token.faultless

theorem Token.make_of_admitted {variant : Variant} {common : Common} {contents : Contents}
    (admitted : Admitted variant common contents) (common_normal : common.normal = common)
    (contents_normal : contents.normal = contents) :
    ∃ token, make variant common contents = .ok token ∧ token.variant = variant ∧
      token.common = common ∧ token.contents = contents := by
  have faultless := formFault?_eq_none_iff.mpr admitted
  refine ⟨⟨variant, common, contents, faultless, common_normal, contents_normal⟩, ?_, rfl, rfl, rfl⟩
  exact make_eq_ok_iff.mpr ⟨rfl, common_normal.symm, contents_normal.symm⟩

/-! ## Contents -/

theorem absentIfEmpty_getD (text : Option Text) :
    absentIfEmpty (some (text.getD [])) = absentIfEmpty text := by
  cases text <;> rfl

theorem getD_absentIfEmpty (text : Option Text) : (absentIfEmpty text).getD [] = text.getD [] := by
  match text with
  | none => rfl
  | some [] => rfl
  | some (_ :: _) => rfl

namespace Contents

/-- One part of the contents taken over from others. -/
def take (contents source : Contents) : Part → Contents
  | .scope => { contents with scope := source.scope }
  | .roles => { contents with roles := source.roles }
  | .target => { contents with target := source.target }
  | .originalIssuer => { contents with originalIssuer := source.originalIssuer }

theorem withField_field {source : Contents} {part : Part} {field : Text} (start : Contents)
    (items : ∀ item ∈ source.scope, Scope.isItem item = true) (normal : source.normal = source)
    (written : source.field part = .ok field) :
    start.withField part field = .ok (start.take source part) := by
  have target : absentIfEmpty source.target = source.target := congrArg Contents.target normal
  have original : absentIfEmpty source.originalIssuer = source.originalIssuer :=
    congrArg Contents.originalIssuer normal
  cases part with
  | scope =>
    obtain rfl := Except.ok.inj written
    simp only [withField, take, Scope.decode_encode items]
  | roles =>
    have decoded := Role.decode_encode written
    simp only [withField, take, decoded]
  | target =>
    obtain rfl := Except.ok.inj written
    simp only [withField, take, absentIfEmpty_getD, target]
  | originalIssuer =>
    obtain rfl := Except.ok.inj written
    simp only [withField, take, absentIfEmpty_getD, original]

theorem fields_cons_eq_ok_iff {contents : Contents} {part : Part} {layout : List Part}
    {fields : List Text} :
    contents.fields (part :: layout) = .ok fields ↔
      ∃ field rest, contents.field part = .ok field ∧ contents.fields layout = .ok rest ∧
        fields = field :: rest := by
  rw [Contents.fields]
  cases contents.field part with
  | error fault => simp
  | ok field =>
    cases contents.fields layout with
    | error fault => simp
    | ok rest => simp [eq_comm]

theorem length_fields {contents : Contents} {layout : List Part} {fields : List Text}
    (written : contents.fields layout = .ok fields) : fields.length = layout.length := by
  induction layout generalizing fields with
  | nil =>
    obtain rfl := Except.ok.inj written
    rfl
  | cons part layout ih =>
    obtain ⟨field, rest, _, later, rfl⟩ := fields_cons_eq_ok_iff.mp written
    rw [List.length_cons, List.length_cons, ih later]

/-- The fields of a layout give its parts back, one after the other. -/
theorem ofFields_fields {source : Contents} {layout : List Part} {fields : List Text}
    (start : Contents) (items : ∀ item ∈ source.scope, Scope.isItem item = true)
    (normal : source.normal = source) (written : source.fields layout = .ok fields) :
    start.ofFields layout fields =
      .ok (layout.foldl (fun contents part => contents.take source part) start) := by
  induction layout generalizing start fields with
  | nil => rfl
  | cons part layout ih =>
    obtain ⟨field, rest, first, later, rfl⟩ := fields_cons_eq_ok_iff.mp written
    rw [ofFields, withField_field start items normal first]
    exact ih (start.take source part) later

/-- Nothing is held outside the layout of a kind. -/
theorem foldl_take_layout {kind : Kind} {common : Common} {contents : Contents}
    (admitted : Admitted (.builtin kind) common contents) :
    kind.layout.foldl (fun sofar part => sofar.take contents part) empty = contents := by
  have scope := admitted.carried .scope
  have roles := admitted.carried .roles
  have target := admitted.carried .target
  have original := admitted.carried .originalIssuer
  -- A part outside the layout is empty in the contents and untouched by the fold.
  cases contents
  cases kind <;>
    simp_all [Kind.layout, Variant.carries, holds, take, empty]

end Contents

end SealedToken
