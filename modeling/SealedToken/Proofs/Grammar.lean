import Mathlib.Data.List.Forall2
import SealedToken.Proofs.RoundTrip

/-!
The grammar of credentials. Which fields a payload of a kind has, which texts each field admits, and
what they say of the token. Reading enforces the grammar in pieces, some where a field is read and
some where the token is made; together they accept just what the grammar admits.
-/

set_option autoImplicit false

namespace SealedToken

/-! ## Lists of pieces -/

namespace Text

/-- A text splits into pieces that are free of the separator and make it up. -/
theorem split_eq_iff {separator : CodePoint} {text : Text} {pieces : List Text}
    (nonempty : pieces ≠ []) :
    split separator text = pieces ↔
      (∀ piece ∈ pieces, separator ∉ piece) ∧ text = join separator pieces := by
  constructor
  · rintro rfl
    exact ⟨fun piece inside => free_of_mem_split separator inside, (join_split separator text).symm⟩
  · rintro ⟨free, rfl⟩
    exact split_join separator nonempty free

end Text

namespace Decimal

/-- Digits say zero only if all of them do. -/
theorem value_ne_zero_iff {digits : Text} (decimal : ∀ c ∈ digits, isDigit c = true) :
    value digits ≠ 0 ↔ ∃ c ∈ digits, c ≠ '0' := by
  have reversed : ∀ c ∈ digits.reverse, isDigit c = true := by simpa using decimal
  rw [value, Ne, lowValue_eq_zero_iff reversed]
  simp

end Decimal

/-! ## Fields of parts -/

/-- The field of a scope: its values, with single blanks between them. -/
structure Scope.Listed (field : Text) (scope : List Text) : Prop where
  items : ∀ item ∈ scope, isItem item = true
  written : field = Text.join separator scope

/-- The entry of a role: its name percent-coded in any way, and its address behind the first
separator. -/
structure Role.Entered (entry : Text) (role : Role) : Prop where
  address_valid : isWebAddress role.address = true
  written : ∃ name, nameSeparator ∉ name ∧ entrySeparator ∉ name ∧
    role.name = Percent.decode name ∧ entry = name ++ nameSeparator :: role.address

/-- The field of roles: an entry for each, with single blanks between them. -/
def Role.Listed (field : Text) (roles : List Role) : Prop :=
  ∃ entries, List.Forall₂ Entered entries roles ∧ field = Text.join entrySeparator entries

/-- The field of an address that may be absent. -/
def Addressed (field : Text) (address : Option Text) : Prop :=
  (field = [] ∧ address = none) ∨ (isWebAddress field = true ∧ address = some field)

/-- The texts that the field of a part may be. -/
def Part.Admits : Part → Text → Prop
  | .scope, field => ∃ scope, Scope.Listed field scope
  | .roles, field => ∃ roles, Role.Listed field roles
  | .target, field => field = [] ∨ isWebAddress field = true
  | .originalIssuer, field => field = [] ∨ isWebAddress field = true

/-- The contents hold what the field of a part says. -/
def Contents.Fits (contents : Contents) : Part → Text → Prop
  | .scope, field => Scope.Listed field contents.scope
  | .roles, field => Role.Listed field contents.roles
  | .target, field => Addressed field contents.target
  | .originalIssuer, field => Addressed field contents.originalIssuer

/-- The contents hold what reading makes of the field of a part, well-formed or not. -/
def Contents.Reads (contents : Contents) : Part → Text → Prop
  | .scope, field => contents.scope = Scope.decode field
  | .roles, field => Role.decode field = .ok contents.roles
  | .target, field => contents.target = absentIfEmpty (some field)
  | .originalIssuer, field => contents.originalIssuer = absentIfEmpty (some field)

namespace Scope

theorem listed_iff {field : Text} {scope : List Text} :
    Listed field scope ↔ scope = decode field ∧ ∀ item ∈ scope, isItem item = true := by
  constructor
  · rintro ⟨items, rfl⟩
    exact ⟨(decode_encode items).symm, items⟩
  · rintro ⟨rfl, items⟩
    refine ⟨items, ?_⟩
    by_cases empty : field = []
    · subst empty
      rfl
    · rw [decode_of_ne_nil empty, Text.join_split]

end Scope

namespace Role

theorem Entered.free {entry : Text} {role : Role} (entered : Entered entry role) :
    entrySeparator ∉ entry := by
  obtain ⟨name, _, free, _, rfl⟩ := entered.written
  have address := not_mem_of_isWebAddress (c := entrySeparator) (by decide) entered.address_valid
  have different : entrySeparator ≠ nameSeparator := by decide
  simp [free, address, different]

theorem Entered.ne_nil {entry : Text} {role : Role} (entered : Entered entry role) :
    entry ≠ [] := by
  obtain ⟨name, _, _, _, rfl⟩ := entered.written
  simp

theorem ofEntry_eq_ok_iff {entry : Text} {role : Role} (free : entrySeparator ∉ entry) :
    ofEntry entry = .ok role ↔ Entered entry role := by
  unfold ofEntry
  constructor
  · intro read
    split at read
    · contradiction
    · next name address found =>
      split at read
      · next valid =>
        obtain rfl := Except.ok.inj read
        obtain ⟨rfl, unseparated⟩ := Text.cut_eq_some_iff.mp found
        have blankless : entrySeparator ∉ name := fun inside =>
          free (List.mem_append_left _ inside)
        exact ⟨valid, name, unseparated, blankless, rfl, rfl⟩
      · contradiction
  · rintro ⟨valid, name, unseparated, _, decoded, rfl⟩
    rw [Text.cut_append_cons nameSeparator unseparated]
    simp only [if_pos valid, ← decoded]

theorem ofEntries_eq_ok_iff {entries : List Text} {roles : List Role}
    (free : ∀ entry ∈ entries, entrySeparator ∉ entry) :
    ofEntries entries = .ok roles ↔ List.Forall₂ Entered entries roles := by
  induction entries generalizing roles with
  | nil => simp [ofEntries, eq_comm]
  | cons entry rest ih =>
    obtain ⟨first, later⟩ := List.forall_mem_cons.mp free
    rw [ofEntries, List.forall₂_cons_left_iff]
    simp only [← ofEntry_eq_ok_iff first, ← ih later]
    cases ofEntry entry with
    | error fault => simp
    | ok role =>
      cases ofEntries rest with
      | error fault => simp
      | ok others => simp [eq_comm]

theorem free_of_entered {entries : List Text} {roles : List Role}
    (entered : List.Forall₂ Entered entries roles) :
    ∀ entry ∈ entries, entrySeparator ∉ entry :=
  ((List.forall₂_and_left _ _).mp (entered.imp fun _ _ known => ⟨known.free, known⟩)).1

theorem listed_iff {field : Text} {roles : List Role} :
    Listed field roles ↔ decode field = .ok roles := by
  constructor
  · rintro ⟨entries, entered, rfl⟩
    have free := free_of_entered entered
    cases entered with
    | nil => rfl
    | @cons entry role rest others first later =>
      have filled : Text.join entrySeparator (entry :: rest) ≠ [] := by
        cases rest with
        | nil => exact first.ne_nil
        | cons next rest => simp [Text.join]
      -- No entry holds a blank, so the field splits into the entries it was joined from.
      rw [decode_of_ne_nil filled, Text.split_join _ (List.cons_ne_nil _ _) free,
        ofEntries_eq_ok_iff free]
      exact .cons first later
  · intro read
    by_cases empty : field = []
    · subst empty
      obtain rfl := Except.ok.inj read
      exact ⟨[], .nil, rfl⟩
    · rw [decode_of_ne_nil empty, ofEntries_eq_ok_iff] at read
      · exact ⟨_, read, (Text.join_split _ _).symm⟩
      · intro entry inside
        exact Text.free_of_mem_split entrySeparator inside

end Role

theorem addressed_iff {field : Text} {address : Option Text} :
    Addressed field address ↔
      address = absentIfEmpty (some field) ∧
        ∀ text, address = some text → isWebAddress text = true := by
  constructor
  · rintro (⟨rfl, rfl⟩ | ⟨valid, rfl⟩)
    · exact ⟨rfl, by simp⟩
    · have filled := absentIfEmpty_eq_some_iff.mpr ⟨rfl, ne_nil_of_isWebAddress valid⟩
      exact ⟨filled.symm, by simp [valid]⟩
  · rintro ⟨rfl, valid⟩
    by_cases empty : field = []
    · exact .inl ⟨empty, by rw [empty]; rfl⟩
    · have filled := absentIfEmpty_eq_some_iff.mpr ⟨rfl, empty⟩
      exact .inr ⟨valid field filled, filled⟩

/-! ## Contents from fields -/

theorem Kind.nodup_layout (kind : Kind) : kind.layout.Nodup := by
  cases kind <;> decide

namespace Contents

/-- On contents that a token may have, reading a field and what it says are one. -/
theorem fits_iff_reads {variant : Variant} {common : Common} {contents : Contents}
    (admitted : Admitted variant common contents) {part : Part} {field : Text} :
    contents.Fits part field ↔ contents.Reads part field := by
  cases part with
  | scope => exact Scope.listed_iff.trans (and_iff_left admitted.scope_items)
  | roles => exact Role.listed_iff
  | target => exact addressed_iff.trans (and_iff_left admitted.target_valid)
  | originalIssuer => exact addressed_iff.trans (and_iff_left admitted.originalIssuer_valid)

theorem reads_normal {contents : Contents} {part : Part} {field : Text}
    (reads : contents.Reads part field) : contents.normal.Reads part field := by
  cases part with
  | scope | roles => exact reads
  | target | originalIssuer => exact (congrArg absentIfEmpty reads).trans (absentIfEmpty_idem _)

theorem withField_of_reads {contents : Contents} {part : Part} {field : Text} (start : Contents)
    (reads : contents.Reads part field) :
    start.withField part field = .ok (start.take contents part) := by
  cases part with
  | scope =>
    have read : contents.scope = Scope.decode field := reads
    rw [take, read, withField]
  | roles =>
    have read : Role.decode field = .ok contents.roles := reads
    simp only [withField, take, read]
  | target =>
    have read : contents.target = absentIfEmpty (some field) := reads
    rw [take, read, withField]
  | originalIssuer =>
    have read : contents.originalIssuer = absentIfEmpty (some field) := reads
    rw [take, read, withField]

/-- A field sets its own part and no other. -/
theorem withField_eq_ok {start contents : Contents} {part : Part} {field : Text}
    (read : start.withField part field = .ok contents) :
    contents.Reads part field ∧ contents = start.take contents part := by
  cases part with
  | roles =>
    simp only [withField] at read
    cases decoded : Role.decode field with
    | error fault => simp [decoded] at read
    | ok roles =>
      simp only [decoded, Except.ok.injEq] at read
      subst read
      exact ⟨decoded, rfl⟩
  | scope | target | originalIssuer =>
    obtain rfl := Except.ok.inj read
    exact ⟨rfl, rfl⟩

theorem reads_take_of_ne {contents source : Contents} {part other : Part} {field : Text}
    (different : other ≠ part) :
    (contents.take source part).Reads other field ↔ contents.Reads other field := by
  cases part <;> cases other <;> simp_all [take, Reads]

/-- What the fields of a layout set, the fields of other parts leave. -/
theorem reads_of_ofFields_of_not_mem {layout : List Part} {fields : List Text}
    {start contents : Contents} {part : Part} {field : Text} (outside : part ∉ layout)
    (read : start.ofFields layout fields = .ok contents) (reads : start.Reads part field) :
    contents.Reads part field := by
  induction layout generalizing start fields with
  | nil =>
    obtain rfl := Except.ok.inj read
    exact reads
  | cons other layout ih =>
    simp only [List.mem_cons, not_or] at outside
    cases fields with
    | nil =>
      obtain rfl := Except.ok.inj read
      exact reads
    | cons text fields =>
      rw [ofFields] at read
      cases set : start.withField other text with
      | error fault => simp [set] at read
      | ok next =>
        simp only [set] at read
        apply ih outside.2 read
        rw [(withField_eq_ok set).2, reads_take_of_ne outside.1]
        exact reads

theorem reads_of_ofFields {layout : List Part} {fields : List Text} {start contents : Contents}
    (distinct : layout.Nodup) (counted : fields.length = layout.length)
    (read : start.ofFields layout fields = .ok contents) :
    List.Forall₂ contents.Reads layout fields := by
  induction layout generalizing start fields with
  | nil =>
    obtain rfl := List.length_eq_zero_iff.mp counted
    exact .nil
  | cons part layout ih =>
    obtain ⟨outside, distinct⟩ := List.nodup_cons.mp distinct
    cases fields with
    | nil => contradiction
    | cons field fields =>
      rw [ofFields] at read
      cases set : start.withField part field with
      | error fault => simp [set] at read
      | ok next =>
        simp only [set] at read
        -- The fields behind this one are of other parts and leave what it set.
        refine .cons ?_ (ih distinct (Nat.succ.inj counted) read)
        exact reads_of_ofFields_of_not_mem outside read (withField_eq_ok set).1

theorem ofFields_of_reads {layout : List Part} {fields : List Text} {contents : Contents}
    (start : Contents) (reads : List.Forall₂ contents.Reads layout fields) :
    start.ofFields layout fields =
      .ok (layout.foldl (fun sofar part => sofar.take contents part) start) := by
  induction reads generalizing start with
  | nil => rfl
  | cons first later ih =>
    rw [ofFields, withField_of_reads start first]
    exact ih _

theorem fits_take_of_ne {contents source : Contents} {part other : Part} {field : Text}
    (different : other ≠ part) :
    (contents.take source part).Fits other field ↔ contents.Fits other field := by
  cases part <;> cases other <;> simp_all [take, Fits]

theorem fits_take_self {contents source : Contents} {part : Part} {field : Text} :
    (contents.take source part).Fits part field ↔ source.Fits part field := by
  cases part <;> rfl

/-- A part with an empty field is not held. -/
theorem holds_of_fits_nil {contents : Contents} {part : Part} (fits : contents.Fits part []) :
    contents.holds part = false := by
  cases part with
  | scope =>
    have empty : contents.scope = [] := (Scope.listed_iff.mp fits).1
    simp [holds, empty]
  | roles =>
    have empty : [] = contents.roles := Except.ok.inj (Role.listed_iff.mp fits)
    simp [holds, ← empty]
  | target =>
    have absent : contents.target = none := (addressed_iff.mp fits).1
    simp [holds, absent]
  | originalIssuer =>
    have absent : contents.originalIssuer = none := (addressed_iff.mp fits).1
    simp [holds, absent]

theorem exists_fits_of_admits {part : Part} {field : Text} (admits : part.Admits field) :
    ∃ contents : Contents, contents.Fits part field := by
  cases part with
  | scope =>
    obtain ⟨scope, listed⟩ := admits
    exact ⟨⟨scope, [], none, none⟩, listed⟩
  | roles =>
    obtain ⟨roles, listed⟩ := admits
    exact ⟨⟨[], roles, none, none⟩, listed⟩
  | target =>
    rcases admits with empty | valid
    · exact ⟨.empty, .inl ⟨empty, rfl⟩⟩
    · exact ⟨⟨[], [], some field, none⟩, .inr ⟨valid, rfl⟩⟩
  | originalIssuer =>
    rcases admits with empty | valid
    · exact ⟨.empty, .inl ⟨empty, rfl⟩⟩
    · exact ⟨⟨[], [], none, some field⟩, .inr ⟨valid, rfl⟩⟩

theorem admits_of_fits {contents : Contents} {part : Part} {field : Text}
    (fits : contents.Fits part field) : part.Admits field := by
  cases part with
  | scope => exact ⟨contents.scope, fits⟩
  | roles => exact ⟨contents.roles, fits⟩
  | target | originalIssuer =>
    exact Or.imp And.left And.left fits

theorem fits_nil_empty (part : Part) : empty.Fits part [] := by
  cases part with
  | scope => exact ⟨List.forall_mem_nil _, rfl⟩
  | roles => exact ⟨[], .nil, rfl⟩
  | target | originalIssuer => exact .inl ⟨rfl, rfl⟩

/-- Fields that the parts of a layout admit are said by some contents, which hold nothing else. -/
theorem exists_fits_of_forall₂ {layout : List Part} {fields : List Text} (distinct : layout.Nodup)
    (admits : List.Forall₂ Part.Admits layout fields) :
    ∃ contents : Contents, List.Forall₂ contents.Fits layout fields ∧
      ∀ part ∉ layout, contents.Fits part [] := by
  induction admits with
  | nil => exact ⟨empty, .nil, fun part _ => fits_nil_empty part⟩
  | @cons part field layout fields first later ih =>
    obtain ⟨outside, distinct⟩ := List.nodup_cons.mp distinct
    obtain ⟨contents, fits, rest⟩ := ih distinct
    obtain ⟨source, told⟩ := exists_fits_of_admits first
    -- The part is in no other place of the layout, so taking it over changes nothing said so far.
    refine ⟨contents.take source part, .cons (fits_take_self.mpr told) ?_, ?_⟩
    · have apart : ∀ other ∈ layout, other ≠ part :=
        fun other inside same => outside (same ▸ inside)
      exact ((List.forall₂_and_left _ _).mpr ⟨apart, fits⟩).imp fun other _ known =>
        (fits_take_of_ne known.1).mpr known.2
    · intro other beside
      simp only [List.mem_cons, not_or] at beside
      exact (fits_take_of_ne beside.1).mpr (rest other beside.2)

theorem exists_field_of_fits {contents : Contents} {layout : List Part} {fields : List Text}
    (fits : List.Forall₂ contents.Fits layout fields) :
    ∀ part ∈ layout, ∃ field ∈ fields, contents.Fits part field := by
  induction fits with
  | nil => exact List.forall_mem_nil _
  | @cons part field layout fields first _ ih =>
    refine List.forall_mem_cons.mpr ⟨⟨field, List.mem_cons_self, first⟩, fun other placed => ?_⟩
    obtain ⟨found, inside, fits⟩ := ih other placed
    exact ⟨found, List.mem_cons_of_mem field inside, fits⟩

theorem normal_of_fits {contents : Contents} (fits : ∀ part, ∃ field, contents.Fits part field) :
    contents.normal = contents := by
  obtain ⟨_, target⟩ := fits .target
  obtain ⟨_, original⟩ := fits .originalIssuer
  have target := (addressed_iff.mp target).1
  have original := (addressed_iff.mp original).1
  rw [normal, target, original, absentIfEmpty_idem, absentIfEmpty_idem, ← target, ← original]

theorem admitted_of_fits {kind : Kind} {common : Common} {contents : Contents}
    (sound : 0 ≤ common.issuedAt ∧ 0 < common.lifespan ∧ common.issuer ≠ [])
    (fits : ∀ part, ∃ field, contents.Fits part field)
    (rest : ∀ part ∉ kind.layout, contents.Fits part []) :
    Admitted (.builtin kind) common contents := by
  obtain ⟨issuedAt, lifespan, issuer⟩ := sound
  obtain ⟨_, scope⟩ := fits .scope
  obtain ⟨_, target⟩ := fits .target
  obtain ⟨_, original⟩ := fits .originalIssuer
  have carried : ∀ part, contents.holds part = true →
      (Variant.builtin kind).carries part = true := by
    intro part held
    by_contra uncarried
    rw [Variant.carries, List.contains_iff_mem] at uncarried
    rw [holds_of_fits_nil (rest part uncarried)] at held
    contradiction
  exact ⟨carried, issuedAt, lifespan, issuer, scope.items, (addressed_iff.mp target).2,
    (addressed_iff.mp original).2⟩

end Contents

/-! ## Payloads -/

namespace Wire

/-- The fields of a payload: five of them and the extension. -/
structure Fields where
  issuedAt : Text
  lifespan : Text
  subject : Text
  schema : Text
  issuer : Text
  extension : List Text

namespace Fields

def toList (fields : Fields) : List Text :=
  fields.issuedAt :: fields.lifespan :: fields.subject :: fields.schema :: fields.issuer ::
    fields.extension

/-- The payload consists of the fields, with single delimiters between them. -/
def Spell (fields : Fields) (payload : Text) : Prop :=
  (∀ field ∈ fields.toList, Payload.delimiter ∉ field) ∧
    payload = Text.join Payload.delimiter fields.toList

/-- Fields that stand for a token of a kind. -/
structure Grammatical (fields : Fields) (kind : Kind) : Prop where
  issuedAt : Decimal.Legible fields.issuedAt
  lifespan : Decimal.Legible fields.lifespan
  lifespan_nonzero : ∃ digit ∈ fields.lifespan, digit ≠ '0'
  issuer : fields.issuer ≠ []
  extension : List.Forall₂ Part.Admits kind.layout fields.extension

/-- The token that fields stand for: its issue time is written back to front, and what may be absent
is so where the field is empty. -/
structure Denote (fields : Fields) (kind : Kind) (token : Token) : Prop where
  variant : token.variant = .builtin kind
  issuedAt : token.common.issuedAt = Decimal.value fields.issuedAt.reverse
  lifespan : token.common.lifespan = Decimal.value fields.lifespan
  subject : token.common.subject = absentIfEmpty (some fields.subject)
  schema : token.common.schema = absentIfEmpty (some fields.schema)
  issuer : token.common.issuer = fields.issuer
  extension : List.Forall₂ token.contents.Fits kind.layout fields.extension

theorem spell_iff {fields : Fields} {payload : Text} :
    fields.Spell payload ↔ Text.split Payload.delimiter payload = fields.toList :=
  (Text.split_eq_iff (List.cons_ne_nil _ _)).symm

/-- The common fields of the token. -/
def common (fields : Fields) : Common :=
  commonOf fields.issuedAt fields.lifespan fields.subject fields.schema fields.issuer

theorem common_normal (fields : Fields) : fields.common.normal = fields.common := by
  simp [common, commonOf, Common.normal, absentIfEmpty_idem]

theorem denote_iff {fields : Fields} {kind : Kind} {token : Token} :
    fields.Denote kind token ↔
      token.variant = .builtin kind ∧ token.common = fields.common ∧
        List.Forall₂ token.contents.Fits kind.layout fields.extension := by
  constructor
  · rintro ⟨variant, issuedAt, lifespan, subject, schema, issuer, extension⟩
    refine ⟨variant, ?_, extension⟩
    rw [common, commonOf, ← issuedAt, ← lifespan, ← subject, ← schema, ← issuer]
  · rintro ⟨variant, same, extension⟩
    refine ⟨variant, ?_, ?_, ?_, ?_, ?_, extension⟩
    all_goals rw [same]; rfl

theorem numbersLegible_iff {fields : Fields} :
    NumbersLegible fields.issuedAt fields.lifespan ↔
      Decimal.Legible fields.issuedAt ∧ Decimal.Legible fields.lifespan ∧
        ∃ digit ∈ fields.lifespan, digit ≠ '0' := by
  constructor
  · rintro ⟨issuedAt, lifespan, nonzero⟩
    exact ⟨issuedAt, lifespan, (Decimal.value_ne_zero_iff lifespan.digits).mp nonzero⟩
  · rintro ⟨issuedAt, lifespan, nonzero⟩
    exact ⟨issuedAt, lifespan, (Decimal.value_ne_zero_iff lifespan.digits).mpr nonzero⟩

theorem readPayload_eq_ok_iff_spell {payload : Text} {extensions : Nat} {common : Common}
    {extension : List Text} :
    readPayload payload extensions = .ok (common, extension) ↔
      ∃ fields : Fields, fields.Spell payload ∧ fields.extension = extension ∧
        extension.length = extensions ∧ NumbersLegible fields.issuedAt fields.lifespan ∧
          common = fields.common := by
  rw [readPayload_eq_ok_iff]
  constructor
  · rintro ⟨a, b, c, d, e, split, counted, legible, same⟩
    exact ⟨⟨a, b, c, d, e, extension⟩, spell_iff.mpr split, rfl, counted, legible, same⟩
  · rintro ⟨⟨a, b, c, d, e, _⟩, spelled, rfl, counted, legible, same⟩
    exact ⟨a, b, c, d, e, spell_iff.mp spelled, counted, legible, same⟩

theorem common_sound {fields : Fields} {kind : Kind} (grammatical : fields.Grammatical kind) :
    0 ≤ fields.common.issuedAt ∧ 0 < fields.common.lifespan ∧ fields.common.issuer ≠ [] := by
  have nonzero :=
    (Decimal.value_ne_zero_iff grammatical.lifespan.digits).mpr grammatical.lifespan_nonzero
  exact ⟨Int.natCast_nonneg _, Int.natCast_pos.mpr (Nat.pos_of_ne_zero nonzero),
    grammatical.issuer⟩

/-- Fields that are grammatical stand for a token. -/
theorem Grammatical.exists_token {fields : Fields} {kind : Kind}
    (grammatical : fields.Grammatical kind) : ∃ token, fields.Denote kind token := by
  obtain ⟨contents, fits, rest⟩ :=
    Contents.exists_fits_of_forall₂ kind.nodup_layout grammatical.extension
  have every : ∀ part, ∃ field, contents.Fits part field := by
    -- A part outside the layout is as if its field were empty.
    intro part
    by_cases carried : part ∈ kind.layout
    · obtain ⟨field, _, known⟩ := Contents.exists_field_of_fits fits part carried
      exact ⟨field, known⟩
    · exact ⟨[], rest part carried⟩
  have admitted := Contents.admitted_of_fits (common_sound grammatical) every rest
  obtain ⟨token, _, variant, common, same⟩ :=
    Token.make_of_admitted admitted fields.common_normal (Contents.normal_of_fits every)
  exact ⟨token, denote_iff.mpr ⟨variant, common, same ▸ fits⟩⟩

end Fields

end Wire

namespace Variant

variable {kind : Kind} {payload : Text} {token : Token}

theorem grammatical_of_ofPayload (read : (Variant.builtin kind).ofPayload payload = .ok token) :
    ∃ fields : Wire.Fields, fields.Spell payload ∧ fields.Grammatical kind ∧
      fields.Denote kind token := by
  obtain ⟨common, extension, contents, found, parts, made⟩ := ofPayload_eq_ok_iff.mp read
  obtain ⟨fields, spelled, rfl, counted, legible, rfl⟩ :=
    Wire.Fields.readPayload_eq_ok_iff_spell.mp found
  obtain ⟨variant, same, normal⟩ := Token.make_eq_ok_iff.mp made
  have admitted := token.admitted
  -- Making the token checks what reading the fields let pass.
  have reads := Contents.reads_of_ofFields kind.nodup_layout counted parts
  have fits : List.Forall₂ token.contents.Fits kind.layout fields.extension :=
    reads.imp fun part field known =>
      (Contents.fits_iff_reads admitted).mpr (normal ▸ Contents.reads_normal known)
  obtain ⟨issuedAt, lifespan, nonzero⟩ := Wire.Fields.numbersLegible_iff.mp legible
  rw [fields.common_normal] at same
  have named : fields.issuer ≠ [] := by
    have issuer := admitted.issuer_nonempty
    rwa [same] at issuer
  exact ⟨fields, spelled,
    ⟨issuedAt, lifespan, nonzero, named, fits.imp fun _ _ known => Contents.admits_of_fits known⟩,
    Wire.Fields.denote_iff.mpr ⟨variant, same, fits⟩⟩

theorem ofPayload_of_grammatical {fields : Wire.Fields} (spelled : fields.Spell payload)
    (grammatical : fields.Grammatical kind) (denoted : fields.Denote kind token) :
    (Variant.builtin kind).ofPayload payload = .ok token := by
  obtain ⟨variant, common, fits⟩ := Wire.Fields.denote_iff.mp denoted
  have admitted := token.admitted
  rw [variant] at admitted
  have legible := Wire.Fields.numbersLegible_iff.mpr
    ⟨grammatical.issuedAt, grammatical.lifespan, grammatical.lifespan_nonzero⟩
  have found : Wire.readPayload payload (Variant.builtin kind).extensionCount =
      .ok (token.common, fields.extension) :=
    Wire.Fields.readPayload_eq_ok_iff_spell.mpr
      ⟨fields, spelled, rfl, fits.length_eq.symm, legible, common⟩
  -- The fields give the parts of the layout, and the token holds no others.
  have parts : Contents.empty.ofFields (Variant.builtin kind).layout fields.extension =
      .ok token.contents := by
    have reads := fits.imp fun part field known => (Contents.fits_iff_reads admitted).mp known
    exact (Contents.ofFields_of_reads .empty reads).trans
      (congrArg Except.ok (Contents.foldl_take_layout admitted))
  have made : Token.make (.builtin kind) token.common token.contents = .ok token := by
    rw [← variant]
    exact token.make_self
  exact ofPayload_eq_ok_iff.mpr ⟨_, _, token.contents, found, parts, made⟩

theorem opened?_some_iff {variant : Variant} {resolver : Resolver} {text issuer : Text}
    (named : issuer ≠ []) :
    variant.opened? resolver (some text) (some issuer) = some payload ↔
      ∃ body, text = variant.mark ++ body ∧
        (Sealing.unsealFor resolver issuer body).result = .ok payload := by
  rw [opened?_eq_some_iff]
  constructor
  · rintro ⟨name, key, nonce, same, _, sealable, found⟩
    obtain rfl := Option.some.inj same
    exact ⟨_, Option.some.inj found, Sealing.unsealFor_sealed sealable nonce⟩
  · rintro ⟨body, rfl, unsealed⟩
    obtain ⟨key, nonce, sealable, rfl⟩ := Sealing.unsealFor_eq_ok_iff.mp unsealed
    exact ⟨issuer, key, nonce, rfl, named, sealable, rfl⟩

/-- What stands behind the mark opens for the issuer, and the payload consists of the fields. -/
def OpensTo (variant : Variant) (resolver : Resolver) (text issuer : Text) (fields : Wire.Fields) :
    Prop :=
  ∃ body payload, text = variant.mark ++ body ∧
    (Sealing.unsealFor resolver issuer body).result = .ok payload ∧ fields.Spell payload

theorem parse_eq_ok_iff_denote {resolver : Resolver} {text issuer : Text} (named : issuer ≠ []) :
    ((Variant.builtin kind).parse resolver (some text) (some issuer)).result = .ok token ↔
      ∃ fields, (Variant.builtin kind).OpensTo resolver text issuer fields ∧
        fields.Grammatical kind ∧ fields.Denote kind token := by
  simp only [parse_eq_ok_iff, opened?_some_iff named]
  constructor
  · rintro ⟨payload, ⟨body, rfl, unsealed⟩, read⟩
    obtain ⟨fields, spelled, known⟩ := grammatical_of_ofPayload read
    exact ⟨fields, ⟨body, payload, rfl, unsealed, spelled⟩, known⟩
  · rintro ⟨fields, ⟨body, payload, rfl, unsealed, spelled⟩, grammatical, denoted⟩
    exact ⟨payload, ⟨body, rfl, unsealed⟩, ofPayload_of_grammatical spelled grammatical denoted⟩

/-- A kind accepts a text for an issuer exactly if it opens to grammatical fields of the kind, and
the token is the one that the fields stand for. -/
theorem parse_iff_grammatical {kind : Kind} {resolver : Resolver} {text issuer : Text}
    (named : issuer ≠ []) :
    ((∃ token,
        ((Variant.builtin kind).parse resolver (some text) (some issuer)).result = .ok token) ↔
          ∃ fields, (Variant.builtin kind).OpensTo resolver text issuer fields ∧
            fields.Grammatical kind) ∧
      ∀ token,
        ((Variant.builtin kind).parse resolver (some text) (some issuer)).result = .ok token ↔
          ∃ fields, (Variant.builtin kind).OpensTo resolver text issuer fields ∧
            fields.Grammatical kind ∧ fields.Denote kind token := by
  refine ⟨?_, fun token => parse_eq_ok_iff_denote named⟩
  simp only [parse_eq_ok_iff_denote named]
  constructor
  · rintro ⟨token, fields, opens, grammatical, _⟩
    exact ⟨fields, opens, grammatical⟩
  · rintro ⟨fields, opens, grammatical⟩
    obtain ⟨token, denoted⟩ := grammatical.exists_token
    exact ⟨token, fields, opens, grammatical, denoted⟩

theorem parse_iff_grammatical_visitor :
    Sample.issuer ≠ [] ∧
      ∃ fields, (Variant.builtin .visitorRefresh).OpensTo Sample.secret.resolver
          (Kind.visitorRefresh.mark ++ Sealing.sealed (Sample.secret.keyFor Sample.issuer)
            Sample.issuer Sample.visitorPayload Sample.source.nonce) Sample.issuer fields ∧
        fields.Grammatical .visitorRefresh ∧ fields.Denote .visitorRefresh Sample.visitor := by
  have named : Sample.issuer ≠ [] := by decide
  have sealable := Sample.sealable_visitor named (by decide)
  have parsed := parse_sealed named sealable (.builtin .visitorRefresh) Sample.source.nonce
  have read := ofPayload_payload rfl Sample.payload_visitor
  exact ⟨named, ((parse_iff_grammatical named).2 _).mp (parsed.trans read)⟩

end Variant

end SealedToken
