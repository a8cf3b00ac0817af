import SealedToken.Proofs.Grammar
import SealedToken.Proofs.Resealing

/-!
Lists of roles and their fields. A list is written whole or not at all, and a field is read whole or
not at all. Either way the first item at fault is blamed, and reading a token passes the blame on.
-/

set_option autoImplicit false

namespace SealedToken

/-! ## The first item at fault -/

/-- An item of a list is at fault, and those before it are sound. -/
def FirstAtFault {Item Fault : Type} (sound : Item → Prop) (faulty : Item → Fault → Prop)
    (items : List Item) (fault : Fault) : Prop :=
  ∃ before item after, items = before ++ item :: after ∧ (∀ earlier ∈ before, sound earlier) ∧
    faulty item fault

section FirstAtFault

variable {Item Fault : Type} {sound : Item → Prop} {faulty : Item → Fault → Prop} {fault : Fault}

theorem not_firstAtFault_nil : ¬ FirstAtFault sound faulty [] fault := by
  rintro ⟨before, item, after, same, _⟩
  cases before <;> contradiction

theorem firstAtFault_cons_iff {item : Item} {rest : List Item} :
    FirstAtFault sound faulty (item :: rest) fault ↔
      faulty item fault ∨ sound item ∧ FirstAtFault sound faulty rest fault := by
  constructor
  · rintro ⟨before, found, after, same, earlier, blamed⟩
    -- Nothing before the item at fault makes it the first of all.
    cases before with
    | nil =>
      obtain ⟨rfl, rfl⟩ := List.cons.inj same
      exact .inl blamed
    | cons first before =>
      obtain ⟨rfl, rfl⟩ := List.cons.inj same
      obtain ⟨first, later⟩ := List.forall_mem_cons.mp earlier
      exact .inr ⟨first, before, found, after, rfl, later, blamed⟩
  · rintro (blamed | ⟨first, before, found, after, rfl, later, blamed⟩)
    · exact ⟨[], item, rest, rfl, List.forall_mem_nil _, blamed⟩
    · exact ⟨item :: before, found, after, rfl, List.forall_mem_cons.mpr ⟨first, later⟩, blamed⟩

end FirstAtFault

/-! ## Writing lists -/

theorem checkAddress_eq_error_iff {address : Text} {fault : ReferenceFault} :
    checkAddress address = .error fault ↔
      isWebAddress address = false ∧ fault = .malformed address := by
  unfold checkAddress
  split
  · next valid => simp [valid]
  · next invalid => simp [invalid, eq_comm]

namespace Role

/-- Why a role has no entry: its address is no web address, or else its name has no UTF-8 form. -/
inductive Unlisted (role : Role) : RoleFault → Prop where
  | address (invalid : isWebAddress role.address = false) :
      Unlisted role (.reference (.malformed role.address))
  | name (valid : isWebAddress role.address = true) {fault : EncodingFault}
      (found : role.name.encodingFault? = some fault) : Unlisted role (.unencodable fault)

theorem checkedEntry_eq_error_iff {role : Role} {fault : RoleFault} :
    role.checkedEntry = .error fault ↔ role.Unlisted fault := by
  constructor
  · intro failed
    unfold checkedEntry at failed
    cases checked : checkAddress role.address with
    | error found =>
      obtain ⟨invalid, rfl⟩ := checkAddress_eq_error_iff.mp checked
      rw [checked] at failed
      obtain rfl := Except.error.inj failed
      exact .address invalid
    | ok =>
      rw [checked] at failed
      cases coded : Percent.encode? role.name with
      | ok name => simp [coded] at failed
      | error found =>
        simp only [coded, Except.error.injEq] at failed
        subst failed
        exact .name (checkAddress_eq_ok_iff.mp checked) (Percent.encode?_eq_error_iff.mp coded)
  · rintro (invalid | ⟨valid, found⟩)
    · rw [checkedEntry, checkAddress_eq_error_iff.mpr ⟨invalid, rfl⟩]
    · rw [checkedEntry, checkAddress_eq_ok_iff.mpr valid]
      simp only [Percent.encode?_eq_error_iff.mpr found]

theorem checkedEntries_eq_error_iff {roles : List Role} {fault : RoleFault} :
    checkedEntries roles = .error fault ↔ FirstAtFault Listable Unlisted roles fault := by
  induction roles with
  | nil => exact iff_of_false nofun not_firstAtFault_nil
  | cons role rest ih =>
    rw [firstAtFault_cons_iff, ← ih, ← checkedEntry_eq_error_iff, checkedEntries]
    cases written : role.checkedEntry with
    | error found =>
      have unlisted : ¬ role.Listable := by
        intro listable
        rw [checkedEntry_eq_ok_iff.mpr ⟨listable, rfl⟩] at written
        contradiction
      simp [unlisted]
    | ok text =>
      have listable := (checkedEntry_eq_ok_iff.mp written).1
      cases checkedEntries rest <;> simp [listable]

theorem encode_eq_error_iff {roles : List Role} {fault : RoleFault} :
    encode roles = .error fault ↔ FirstAtFault Listable Unlisted roles fault := by
  rw [← checkedEntries_eq_error_iff, encode]
  cases checkedEntries roles <;> simp

/-- Roles with names that can be encoded are listed up to the first address that is none. -/
theorem exists_first_address {roles : List Role}
    (named : ∀ role ∈ roles, role.name.isEncodable = true)
    (refused : ∃ role ∈ roles, isWebAddress role.address = false) :
    ∃ before role after, roles = before ++ role :: after ∧
      (∀ earlier ∈ before, isWebAddress earlier.address = true) ∧
      isWebAddress role.address = false ∧
      encode roles = .error (.reference (.malformed role.address)) := by
  cases encoded : encode roles with
  | ok field =>
    obtain ⟨role, listed, invalid⟩ := refused
    rw [((encode_eq_ok_iff.mp encoded).1 role listed).address_valid] at invalid
    contradiction
  | error fault =>
    obtain ⟨before, role, after, rfl, earlier, unlisted⟩ := encode_eq_error_iff.mp encoded
    cases unlisted with
    | address invalid =>
      exact ⟨before, role, after, rfl, fun other inside => (earlier other inside).address_valid,
        invalid, rfl⟩
    | name valid found =>
      have encodable := named role (List.mem_append_right before List.mem_cons_self)
      rw [Text.encodingFault?_eq_none_iff.mpr encodable] at found
      contradiction

/-- Only the empty list has an empty field. -/
theorem encode_eq_nil_iff {roles : List Role} {field : Text} (encoded : encode roles = .ok field) :
    field = [] ↔ roles = [] := by
  obtain ⟨_, rfl⟩ := encode_eq_ok_iff.mp encoded
  cases roles with
  | nil => exact iff_of_true rfl rfl
  | cons role rest => exact iff_of_false (join_entries_ne_nil role rest) (List.cons_ne_nil _ _)

end Role

namespace RoleItem

theorem mapM_checkedEntry_map_role (roles : List Role) :
    (roles.map RoleItem.role).mapM checkedEntry = (Role.checkedEntries roles).mapError .role := by
  induction roles with
  | nil => rfl
  | cons role rest ih =>
    rw [List.map_cons, List.mapM_cons, ih, Role.checkedEntries, checkedEntry]
    cases role.checkedEntry with
    | error fault => rfl
    | ok entry => cases Role.checkedEntries rest <;> rfl

/-- A list of nothing but roles is written as the roles are. -/
theorem encode_map_role (roles : List Role) :
    encode (roles.map RoleItem.role) = (Role.encode roles).mapError .role := by
  rw [encode, mapM_checkedEntry_map_role, Role.encode]
  cases Role.checkedEntries roles <;> rfl

end RoleItem

namespace Role

/-- Roles with web addresses have a field, free of tabs, that gives them back whatever their names
are, as long as these have a UTF-8 form; otherwise the first address that is none is blamed. Names
without such a form take part in the blame: the first role at fault counts, and of a role the
address comes first. -/
theorem encode_decodes_or_blames_first (roles : List Role) :
    ((∀ role ∈ roles, role.name.isEncodable = true) →
      ((∀ role ∈ roles, isWebAddress role.address = true) →
        ∃ field, encode roles = .ok field ∧ .char '\t' ∉ field ∧ (field = [] ↔ roles = []) ∧
          decode field = .ok roles) ∧
      ((∃ role ∈ roles, isWebAddress role.address = false) →
        ∃ before role after, roles = before ++ role :: after ∧
          (∀ earlier ∈ before, isWebAddress earlier.address = true) ∧
          isWebAddress role.address = false ∧
          encode roles = .error (.reference (.malformed role.address)))) ∧
    (∀ fault, encode roles = .error fault ↔ FirstAtFault Listable Unlisted roles fault) ∧
    RoleItem.encode (roles.map RoleItem.role) = (encode roles).mapError .role := by
  refine ⟨fun named => ⟨fun valid => ?_, exists_first_address named⟩,
    fun fault => encode_eq_error_iff, RoleItem.encode_map_role roles⟩
  have encoded := encode_eq_ok_iff.mpr
    ⟨fun role listed => ⟨valid role listed, named role listed⟩, rfl⟩
  exact ⟨_, encoded, delimiter_not_mem_encode encoded, encode_eq_nil_iff encoded,
    decode_encode encoded⟩

end Role

namespace Sample

/-- Roles with separators and controls in their names and addresses; one has no name. -/
def listed : List Role :=
  [⟨"a b;c%\t\x01é", "http://h/;%20"⟩, ⟨[], "https://h"⟩]

/-- Roles of which the second and the third have no web address. -/
def unlisted : List Role := [⟨[], "http://h"⟩, ⟨[], "h"⟩, ⟨[], []⟩]

end Sample

namespace Role

theorem encode_decodes_or_blames_first_sample :
    (∃ field, encode Sample.listed = .ok field ∧ .char '\t' ∉ field ∧ field ≠ [] ∧
        decode field = .ok Sample.listed) ∧
      ∃ role ∈ Sample.unlisted,
        encode Sample.unlisted = .error (.reference (.malformed role.address)) := by
  constructor
  · obtain ⟨field, encoded, free, empty, decoded⟩ :=
      ((encode_decodes_or_blames_first Sample.listed).1 (by decide)).1 (by decide)
    exact ⟨field, encoded, free, mt empty.mp (List.cons_ne_nil _ _), decoded⟩
  · obtain ⟨before, role, after, same, _, _, refused⟩ :=
      ((encode_decodes_or_blames_first Sample.unlisted).1 (by decide)).2 (by decide)
    exact ⟨role, same ▸ List.mem_append_right before List.mem_cons_self, refused⟩

/-! ## Reading fields -/

/-- The entries of a field; the empty field has none. -/
def entriesOf (field : Text) : List Text :=
  if field.isEmpty then [] else Text.split entrySeparator field

/-- An entry whose first separator is followed by a web address. -/
def EntrySound (entry : Text) : Prop :=
  ∃ name address, nameSeparator ∉ name ∧ entry = name ++ nameSeparator :: address ∧
    isWebAddress address = true

/-- What an entry is blamed for: it lacks the separator, or what follows the first is no web
address. -/
inductive EntryFaulty (entry : Text) : ReferenceFault → Prop where
  | unseparated (missing : nameSeparator ∉ entry) : EntryFaulty entry (.unseparated entry)
  | malformed {name address : Text} (free : nameSeparator ∉ name)
      (written : entry = name ++ nameSeparator :: address)
      (invalid : isWebAddress address = false) : EntryFaulty entry (.malformed address)

theorem decode_eq_ofEntries (field : Text) : decode field = ofEntries (entriesOf field) := by
  unfold decode entriesOf
  split
  · rfl
  · rfl

theorem free_of_mem_entriesOf {field entry : Text} (inside : entry ∈ entriesOf field) :
    entrySeparator ∉ entry := by
  unfold entriesOf at inside
  split at inside
  · contradiction
  · exact Text.free_of_mem_split entrySeparator inside

theorem entrySound_or_faulty (entry : Text) :
    EntrySound entry ∨ ∃ fault, EntryFaulty entry fault := by
  by_cases separated : nameSeparator ∈ entry
  · obtain ⟨name, address, written, free⟩ := List.eq_append_cons_of_mem separated
    cases valid : isWebAddress address with
    | true => exact .inl ⟨name, address, free, written, valid⟩
    | false => exact .inr ⟨_, .malformed free written valid⟩
  · exact .inr ⟨_, .unseparated separated⟩

theorem EntrySound.exists_role {entry : Text} (sound : EntrySound entry) :
    ∃ role, ofEntry entry = .ok role := by
  obtain ⟨name, address, free, rfl, valid⟩ := sound
  rw [ofEntry, Text.cut_append_cons nameSeparator free]
  exact ⟨_, if_pos valid⟩

theorem EntryFaulty.ofEntry_eq {entry : Text} {fault : ReferenceFault}
    (faulty : EntryFaulty entry fault) : ofEntry entry = .error fault := by
  cases faulty with
  | unseparated missing => rw [ofEntry, Text.cut_of_free nameSeparator missing]
  | malformed free written invalid =>
    rw [written, ofEntry, Text.cut_append_cons nameSeparator free]
    exact if_neg (Bool.eq_false_iff.mp invalid)

/-- What is not sound is faulty, so what an entry comes to tells which of the two it is. -/
theorem exists_ofEntry_iff {entry : Text} :
    (∃ role, ofEntry entry = .ok role) ↔ EntrySound entry := by
  constructor
  · rintro ⟨role, read⟩
    rcases entrySound_or_faulty entry with sound | ⟨fault, faulty⟩
    · exact sound
    · rw [faulty.ofEntry_eq] at read
      contradiction
  · exact EntrySound.exists_role

theorem ofEntry_eq_error_iff {entry : Text} {fault : ReferenceFault} :
    ofEntry entry = .error fault ↔ EntryFaulty entry fault := by
  constructor
  · intro refused
    rcases entrySound_or_faulty entry with sound | ⟨found, faulty⟩
    · obtain ⟨role, read⟩ := sound.exists_role
      rw [read] at refused
      contradiction
    · rw [faulty.ofEntry_eq] at refused
      exact Except.error.inj refused ▸ faulty
  · exact EntryFaulty.ofEntry_eq

theorem exists_ofEntries_iff {entries : List Text} :
    (∃ roles, ofEntries entries = .ok roles) ↔ ∀ entry ∈ entries, EntrySound entry := by
  induction entries with
  | nil => exact iff_of_true ⟨[], rfl⟩ (List.forall_mem_nil _)
  | cons entry rest ih =>
    rw [List.forall_mem_cons, ← ih, ← exists_ofEntry_iff, ofEntries]
    cases ofEntry entry with
    | error fault => simp
    | ok role =>
      cases ofEntries rest with
      | error fault => simp
      | ok roles => simp

theorem ofEntries_eq_error_iff {entries : List Text} {fault : ReferenceFault} :
    ofEntries entries = .error fault ↔ FirstAtFault EntrySound EntryFaulty entries fault := by
  induction entries with
  | nil => exact iff_of_false nofun not_firstAtFault_nil
  | cons entry rest ih =>
    rw [firstAtFault_cons_iff, ← ih, ← exists_ofEntry_iff, ← ofEntry_eq_error_iff, ofEntries]
    -- A fault of the first entry hides those of the rest; without one, theirs come through.
    cases ofEntry entry with
    | error found => simp
    | ok role =>
      cases ofEntries rest with
      | error found => simp
      | ok roles => simp

end Role

/-! ## Reading tokens -/

namespace Contents

/-- Only roles are refused. -/
theorem exists_withField_of_ne {part : Part} (other : part ≠ .roles) (contents : Contents)
    (field : Text) : ∃ next, contents.withField part field = .ok next := by
  cases part with
  | roles => exact absurd rfl other
  | scope | target | originalIssuer => exact ⟨_, rfl⟩

theorem withField_roles_of_error {field : Text} {fault : ReferenceFault}
    (refused : Role.decode field = .error fault) (contents : Contents) :
    contents.withField .roles field = .error fault := by
  simp only [withField, refused]

/-- A roles field that is refused is what the fields of a layout are refused for. -/
theorem ofFields_of_misread {layout : List Part} {fields : List Text} {field : Text}
    {fault : ReferenceFault} (start : Contents) (distinct : layout.Nodup)
    (placed : (Part.roles, field) ∈ layout.zip fields)
    (refused : Role.decode field = .error fault) :
    start.ofFields layout fields = .error fault := by
  induction layout generalizing start fields with
  | nil => contradiction
  | cons part layout ih =>
    obtain ⟨outside, distinct⟩ := List.nodup_cons.mp distinct
    cases fields with
    | nil => contradiction
    | cons text fields =>
      rw [List.zip_cons_cons, List.mem_cons] at placed
      rw [ofFields]
      rcases placed with here | later
      · obtain ⟨rfl, rfl⟩ := Prod.mk.inj here
        rw [withField_roles_of_error refused]
      · -- The field before the roles is of another part, so it is read.
        have other : part ≠ .roles := fun same => outside (same ▸ (List.of_mem_zip later).1)
        obtain ⟨next, read⟩ := exists_withField_of_ne other start text
        rw [read]
        exact ih next distinct later

end Contents

/-- Fields of a kind with legible numbers and the given field of roles; the others are arbitrary. -/
structure Wire.Fields.Carries (fields : Wire.Fields) (kind : Kind) (roles : Text) : Prop where
  numbers : NumbersLegible fields.issuedAt fields.lifespan
  counted : fields.extension.length = kind.layout.length
  placed : (Part.roles, roles) ∈ kind.layout.zip fields.extension

namespace Variant

variable {kind : Kind} {resolver : Resolver} {text issuer roles : Text} {fields : Wire.Fields}
  {fault : ReferenceFault}

theorem OpensTo.exists_payload {variant : Variant} (named : issuer ≠ [])
    (opens : variant.OpensTo resolver text issuer fields) :
    ∃ payload, variant.opened? resolver (some text) (some issuer) = some payload ∧
      fields.Spell payload := by
  obtain ⟨body, payload, written, unsealed, spelled⟩ := opens
  exact ⟨payload, (opened?_some_iff named).mpr ⟨body, written, unsealed⟩, spelled⟩

theorem ofPayload_of_misread {payload : Text} (spelled : fields.Spell payload)
    (carries : fields.Carries kind roles) (refused : Role.decode roles = .error fault) :
    (Variant.builtin kind).ofPayload payload = .error (.rejected (.badReference fault)) := by
  have read : Wire.readPayload payload (Variant.builtin kind).extensionCount =
      .ok (fields.common, fields.extension) :=
    Wire.Fields.readPayload_eq_ok_iff_spell.mpr
      ⟨fields, spelled, rfl, carries.counted, carries.numbers, rfl⟩
  have misread : Contents.empty.ofFields (Variant.builtin kind).layout fields.extension =
      .error fault :=
    Contents.ofFields_of_misread .empty kind.nodup_layout carries.placed refused
  rw [ofPayload, read]
  simp only [tokenOf, misread]

theorem parse_of_misread (named : issuer ≠ [])
    (opens : (Variant.builtin kind).OpensTo resolver text issuer fields)
    (carries : fields.Carries kind roles) (refused : Role.decode roles = .error fault) :
    ((Variant.builtin kind).parse resolver (some text) (some issuer)).result =
        .error (.rejected (.badReference fault)) ∧
      (Registry.standard.parse resolver (some text) (some issuer)).result =
        .error (.rejected (.badReference fault)) := by
  obtain ⟨payload, opened, spelled⟩ := opens.exists_payload named
  have parsed := (parse_of_opened? opened).trans (ofPayload_of_misread spelled carries refused)
  obtain ⟨body, _, rfl, _⟩ := opens
  rw [Registry.parse_mark_append (Registry.builtin_mem_standard kind)]
  exact ⟨parsed, parsed⟩

end Variant

namespace Role

/-- A field is read whole, with a role for each entry, or its first entry at fault is blamed; and
that is what a token with the field is rejected for, whatever its other fields are. -/
theorem decode_whole_or_blames_first (field : Text) :
    (∀ roles, decode field = .ok roles ↔ List.Forall₂ Entered (entriesOf field) roles) ∧
    ((∃ roles, decode field = .ok roles) ↔ ∀ entry ∈ entriesOf field, EntrySound entry) ∧
    (∀ fault, decode field = .error fault ↔
      FirstAtFault EntrySound EntryFaulty (entriesOf field) fault) ∧
    ∀ fault, decode field = .error fault →
      ∀ (kind : Kind) (fields : Wire.Fields) (resolver : Resolver) (text issuer : Text),
        issuer ≠ [] → (Variant.builtin kind).OpensTo resolver text issuer fields →
        fields.Carries kind field →
          ((Variant.builtin kind).parse resolver (some text) (some issuer)).result =
              .error (.rejected (.badReference fault)) ∧
            (Registry.standard.parse resolver (some text) (some issuer)).result =
              .error (.rejected (.badReference fault)) ∧
            (Rejection.badReference fault).reason = "parse_failed" := by
  rw [decode_eq_ofEntries]
  refine ⟨fun roles => ofEntries_eq_ok_iff fun entry inside => free_of_mem_entriesOf inside,
    exists_ofEntries_iff, fun fault => ofEntries_eq_error_iff, ?_⟩
  intro fault refused kind fields resolver text issuer named opens carries
  rw [← decode_eq_ofEntries] at refused
  obtain ⟨parsed, detected⟩ := Variant.parse_of_misread named opens carries refused
  exact ⟨parsed, detected, rfl⟩

end Role

namespace Sample

/-- Fields of a grant code that are faulty but for the numbers: there is no issuer, the target is no
address, the scope has blanks only, and the second role lacks its separator. -/
def misread : Wire.Fields where
  issuedAt := "021"
  lifespan := "60"
  subject := []
  schema := []
  issuer := []
  extension := ["nowhere", "a;https://h b ;", "  "]

def misreadPayload : Text := Text.join Payload.delimiter misread.toList

def misreadText : Text :=
  Kind.grantCode.mark ++ Sealing.sealed (secret.keyFor issuer) issuer misreadPayload source.nonce

end Sample

theorem Role.decode_whole_or_blames_first_sample :
    decode "a;https://h b ;" = .error (.unseparated [.char 'b']) ∧
      ((Variant.builtin .grantCode).parse Sample.secret.resolver (some Sample.misreadText)
          (some Sample.issuer)).result =
        .error (.rejected (.badReference (.unseparated [.char 'b']))) := by
  have refused : decode "a;https://h b ;" = .error (.unseparated [.char 'b']) := rfl
  have named : Sample.issuer ≠ [] := by decide
  have sealable : Sealing.Sealable Sample.secret.resolver Sample.issuer Sample.misreadPayload
      (Sample.secret.keyFor Sample.issuer) :=
    Sample.secret.sealable named (by decide) (by decide)
  have opens : (Variant.builtin .grantCode).OpensTo Sample.secret.resolver Sample.misreadText
      Sample.issuer Sample.misread :=
    ⟨_, Sample.misreadPayload, rfl, Sealing.unsealFor_sealed sealable Sample.source.nonce,
      by decide, rfl⟩
  have issuedAt : Decimal.Legible Sample.misread.issuedAt :=
    ⟨by decide, List.all_eq_true.mp rfl, by decide⟩
  have lifespan : Decimal.Legible Sample.misread.lifespan :=
    ⟨by decide, List.all_eq_true.mp rfl, by decide⟩
  have carries : Sample.misread.Carries .grantCode "a;https://h b ;" :=
    ⟨⟨issuedAt, lifespan, by decide⟩, rfl, by decide⟩
  have blamed := (decode_whole_or_blames_first "a;https://h b ;").2.2.2 _ refused .grantCode
    Sample.misread Sample.secret.resolver Sample.misreadText Sample.issuer named opens carries
  exact ⟨refused, blamed.1⟩

end SealedToken
