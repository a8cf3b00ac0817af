import SealedToken.Text.Percent
import SealedToken.Url.Basic

/-!
Roles and the role list field. An entry is a percent-coded name and the address of the document
that defines the role; entries are separated by blanks. A list is read whole or not at all.
-/

set_option autoImplicit false

namespace SealedToken

/-- Why a reference to a role or a cell is refused. -/
inductive ReferenceFault where
  | malformed (address : Text)
  | unseparated (entry : Text)
  | nameless (address : Text)
  deriving DecidableEq, Repr

namespace ReferenceFault

def message : ReferenceFault → Text
  | .malformed address => "Malformed role URL: " ++ Text.quoted address
  | .unseparated _ => "Role entry is missing its name separator"
  | .nameless address => "Cannot derive a role name from " ++ Text.quoted address

/-- The text to blame. -/
def reference : ReferenceFault → Text
  | .malformed address => address
  | .unseparated entry => entry
  | .nameless address => address

end ReferenceFault

def checkAddress (address : Text) : Except ReferenceFault Unit :=
  if isWebAddress address then .ok () else .error (.malformed address)

theorem checkAddress_eq_ok_iff {address : Text} :
    checkAddress address = .ok () ↔ isWebAddress address = true := by
  unfold checkAddress
  split <;> simp_all

/-- Why a role has no entry in a list. -/
inductive RoleFault where
  | reference (fault : ReferenceFault)
  | unencodable (fault : EncodingFault)
  deriving DecidableEq, Repr

def RoleFault.message : RoleFault → Text
  | .reference fault => fault.message
  | .unencodable fault => fault.message

/-- A named role and the address of its document. -/
structure Role where
  name : Text
  address : Text
  deriving DecidableEq, Repr

namespace Role

def nameSeparator : CodePoint := ';'

def entrySeparator : CodePoint := ' '

/-- The last segment of a path, trailing slashes aside. -/
def lastSegment (path : Text) : Text :=
  Text.afterLast '/' (path.reverse.dropWhile fun c : CodePoint => c = '/').reverse

/-- The role whose name is the last path segment of its address. -/
def ofAddress (address : Text) : Except ReferenceFault Role :=
  if isWebAddress address then
    let name := Percent.decode (lastSegment (Url.ofText address).path)
    if name.isEmpty then .error (.nameless address) else .ok ⟨name, address⟩
  else .error (.malformed address)

def entry (role : Role) : Text := Percent.encode role.name ++ nameSeparator :: role.address

/-- The entry of a role. Its address is looked at before its name. -/
def checkedEntry (role : Role) : Except RoleFault Text :=
  match checkAddress role.address with
  | .error fault => .error (.reference fault)
  | .ok () =>
    match Percent.encode? role.name with
    | .error fault => .error (.unencodable fault)
    | .ok name => .ok (name ++ nameSeparator :: role.address)

/-- The entries of roles, up to the first that has none. -/
def checkedEntries : List Role → Except RoleFault (List Text)
  | [] => .ok []
  | role :: rest =>
    match role.checkedEntry with
    | .error fault => .error fault
    | .ok entry =>
      match checkedEntries rest with
      | .error fault => .error fault
      | .ok entries => .ok (entry :: entries)

/-- The field of a role list. -/
def encode (roles : List Role) : Except RoleFault Text :=
  match checkedEntries roles with
  | .error fault => .error fault
  | .ok entries => .ok (Text.join entrySeparator entries)

def ofEntry (entry : Text) : Except ReferenceFault Role :=
  match Text.cut nameSeparator entry with
  | (_, none) => .error (.unseparated entry)
  | (name, some address) =>
    if isWebAddress address then .ok ⟨Percent.decode name, address⟩
    else .error (.malformed address)

def ofEntries : List Text → Except ReferenceFault (List Role)
  | [] => .ok []
  | entry :: rest =>
    match ofEntry entry with
    | .error fault => .error fault
    | .ok role =>
      match ofEntries rest with
      | .error fault => .error fault
      | .ok roles => .ok (role :: roles)

/-- The roles of a field; the empty field holds none. -/
def decode (field : Text) : Except ReferenceFault (List Role) :=
  if field.isEmpty then .ok [] else ofEntries (Text.split entrySeparator field)

end Role

/-- An element of a list of roles as it is handed over. -/
inductive RoleItem where
  | role (role : Role)
  | other (found : Text)
  deriving DecidableEq, Repr

/-- Why a list that is handed over makes no field. -/
inductive ListingFault where
  | role (fault : RoleFault)
  | notARole (found : Text)
  deriving DecidableEq, Repr

def ListingFault.message : ListingFault → Text
  | .role fault => fault.message
  | .notARole found => "'" ++ found ++ "' object has no attribute 'url'"

namespace RoleItem

def role? : RoleItem → Option Role
  | .role known => some known
  | .other _ => none

def checkedEntry : RoleItem → Except ListingFault Text
  | .role known => known.checkedEntry.mapError .role
  | .other found => .error (.notARole found)

/-- The field of a list that is handed over; the first element that has no place in it is the
fault. -/
def encode (items : List RoleItem) : Except ListingFault Text := do
  return Text.join Role.entrySeparator (← items.mapM checkedEntry)

end RoleItem

end SealedToken
