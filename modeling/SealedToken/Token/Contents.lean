import SealedToken.Role
import SealedToken.Text.Blank
import SealedToken.Token.Variant

/-!
What tokens hold: the five common fields, and the parts that a variant carries beside them, each
with its field.
-/

set_option autoImplicit false

namespace SealedToken

/-- An absent and an empty text are written alike. -/
def absentIfEmpty (text : Option Text) : Option Text :=
  match text with
  | some [] => none
  | other => other

/-- The fields of every token. -/
structure Common where
  issuedAt : Int
  lifespan : Int
  subject : Option Text
  schema : Option Text
  issuer : Text
  deriving DecidableEq, Repr

def Common.normal (common : Common) : Common :=
  { common with
    subject := absentIfEmpty common.subject
    schema := absentIfEmpty common.schema }

namespace Scope

def separator : CodePoint := ' '

def encode (scope : List Text) : Text := Text.join separator scope

def decode (field : Text) : List Text :=
  if field.isEmpty then [] else Text.split separator field

/-- A scope value is some text without blanks. -/
def isItem (item : Text) : Bool := !item.isEmpty && item.all (!Text.isBlank ·)

end Scope

/-- The parts of a token; a part that its variant does not carry is empty. -/
structure Contents where
  scope : List Text
  roles : List Role
  target : Option Text
  originalIssuer : Option Text
  deriving DecidableEq, Repr

namespace Contents

def empty : Contents := ⟨[], [], none, none⟩

def holds (contents : Contents) : Part → Bool
  | .scope => contents.scope ≠ []
  | .roles => contents.roles ≠ []
  | .target => contents.target.isSome
  | .originalIssuer => contents.originalIssuer.isSome

def normal (contents : Contents) : Contents :=
  { contents with
    target := absentIfEmpty contents.target
    originalIssuer := absentIfEmpty contents.originalIssuer }

theorem normal_empty : empty.normal = empty := rfl

/-- The field of one part. Only roles can fail. -/
def field (contents : Contents) : Part → Except RoleFault Text
  | .scope => .ok (Scope.encode contents.scope)
  | .roles => Role.encode contents.roles
  | .target => .ok (contents.target.getD [])
  | .originalIssuer => .ok (contents.originalIssuer.getD [])

/-- The fields of the parts of a layout, in its order. -/
def fields (contents : Contents) : List Part → Except RoleFault (List Text)
  | [] => .ok []
  | part :: layout =>
    match contents.field part with
    | .error fault => .error fault
    | .ok field =>
      match contents.fields layout with
      | .error fault => .error fault
      | .ok rest => .ok (field :: rest)

/-- The contents with one part read from its field. -/
def withField (contents : Contents) (part : Part) (field : Text) :
    Except ReferenceFault Contents :=
  match part with
  | .scope => .ok { contents with scope := Scope.decode field }
  | .roles =>
    match Role.decode field with
    | .error fault => .error fault
    | .ok roles => .ok { contents with roles := roles }
  | .target => .ok { contents with target := absentIfEmpty (some field) }
  | .originalIssuer => .ok { contents with originalIssuer := absentIfEmpty (some field) }

/-- The contents read from the fields of a layout. -/
def ofFields (contents : Contents) : List Part → List Text → Except ReferenceFault Contents
  | part :: layout, field :: fields =>
    match contents.withField part field with
    | .error fault => .error fault
    | .ok contents => contents.ofFields layout fields
  | _, _ => .ok contents

end Contents

end SealedToken
