import SealedToken.Token.Basic

/-!
Requests for tokens, as callers put them: the parts they mention, role lists whose elements may be
no roles, and times that may be left to the clock and to the variant.
-/

set_option autoImplicit false

namespace SealedToken

def RoleItem.fault? : RoleItem → Option FormFault
  | .role _ => none
  | .other found => some (.notARole found)

/-- How the times of a requested token are chosen. -/
inductive Timing where
  | exact (issuedAt lifespan : Int)
  /-- Issued now; the variant's lifespan unless one is given. -/
  | now (lifespan : Option Int)
  /-- The variant's lifespan. -/
  | defaultLifespan (issuedAt : Int)
  deriving DecidableEq, Repr

/-- A part that is not mentioned is `none`. -/
structure Request where
  variant : Variant
  timing : Timing
  issuer : Text
  subject : Option Text
  schema : Option Text
  scope : Option (List Text)
  roles : Option (List RoleItem)
  target : Option (Option Text)
  originalIssuer : Option (Option Text)

namespace Request

def mentions (request : Request) : Part → Bool
  | .scope => request.scope.isSome
  | .roles => request.roles.isSome
  | .target => request.target.isSome
  | .originalIssuer => request.originalIssuer.isSome

/-- What the refusal of a part names as its receiver. -/
def receiver (request : Request) : Text :=
  request.variant.maker ++
    match request.variant, request.timing with
    | .builtin .passwordChange, .defaultLifespan _ => ".with_default_lifespan"
    | _, _ => ".__init__"

/-- The first mentioned part that the variant does not carry. -/
def strayFault? (request : Request) : Option FormFault :=
  let unknown := Part.all.find? fun part => request.mentions part && !request.variant.carries part
  unknown.map fun part =>
    .unexpected request.receiver part.argument

def contents (request : Request) : Contents :=
  { scope := request.scope.getD []
    roles := (request.roles.getD []).filterMap RoleItem.role?
    target := request.target.join
    originalIssuer := request.originalIssuer.join }

def common (request : Request) (issuedAt lifespan : Int) : Common :=
  ⟨issuedAt, lifespan, request.subject, request.schema, request.issuer⟩

/-- The issue time and the lifespan, given the clock. -/
def times (settings : Settings) (clock : Float) (request : Request) :
    Except ClockFault (Int × Int) :=
  match request.timing with
  | .exact issuedAt lifespan => .ok (issuedAt, lifespan)
  | .defaultLifespan issuedAt => .ok (issuedAt, request.variant.lifespan settings)
  | .now lifespan =>
    match nowMillis clock with
    | .error fault => .error fault
    | .ok now => .ok (now, lifespan.getD (request.variant.lifespan settings))

/-- Roles are looked at after the common fields and the scope, and before addresses. -/
def fault? (request : Request) (common : Common) : Option FormFault :=
  request.strayFault?.or <|
    common.fault?.or <|
      (Contents.scopeFault? request.contents.scope).or <|
        (request.roles.getD []).findSome? RoleItem.fault?

def token (settings : Settings) (clock : Float) (request : Request) : Except FormFault Token :=
  match request.times settings clock with
  | .error fault => .error (.clock fault)
  | .ok (issuedAt, lifespan) =>
    let common := request.common issuedAt lifespan
    match request.fault? common with
    | some fault => .error fault
    | none => Token.make request.variant common request.contents

end Request

/-- The access token that a refresh token renews: issued at the given time or now, for the given
lifespan or that of its variant. -/
def Token.renewal? (token : Token) (settings : Settings) (clock : Float)
    (issuedAt lifespan : Option Int) : Option (Except FormFault Token) :=
  token.renews?.bind fun access =>
    match instantOr clock issuedAt with
    | .error fault => some (.error (.clock fault))
    | .ok issuedAt => token.renewed? issuedAt (lifespan.getD (access.lifespan settings))

end SealedToken
