import SealedToken.Json.Value
import SealedToken.Token.Basic

/-!
The record of a token: its fields under their names, then its kind, its mark, its identity and its
expiry time. It is what reports and dumps show of a token.
-/

set_option autoImplicit false

namespace SealedToken

namespace Json

def textOrNull : Option Text → Json
  | none => .null
  | some value => .str value

def member (name : Text) (value : Json) : Text × Json := (name, value)

end Json

def Role.record (role : Role) : Json :=
  .obj [Json.member "name" (.str role.name), Json.member "url" (.str role.address)]

namespace Contents

def recordPart (contents : Contents) : Part → Json
  | .scope => .arr (contents.scope.map .str)
  | .roles => .arr (contents.roles.map Role.record)
  | .target => .textOrNull contents.target
  | .originalIssuer => .textOrNull contents.originalIssuer

end Contents

/-- The parts of a variant's record: the scope first, then the others as they are written. -/
def Variant.recorded (variant : Variant) : List Part :=
  (if variant.carries .scope then [.scope] else []) ++ variant.layout.filter (· ≠ .scope)

namespace Token

def recordFields (token : Token) : List (Text × Json) :=
  [Json.member "issued_at" (.int token.common.issuedAt),
    Json.member "lifespan" (.int token.common.lifespan),
    Json.member "issuer" (.str token.common.issuer),
    Json.member "subject" (.textOrNull token.common.subject),
    Json.member "schema" (.textOrNull token.common.schema)]

/-- A token has no record if its issue time is too long to be written in its identity. -/
def record (token : Token) : Except Decimal.LimitExceeded (List (Text × Json)) :=
  match token.id with
  | .error exceeded => .error exceeded
  | .ok id =>
    .ok (token.recordFields ++
      token.variant.recorded.map (fun part =>
        Json.member part.argument (token.contents.recordPart part)) ++
      [Json.member "kind" (.str token.variant.kindName),
        Json.member "prefix" (.str token.variant.mark),
        Json.member "token_id" (.str id),
        Json.member "expires_at" (.int token.expiresAt)])

end Token

end SealedToken
