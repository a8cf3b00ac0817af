import SealedToken.Settings

/-!
Variants of tokens: the seven kinds of a deployment, the two bases they extend, and variants added
later. A variant has a mark at the head of its token strings, a kind name, the parts its tokens
carry, and the order in which the parts are written.
-/

set_option autoImplicit false

namespace SealedToken

/-- What a token may carry beside the common fields. -/
inductive Part where
  | originalIssuer
  | roles
  | scope
  | target
  deriving DecidableEq, Repr

namespace Part

/-- All parts, in the order of their argument names. -/
def all : List Part := [.originalIssuer, .roles, .scope, .target]

def argument : Part → Text
  | .originalIssuer => "original_issuer"
  | .roles => "roles"
  | .scope => "scope"
  | .target => "target_url"

theorem mem_all (part : Part) : part ∈ all := by
  cases part <;> decide

end Part

inductive Kind where
  | cellAccess
  | visitorAccess
  | passwordChange
  | unitUser
  | cellRefresh
  | visitorRefresh
  | grantCode
  deriving DecidableEq, Repr

namespace Kind

/-- All kinds, in the order in which token strings are matched against them. -/
def all : List Kind :=
  [.cellAccess, .visitorAccess, .passwordChange, .unitUser, .cellRefresh, .visitorRefresh,
    .grantCode]

def mark : Kind → Text
  | .cellAccess => ['A', 'L', '~']
  | .visitorAccess => ['A', 'V', '~']
  | .passwordChange => ['A', 'P', '~']
  | .unitUser => ['A', 'U', '~']
  | .cellRefresh => ['R', 'L', '~']
  | .visitorRefresh => ['R', 'V', '~']
  | .grantCode => ['G', 'C', '~']

def name : Kind → Text
  | .cellAccess => "cell_local_access"
  | .visitorAccess => "visitor_access"
  | .passwordChange => "password_change"
  | .unitUser => "unit_user"
  | .cellRefresh => "cell_local_refresh"
  | .visitorRefresh => "visitor_refresh"
  | .grantCode => "grant_code"

def title : Kind → Text
  | .cellAccess => "CellLocalAccessToken"
  | .visitorAccess => "VisitorLocalAccessToken"
  | .passwordChange => "PasswordChangeAccessToken"
  | .unitUser => "UnitLocalUnitUserToken"
  | .cellRefresh => "CellLocalRefreshToken"
  | .visitorRefresh => "VisitorRefreshToken"
  | .grantCode => "GrantCode"

/-- The parts, in the order of their fields. -/
def layout : Kind → List Part
  | .cellAccess => [.scope]
  | .visitorAccess => [.roles, .scope]
  | .passwordChange => []
  | .unitUser => []
  | .cellRefresh => [.scope]
  | .visitorRefresh => [.roles, .originalIssuer, .scope]
  | .grantCode => [.target, .roles, .scope]

def lifespan (settings : Settings) : Kind → Int
  | .cellAccess | .visitorAccess | .passwordChange | .unitUser => settings.accessLifespan
  | .cellRefresh | .visitorRefresh => settings.refreshLifespan
  | .grantCode => settings.grantCodeLifespan

/-- The kind of access token that a refresh token renews. -/
def renews? : Kind → Option Kind
  | .cellRefresh => some .cellAccess
  | .visitorRefresh => some .visitorAccess
  | _ => none

theorem mem_all (kind : Kind) : kind ∈ all := by
  cases kind <;> decide

end Kind

/-- A variant beyond the built-in ones, which extends the base and nothing else. It carries no parts,
and drops the extension fields of the strings it reads. Its serial number tells it from variants
described alike. -/
structure CustomVariant where
  serial : Nat
  title : Text
  mark : Text
  kind : Text
  extensions : Nat
  deriving DecidableEq, Repr

/-- The variants are a closed universe. What extends a built-in kind, or brings parts, lifespans or
rules of its own, is not among them. -/
inductive Variant where
  | builtin (kind : Kind)
  | base
  | scopedBase
  | custom (variant : CustomVariant)
  deriving DecidableEq, Repr

namespace Variant

def mark : Variant → Text
  | .builtin kind => kind.mark
  | .base => []
  | .scopedBase => []
  | .custom variant => variant.mark

def kindName : Variant → Text
  | .builtin kind => kind.name
  | .base => []
  | .scopedBase => []
  | .custom variant => variant.kind

def title : Variant → Text
  | .builtin kind => kind.title
  | .base => "LocalToken"
  | .scopedBase => "ScopedToken"
  | .custom variant => variant.title

/-- The name of what makes the tokens: a custom variant leaves that to the base. -/
def maker : Variant → Text
  | .custom _ => Variant.base.title
  | variant => variant.title

/-- The parts that are written, in the order of their fields. -/
def layout : Variant → List Part
  | .builtin kind => kind.layout
  | _ => []

def carries : Variant → Part → Bool
  | .builtin kind, part => kind.layout.contains part
  | .scopedBase, part => part = .scope
  | _, _ => false

/-- How many extension fields a token string of the variant has. -/
def extensionCount : Variant → Nat
  | .custom variant => variant.extensions
  | variant => variant.layout.length

def lifespan (settings : Settings) : Variant → Int
  | .builtin kind => kind.lifespan settings
  | _ => 0

/-- A variant counts as another that it extends. -/
def refines (variant other : Variant) : Bool :=
  match other with
  | .base => true
  | .scopedBase => variant.carries .scope
  | other => variant = other

end Variant

end SealedToken
