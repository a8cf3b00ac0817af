import SealedToken.Token.Contents
import SealedToken.Token.Fault

/-!
Tokens. A token holds what its variant admits and nothing else; it is made from a request by checks
in a fixed order, the first of which to fail is the fault.
-/

set_option autoImplicit false

namespace SealedToken

namespace Common

def fault? (common : Common) : Option FormFault :=
  if common.issuedAt < 0 then some .negativeIssuedAt
  else if common.lifespan ≤ 0 then some .lifespanNotPositive
  else if common.issuer.isEmpty then some .issuerRequired
  else none

end Common

namespace Contents

def scopeFault? (scope : List Text) : Option FormFault :=
  (scope.find? (!Scope.isItem ·)).map .invalidScope

def addressFault? (address : Option Text) : Option FormFault :=
  match address with
  | none => none
  | some address =>
    if isWebAddress address then none else some (.reference (.malformed address))

/-- The first part held that the variant does not carry. -/
def strayFault? (contents : Contents) (variant : Variant) : Option FormFault :=
  (Part.all.find? fun part => contents.holds part && !variant.carries part).map fun part =>
    .unexpected (variant.maker ++ ".__init__") part.argument

end Contents

/-- Why a variant with such fields is no token. -/
def formFault? (variant : Variant) (common : Common) (contents : Contents) : Option FormFault :=
  (contents.strayFault? variant).or <|
    common.fault?.or <|
      (Contents.scopeFault? contents.scope).or <|
        (Contents.addressFault? contents.target).or <|
          Contents.addressFault? contents.originalIssuer

/-- The fields of a token are free of faults and in normal form: what may be absent is never
empty. -/
structure Token where
  variant : Variant
  common : Common
  contents : Contents
  faultless : formFault? variant common contents = none
  common_normal : common.normal = common
  contents_normal : contents.normal = contents
  deriving DecidableEq

theorem absentIfEmpty_idem (text : Option Text) :
    absentIfEmpty (absentIfEmpty text) = absentIfEmpty text := by
  match text with
  | none => rfl
  | some [] => rfl
  | some (_ :: _) => rfl

theorem Common.normal_normal (common : Common) : common.normal.normal = common.normal := by
  simp [Common.normal, absentIfEmpty_idem]

theorem Contents.normal_normal (contents : Contents) :
    contents.normal.normal = contents.normal := by
  simp [Contents.normal, absentIfEmpty_idem]

namespace Token

theorem subject_normal (token : Token) :
    absentIfEmpty token.common.subject = token.common.subject :=
  congrArg Common.subject token.common_normal

theorem schema_normal (token : Token) :
    absentIfEmpty token.common.schema = token.common.schema :=
  congrArg Common.schema token.common_normal

def make (variant : Variant) (common : Common) (contents : Contents) : Except FormFault Token :=
  match faultless : formFault? variant common.normal contents.normal with
  | some fault => .error fault
  | none =>
    .ok ⟨variant, common.normal, contents.normal, faultless, common.normal_normal,
      contents.normal_normal⟩

theorem make_eq_ok_iff {variant : Variant} {common : Common} {contents : Contents} {token : Token} :
    make variant common contents = .ok token ↔
      token.variant = variant ∧ token.common = common.normal ∧
        token.contents = contents.normal := by
  unfold make
  split
  · next fault found =>
    simp only [reduceCtorEq, false_iff]
    rintro ⟨rfl, same, alike⟩
    have := token.faultless
    rw [same, alike, found] at this
    contradiction
  · next faultless =>
    constructor
    · intro made
      obtain rfl := Except.ok.inj made
      exact ⟨rfl, rfl, rfl⟩
    · rintro ⟨rfl, same, alike⟩
      cases token
      simp only at same alike
      subst same alike
      rfl

theorem make_self (token : Token) :
    make token.variant token.common token.contents = .ok token := by
  rw [make_eq_ok_iff]
  exact ⟨rfl, token.common_normal.symm, token.contents_normal.symm⟩

/-- The identity of an issuance: the subject, empty if there is none, and the issue time. -/
def id (token : Token) : Except Decimal.LimitExceeded Text :=
  match Decimal.write? token.common.issuedAt with
  | .error exceeded => .error exceeded
  | .ok moment => .ok (token.common.subject.getD [] ++ .char ':' :: moment)

def expiresAt (token : Token) : Int := token.common.issuedAt + token.common.lifespan

/-- A token is good up to its expiry time, and for the tolerance after it. -/
def isExpired (token : Token) (now skew : Int) : Bool := token.expiresAt + skew ≤ now

/-- The audience, if other than the issuer. -/
def target (token : Token) : Option Text := token.contents.target

/-- The cell whose authority the token comes from; a unit user has none. -/
def originCell (token : Token) : Option Text :=
  match token.variant with
  | .builtin .unitUser => none
  | .builtin .visitorRefresh => some (token.contents.originalIssuer.getD token.common.issuer)
  | _ => some token.common.issuer

/-- The kind that a token renews, if it is a refresh token. -/
def renews? (token : Token) : Option Kind :=
  match token.variant with
  | .builtin kind => kind.renews?
  | _ => none

/-- The access token that a refresh token renews: the same grant, of the given time and length. -/
def renewed? (token : Token) (issuedAt lifespan : Int) : Option (Except FormFault Token) :=
  token.renews?.map fun access =>
    make (.builtin access) { token.common with issuedAt := issuedAt, lifespan := lifespan }
      { Contents.empty with scope := token.contents.scope, roles := token.contents.roles }

end Token

end SealedToken
