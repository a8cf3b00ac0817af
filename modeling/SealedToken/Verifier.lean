import SealedToken.Registry

/-!
Verification at the place of use: reading, the kinds allowed, and expiry with a tolerance. The
outcome is a verdict and not a fault, unless an integer is too long to be read or shown.
-/

set_option autoImplicit false

namespace SealedToken

inductive VerifierFault where
  | negativeSkew
  deriving DecidableEq, Repr

def VerifierFault.message : VerifierFault → Text
  | .negativeSkew => "clock_skew_millis must be >= 0"

/-- What a deployment accepts. Every variant is allowed when none is listed. -/
structure Verifier where
  resolver : Resolver
  registry : Registry
  skew : Nat
  allowed : Option (List Variant)

inductive Verdict where
  | accepted (token : Token)
  | expired (token : Token)
  | notAllowed (token : Token)
  | rejected (rejection : Rejection)
  deriving DecidableEq

namespace Verdict

def valid : Verdict → Bool
  | accepted _ => true
  | _ => false

def reason : Verdict → Text
  | accepted _ => "ok"
  | expired _ => "expired"
  | notAllowed _ => "not_allowed"
  | rejected rejection => rejection.reason

/-- The token, whenever there is one. -/
def token? : Verdict → Option Token
  | accepted token | expired token | notAllowed token => some token
  | rejected _ => none

def rejection? : Verdict → Option Rejection
  | rejected rejection => some rejection
  | _ => none

end Verdict

/-- How a verification ends without a verdict. -/
inductive VerifyFault where
  | parse (fault : ParseFault)
  | clock (fault : ClockFault)
  | limit (exceeded : Decimal.LimitExceeded)
  deriving DecidableEq, Repr

def VerifyFault.message : VerifyFault → Text
  | .parse fault => fault.message
  | .clock fault => fault.message
  | .limit exceeded => exceeded.message

/-- Why a token is not handed out. -/
inductive Refusal where
  | unforeseen (cause : VerifyFault)
  | rejected (rejection : Rejection)
  | expired (moment : Text)
  deriving DecidableEq, Repr

def Refusal.message : Refusal → Text
  | .unforeseen cause => cause.message
  | .rejected rejection => rejection.message
  | .expired moment => "Token expired at " ++ moment

namespace Verifier

def make (resolver : Resolver) (registry : Registry) (skew : Int)
    (allowed : Option (List Variant)) : Except VerifierFault Verifier :=
  if skew < 0 then .error .negativeSkew else .ok ⟨resolver, registry, skew.toNat, allowed⟩

def allows (verifier : Verifier) (variant : Variant) : Bool :=
  match verifier.allowed with
  | none => true
  | some allowed => allowed.any variant.refines

/-- The verdict on a token that was read, at a time. The expiry time is shown in the log. -/
def judge (verifier : Verifier) (token : Token) (now : Int) : Attempt VerifyFault Verdict :=
  if token.isExpired now verifier.skew then
    match Decimal.write? token.expiresAt with
    | .error exceeded => .fail (.limit exceeded)
    | .ok moment =>
      ⟨.ok (.expired token), [.tokenExpired token.variant.kindName moment]⟩
  else ⟨.ok (.accepted token), []⟩

/-- The verdict on what came of reading a credential. -/
def verdictOn (verifier : Verifier) (clock : Float) (now : Option Int) :
    Except ParseFault Token → Attempt VerifyFault Verdict
  | .error (.rejected rejection) =>
    ⟨.ok (.rejected rejection), [.tokenRejected rejection.reason]⟩
  | .error fault => .fail (.parse fault)
  | .ok token =>
    if verifier.allows token.variant then
      match instantOr clock now with
      | .error fault => .fail (.clock fault)
      | .ok now => verifier.judge token now
    else ⟨.ok (.notAllowed token), [.kindNotAllowed token.variant.kindName]⟩

def verify (verifier : Verifier) (credential issuer : Option Text) (clock : Float)
    (now : Option Int) : Attempt VerifyFault Verdict :=
  let read := verifier.registry.parse verifier.resolver credential issuer
  let decided := verifier.verdictOn clock now read.result
  ⟨decided.result, read.events ++ decided.events⟩

end Verifier

/-- The token of an accepting verdict, and otherwise why there is none. -/
def Verdict.require : Verdict → Except Refusal Token
  | accepted token => .ok token
  | rejected rejection => .error (.rejected rejection)
  | notAllowed token => .error (.rejected (.kindNotAccepted token.variant.kindName))
  | expired token =>
    match Decimal.write? token.expiresAt with
    | .error exceeded => .error (.unforeseen (.limit exceeded))
    | .ok moment => .error (.expired moment)

namespace Verifier

/-- What a verification comes to for those who ask for the token. -/
def handOut (verified : Attempt VerifyFault Verdict) : Attempt Refusal Token :=
  match verified.result with
  | .error fault => ⟨.error (.unforeseen fault), verified.events⟩
  | .ok verdict => ⟨verdict.require, verified.events⟩

def require (verifier : Verifier) (credential issuer : Option Text) (clock : Float)
    (now : Option Int) : Attempt Refusal Token :=
  handOut (verifier.verify credential issuer clock now)

end Verifier

end SealedToken
