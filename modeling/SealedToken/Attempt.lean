import SealedToken.Text.Basic

/-!
Attempts that may fail and that leave a record of what happened on the way, in order. A failing
step keeps the record of the steps before it.
-/

set_option autoImplicit false

namespace SealedToken

inductive Event where
  | keyAsked (issuer : Text)
  | payloadRejected
  | tokenRejected (reason : Text)
  | kindNotAllowed (kind : Text)
  | tokenExpired (kind moment : Text)
  deriving DecidableEq, Repr

namespace Event

/-- The issuer whose key was asked for. -/
def issuer? : Event → Option Text
  | keyAsked issuer => some issuer
  | _ => none

/-- The line of a diagnostic log. -/
def line? : Event → Option Text
  | keyAsked _ => none
  | payloadRejected => some "Payload rejected by cipher"
  | tokenRejected reason => some ("Token rejected: " ++ reason)
  | kindNotAllowed kind => some ("Token kind " ++ kind ++ " not allowed here")
  | tokenExpired kind moment => some ("Token " ++ kind ++ " expired at " ++ moment)

end Event

@[simp] theorem mapError_ok {Fault Other Value : Type} (change : Fault → Other) (value : Value) :
    (Except.ok value).mapError change = .ok value := rfl

@[simp] theorem mapError_error {Fault Other Value : Type} (change : Fault → Other)
    (fault : Fault) :
    (Except.error fault : Except Fault Value).mapError change = .error (change fault) := rfl

structure Attempt (Fault Value : Type) where
  result : Except Fault Value
  events : List Event

namespace Attempt

variable {Fault Other Value Next : Type}

def ofExcept (result : Except Fault Value) : Attempt Fault Value := ⟨result, []⟩

def fail (fault : Fault) : Attempt Fault Value := ⟨.error fault, []⟩

def bind (attempt : Attempt Fault Value) (next : Value → Attempt Fault Next) :
    Attempt Fault Next :=
  match attempt.result with
  | .error fault => ⟨.error fault, attempt.events⟩
  | .ok value => ⟨(next value).result, attempt.events ++ (next value).events⟩

instance : Monad (Attempt Fault) where
  pure value := ⟨.ok value, []⟩
  bind := bind

def mapFault (change : Fault → Other) (attempt : Attempt Fault Value) : Attempt Other Value :=
  ⟨attempt.result.mapError change, attempt.events⟩

/-- A failing attempt goes on with what answers for its fault. -/
def recover (attempt : Attempt Fault Value) (answer : Fault → Attempt Other Value) :
    Attempt Other Value :=
  match attempt.result with
  | .ok value => ⟨.ok value, attempt.events⟩
  | .error fault => ⟨(answer fault).result, attempt.events ++ (answer fault).events⟩

/-- The issuers asked for, in order. -/
def asked (attempt : Attempt Fault Value) : List Text := attempt.events.filterMap Event.issuer?

end Attempt

end SealedToken
