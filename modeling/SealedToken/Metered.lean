import SealedToken.Metrics.Basic
import SealedToken.Verifier

/-!
Verification under metrics: each call is timed, and each verdict is counted once.
-/

set_option autoImplicit false

namespace SealedToken.Verifier

/-- The metrics after a verification between two clock readings. A verification without a verdict
has only a duration. -/
def record (metrics : Metrics) (start stop : Float) (result : Except VerifyFault Verdict) :
    Metrics :=
  let timed := metrics.recordDuration (stop - start)
  match result with
  | .error _ => timed
  | .ok verdict => timed.recordVerification verdict.valid verdict.reason

def verifyMetered (verifier : Verifier) (metrics : Metrics) (start stop : Float)
    (credential issuer : Option Text) (clock : Float) (now : Option Int) :
    Attempt VerifyFault Verdict × Metrics :=
  let verified := verifier.verify credential issuer clock now
  (verified, record metrics start stop verified.result)

/-- The token is asked of the verification that is counted. -/
def requireMetered (verifier : Verifier) (metrics : Metrics) (start stop : Float)
    (credential issuer : Option Text) (clock : Float) (now : Option Int) :
    Attempt Refusal Token × Metrics :=
  let (verified, metrics) :=
    verifier.verifyMetered metrics start stop credential issuer clock now
  (handOut verified, metrics)

end SealedToken.Verifier
