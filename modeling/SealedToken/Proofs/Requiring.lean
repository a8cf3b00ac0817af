import SealedToken.Deployment
import SealedToken.Proofs.Decisions

/-!
Asking for the token. A guard that is asked for the token answers by the verdict it would give: it
hands out the token of an accepting verdict, and otherwise says what the verdict says. It fails
where verifying fails and nowhere else, since an expiry time that a verdict calls past can be
written.
-/

set_option autoImplicit false

namespace SealedToken

/-! ## Answers to verdicts -/

namespace Verdict

/-- How a demand for the token is answered, by what the verdict shows. -/
structure Answered (verdict : Verdict) (required : Except Refusal Token) : Prop where
  granted (valid : verdict.valid = true) :
    ∃ token, verdict.token? = some token ∧ required = .ok token
  rejected (rejection : Rejection) (failed : verdict.rejection? = some rejection) :
    required = .error (.rejected rejection)
  expired (late : verdict.reason = "expired") :
    ∃ token moment, verdict.token? = some token ∧
      Decimal.write? token.expiresAt = .ok moment ∧ required = .error (.expired moment)
  barred (foreign : verdict.reason = "not_allowed") :
    ∃ (token : Token) (rejection : Rejection), verdict.token? = some token ∧
      rejection = .kindNotAccepted token.variant.kindName ∧ rejection.reason = "parse_failed" ∧
      required = .error (.rejected rejection)
  exhausted :
    verdict.valid = true ∨ verdict.rejection?.isSome = true ∨ verdict.reason = "expired" ∨
      verdict.reason = "not_allowed"

/-- The expiry time is short enough to be written, if the verdict is about expiry. -/
def Presentable (verdict : Verdict) : Prop :=
  ∀ token, verdict = .expired token → ∃ moment, Decimal.write? token.expiresAt = .ok moment

/-- No reason of a rejection is one that a verdict gives for a token it has read. -/
theorem reason_rejection (rejection : Rejection) :
    (Verdict.rejected rejection).reason ≠ "expired" ∧
      (Verdict.rejected rejection).reason ≠ "not_allowed" := by
  cases rejection <;> simp [reason, Rejection.reason]

theorem require_expired {token : Token} {moment : Text}
    (written : Decimal.write? token.expiresAt = .ok moment) :
    (expired token).require = .error (.expired moment) := by
  -- Rewriting the demand itself would evaluate the digit limit.
  unfold require
  dsimp only
  rw [written]

theorem Presentable.answered {verdict : Verdict} (presentable : verdict.Presentable) :
    verdict.Answered verdict.require := by
  cases verdict with
  | accepted token =>
    have answer : (accepted token).require = .ok token := rfl
    constructor <;> simp [answer, valid, reason, token?, rejection?]
  | rejected rejection =>
    have answer : (Verdict.rejected rejection).require = .error (.rejected rejection) := rfl
    obtain ⟨notLate, notBarred⟩ := reason_rejection rejection
    constructor <;> simp [answer, valid, rejection?, notLate, notBarred]
  | notAllowed token =>
    have answer : (notAllowed token).require =
        .error (.rejected (.kindNotAccepted token.variant.kindName)) := rfl
    constructor <;> simp [answer, valid, reason, token?, rejection?, Rejection.reason]
  | expired token =>
    obtain ⟨moment, written⟩ := presentable token rfl
    have answer := require_expired written
    constructor <;> simp [answer, valid, reason, token?, rejection?, written]

/-- A verdict that is presentable never makes the demand fail unforeseen. -/
theorem Presentable.require_ne_unforeseen {verdict : Verdict} (presentable : verdict.Presentable)
    (cause : VerifyFault) : verdict.require ≠ .error (.unforeseen cause) := by
  cases verdict with
  | accepted | rejected | notAllowed => nofun
  | expired token =>
    obtain ⟨moment, written⟩ := presentable token rfl
    rw [require_expired written]
    nofun

theorem Presentable.require_eq_ok_iff {verdict : Verdict} (presentable : verdict.Presentable)
    {token : Token} : verdict.require = .ok token ↔ verdict = .accepted token := by
  cases verdict with
  | accepted other =>
    have answer : (accepted other).require = .ok other := rfl
    simp [answer]
  | rejected | notAllowed => exact ⟨nofun, nofun⟩
  | expired other =>
    obtain ⟨moment, written⟩ := presentable other rfl
    simp [require_expired written]

end Verdict

theorem Verifier.Outcome.presentable {verifier : Verifier} {read : Except ParseFault Token}
    {time : Except ClockFault Int} {verdict : Verdict}
    (outcome : verifier.Outcome read time verdict) : verdict.Presentable := by
  intro token same
  cases outcome with
  | expired _ _ _ _ written =>
    obtain rfl := Verdict.expired.inj same
    exact ⟨_, written⟩
  | rejected | notAllowed | accepted => cases same

/-- How a demand for the token is answered, by what verifying comes to. -/
structure Answers (verified : Except VerifyFault Verdict) (required : Except Refusal Token) :
    Prop where
  answered (verdict : Verdict) (decided : verified = .ok verdict) : verdict.Answered required
  unforeseen_iff (fault : VerifyFault) :
    required = .error (.unforeseen fault) ↔ verified = .error fault
  token_iff (token : Token) : required = .ok token ↔ verified = .ok (.accepted token)

namespace Verifier

variable (verifier : Verifier) (credential issuer : Option Text) (clock : Float) (now : Option Int)

theorem require_of_error {fault : VerifyFault}
    (failed : (verifier.verify credential issuer clock now).result = .error fault) :
    verifier.require credential issuer clock now =
      ⟨.error (.unforeseen fault), (verifier.verify credential issuer clock now).events⟩ := by
  simp only [require, handOut, failed]

theorem require_of_ok {verdict : Verdict}
    (decided : (verifier.verify credential issuer clock now).result = .ok verdict) :
    verifier.require credential issuer clock now =
      ⟨verdict.require, (verifier.verify credential issuer clock now).events⟩ := by
  simp only [require, handOut, decided]

theorem events_require :
    (verifier.require credential issuer clock now).events =
      (verifier.verify credential issuer clock now).events := by
  cases verified : (verifier.verify credential issuer clock now).result with
  | error fault => rw [require_of_error _ _ _ _ _ verified]
  | ok verdict => rw [require_of_ok _ _ _ _ _ verified]

theorem answers_require :
    Answers (verifier.verify credential issuer clock now).result
      (verifier.require credential issuer clock now).result := by
  cases verified : (verifier.verify credential issuer clock now).result with
  | error fault =>
    rw [require_of_error _ _ _ _ _ verified]
    constructor <;> simp [eq_comm]
  | ok verdict =>
    have presentable := (verify_eq_ok_iff.mp verified).presentable
    rw [require_of_ok _ _ _ _ _ verified]
    constructor
    · rintro other same
      obtain rfl := Except.ok.inj same
      exact presentable.answered
    · simp [presentable.require_ne_unforeseen]
    · simp [presentable.require_eq_ok_iff]

end Verifier

/-! ## Guards -/

namespace Deployment

variable (deployment : Deployment) (guard : Guard) (start stop : Float)
  (credential issuer : Option Text) (clock : Float) (now : Option Int)

theorem fst_verify :
    (deployment.verify guard start stop credential issuer clock now).1 =
      (deployment.verifierOf guard).verify credential issuer clock now := by
  unfold verify
  cases deployment.metricsOf guard <;> rfl

/-- A demand for the token leaves the deployment as a verification does. -/
theorem require_eq :
    deployment.require guard start stop credential issuer clock now =
      ((deployment.verifierOf guard).require credential issuer clock now,
        (deployment.verify guard start stop credential issuer clock now).2) := by
  unfold require verify
  cases deployment.metricsOf guard <;> rfl

/-- Whatever a guard's keys, registry, tolerance, list and metrics are: a demand for the token is
answered by the verdict that the guard would give at that time, or fails with the very fault that
leaves it without one. It logs and counts as verifying does. -/
theorem require_answers_verify :
    Answers (deployment.verify guard start stop credential issuer clock now).1.result
        (deployment.require guard start stop credential issuer clock now).1.result ∧
      (deployment.require guard start stop credential issuer clock now).1.events =
        (deployment.verify guard start stop credential issuer clock now).1.events ∧
      (deployment.require guard start stop credential issuer clock now).2 =
        (deployment.verify guard start stop credential issuer clock now).2 := by
  rw [require_eq, fst_verify]
  exact ⟨Verifier.answers_require _ credential issuer clock now,
    Verifier.events_require _ credential issuer clock now, rfl⟩

end Deployment

end SealedToken
