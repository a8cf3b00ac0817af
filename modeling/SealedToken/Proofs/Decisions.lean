import SealedToken.Proofs.KeyLookups

/-!
The decision of a verification. What came of reading, the variants allowed and the time decide the
verdict, in this order; a token that is good at some time was good before and is good under every
larger tolerance, and one that has expired stays so.
-/

set_option autoImplicit false

namespace SealedToken

namespace Verifier

/-- The token is of an allowed variant. Without a list every variant is allowed. -/
def Admits (verifier : Verifier) (token : Token) : Prop :=
  ∀ allowed, verifier.allowed = some allowed →
    ∃ other ∈ allowed, token.variant.refines other = true

/-- The moment is before the end of the token's life, to which the tolerance is added once. -/
def Tolerates (verifier : Verifier) (token : Token) (moment : Int) : Prop :=
  moment < token.common.issuedAt + token.common.lifespan + verifier.skew

instance (verifier : Verifier) (token : Token) (moment : Int) :
    Decidable (verifier.Tolerates token moment) :=
  inferInstanceAs (Decidable (_ < _))

theorem allows_iff {verifier : Verifier} {token : Token} :
    verifier.allows token.variant = true ↔ verifier.Admits token := by
  unfold allows Admits
  cases verifier.allowed with
  | none => simp
  | some allowed => simp

theorem isExpired_iff {verifier : Verifier} {token : Token} {moment : Int} :
    token.isExpired moment verifier.skew = true ↔ ¬ verifier.Tolerates token moment := by
  rw [Token.isExpired, decide_eq_true_iff, Tolerates, Token.expiresAt, Int.not_lt]

/-! ## The four outcomes -/

/-- The verdicts on what came of reading, at a time. A verdict of expiry shows the expiry time, so
that is short enough to be written. -/
inductive Outcome (verifier : Verifier) (read : Except ParseFault Token)
    (time : Except ClockFault Int) : Verdict → Prop where
  | rejected {rejection : Rejection} (failed : read = .error (.rejected rejection)) :
      Outcome verifier read time (.rejected rejection)
  | notAllowed {token : Token} (parsed : read = .ok token) (barred : ¬ verifier.Admits token) :
      Outcome verifier read time (.notAllowed token)
  | expired {token : Token} {moment : Int} {shown : Text} (parsed : read = .ok token)
      (admitted : verifier.Admits token) (told : time = .ok moment)
      (late : ¬ verifier.Tolerates token moment)
      (written : Decimal.write? token.expiresAt = .ok shown) :
      Outcome verifier read time (.expired token)
  | accepted {token : Token} {moment : Int} (parsed : read = .ok token)
      (admitted : verifier.Admits token) (told : time = .ok moment)
      (good : verifier.Tolerates token moment) :
      Outcome verifier read time (.accepted token)

theorem outcome_of_judge {verifier : Verifier} {token : Token} {moment : Int} {verdict : Verdict}
    (admitted : verifier.Admits token)
    (judged : (verifier.judge token moment).result = .ok verdict) :
    verifier.Outcome (.ok token) (.ok moment) verdict := by
  unfold judge at judged
  split at judged
  · next late =>
    cases written : Decimal.write? token.expiresAt with
    | error exceeded =>
      rw [written] at judged
      cases judged
    | ok shown =>
      rw [written] at judged
      obtain rfl := Except.ok.inj judged
      exact .expired rfl admitted rfl (isExpired_iff.mp late) written
  · next current =>
    obtain rfl := Except.ok.inj judged
    exact .accepted rfl admitted rfl (not_not.mp (mt isExpired_iff.mpr current))

theorem outcome_of_verdictOn {verifier : Verifier} {clock : Float} {now : Option Int}
    {read : Except ParseFault Token} {verdict : Verdict}
    (decided : (verifier.verdictOn clock now read).result = .ok verdict) :
    verifier.Outcome read (instantOr clock now) verdict := by
  match read with
  | .error (.rejected rejection) =>
    obtain rfl := Except.ok.inj decided
    exact .rejected rfl
  | .error (.limit exceeded) => cases decided
  | .error .fieldMissing => cases decided
  | .ok token =>
    unfold verdictOn at decided
    dsimp only at decided
    -- No time is told for a token that is not allowed.
    by_cases allowed : verifier.allows token.variant = true
    · rw [if_pos allowed] at decided
      cases told : instantOr clock now with
      | error fault =>
        rw [told] at decided
        cases decided
      | ok moment =>
        rw [told] at decided
        exact outcome_of_judge (allows_iff.mp allowed) decided
    · rw [if_neg allowed] at decided
      obtain rfl := Except.ok.inj decided
      exact .notAllowed rfl (mt allows_iff.mpr allowed)

theorem verdictOn_of_outcome {verifier : Verifier} {clock : Float} {now : Option Int}
    {read : Except ParseFault Token} {verdict : Verdict}
    (outcome : verifier.Outcome read (instantOr clock now) verdict) :
    (verifier.verdictOn clock now read).result = .ok verdict := by
  cases outcome with
  | rejected failed =>
    subst failed
    rfl
  | notAllowed parsed barred =>
    subst parsed
    rw [verdictOn, if_neg (mt allows_iff.mp barred)]
  | expired parsed admitted told late written =>
    subst parsed
    rw [verdictOn, if_pos (allows_iff.mpr admitted), told]
    simp only [judge, isExpired_iff.mpr late, written, if_true]
  | accepted parsed admitted told good =>
    subst parsed
    have current := mt isExpired_iff.mp (not_not_intro good)
    rw [verdictOn, if_pos (allows_iff.mpr admitted), told]
    simp only [judge, if_neg current]

/-- A verification returns a verdict exactly if that is the outcome of reading and time. -/
theorem verify_eq_ok_iff {verifier : Verifier} {credential issuer : Option Text} {clock : Float}
    {now : Option Int} {verdict : Verdict} :
    (verifier.verify credential issuer clock now).result = .ok verdict ↔
      verifier.Outcome (verifier.registry.parse verifier.resolver credential issuer).result
        (instantOr clock now) verdict :=
  ⟨outcome_of_verdictOn, verdictOn_of_outcome⟩

/-! ## What a verdict says -/

/-- The parts of a verdict, from what came of reading and the time. -/
structure Decides (verifier : Verifier) (read : Except ParseFault Token)
    (time : Except ClockFault Int) (verdict : Verdict) : Prop where
  valid_iff : verdict.valid = true ↔ ∃ token moment, read = .ok token ∧ verifier.Admits token ∧
    time = .ok moment ∧ verifier.Tolerates token moment
  reason_rejected : ∀ rejection, read = .error (.rejected rejection) →
    verdict.reason = rejection.reason
  reason_barred : ∀ token, read = .ok token → ¬ verifier.Admits token →
    verdict.reason = "not_allowed"
  reason_late : ∀ token moment, read = .ok token → verifier.Admits token → time = .ok moment →
    ¬ verifier.Tolerates token moment → verdict.reason = "expired"
  reason_good : ∀ token moment, read = .ok token → verifier.Admits token → time = .ok moment →
    verifier.Tolerates token moment → verdict.reason = "ok"
  token_iff : ∀ token, verdict.token? = some token ↔ read = .ok token
  rejection_iff : ∀ rejection,
    verdict.rejection? = some rejection ↔ read = .error (.rejected rejection)
  rejected_iff : verdict.rejection?.isSome = true ↔ ∀ token, read ≠ .ok token

theorem Outcome.decides {verifier : Verifier} {read : Except ParseFault Token}
    {time : Except ClockFault Int} {verdict : Verdict}
    (outcome : verifier.Outcome read time verdict) : verifier.Decides read time verdict := by
  cases outcome with
  | rejected failed =>
    subst failed
    constructor <;> simp [Verdict.valid, Verdict.reason, Verdict.token?, Verdict.rejection?]
  | @notAllowed token parsed barred =>
    subst parsed
    have others_barred : ∀ other, (.ok token : Except ParseFault Token) = .ok other →
        ¬ verifier.Admits other := by
      intro other same
      obtain rfl := Except.ok.inj same
      exact barred
    exact {
      valid_iff := by simp [Verdict.valid, barred]
      reason_rejected := by simp
      reason_barred := fun _ _ _ => rfl
      reason_late := fun other _ same admitted => absurd admitted (others_barred other same)
      reason_good := fun other _ same admitted => absurd admitted (others_barred other same)
      token_iff := by simp [Verdict.token?]
      rejection_iff := by simp [Verdict.rejection?]
      rejected_iff := by simp [Verdict.rejection?] }
  | expired parsed admitted told late _ =>
    subst parsed told
    constructor <;>
      simp [Verdict.valid, Verdict.reason, Verdict.token?, Verdict.rejection?, admitted, late]
  | accepted parsed admitted told good =>
    subst parsed told
    constructor <;>
      simp [Verdict.valid, Verdict.reason, Verdict.token?, Verdict.rejection?, admitted, good]

/-! ## Other times and tolerances -/

/-- A verifier that reads an issuer's credentials as another does, and allows the same variants. -/
structure Resembles (other verifier : Verifier) (issuer : Option Text) : Prop where
  registry : other.registry = verifier.registry
  allowed : other.allowed = verifier.allowed
  answers : ∀ name, issuer = some name → other.resolver name = verifier.resolver name

theorem Resembles.parse_eq {other verifier : Verifier} {issuer : Option Text}
    (alike : other.Resembles verifier issuer) (credential : Option Text) :
    other.registry.parse other.resolver credential issuer =
      verifier.registry.parse verifier.resolver credential issuer := by
  rw [alike.registry]
  exact Registry.parse_congr alike.answers _ credential

theorem Resembles.admits_iff {other verifier : Verifier} {issuer : Option Text}
    (alike : other.Resembles verifier issuer) (token : Token) :
    other.Admits token ↔ verifier.Admits token := by
  rw [Admits, Admits, alike.allowed]

theorem Tolerates.mono {verifier other : Verifier} {token : Token} {moment earlier : Int}
    (good : verifier.Tolerates token moment) (larger : verifier.skew ≤ other.skew)
    (before : earlier ≤ moment) : other.Tolerates token earlier := by
  unfold Tolerates at good ⊢
  omega

theorem Outcome.accepted_mono {verifier other : Verifier} {read : Except ParseFault Token}
    {token : Token} {moment earlier : Int}
    (outcome : verifier.Outcome read (.ok moment) (.accepted token))
    (admits : other.Admits token ↔ verifier.Admits token) (larger : verifier.skew ≤ other.skew)
    (before : earlier ≤ moment) : other.Outcome read (.ok earlier) (.accepted token) := by
  cases outcome with
  | accepted parsed admitted told good =>
    obtain rfl := Except.ok.inj told
    exact .accepted parsed (admits.mpr admitted) rfl (good.mono larger before)

theorem Outcome.expired_mono {verifier other : Verifier} {read : Except ParseFault Token}
    {token : Token} {moment later : Int}
    (outcome : verifier.Outcome read (.ok moment) (.expired token))
    (admits : other.Admits token ↔ verifier.Admits token) (smaller : other.skew ≤ verifier.skew)
    (after : moment ≤ later) : other.Outcome read (.ok later) (.expired token) := by
  cases outcome with
  | expired parsed admitted told late written =>
    obtain rfl := Except.ok.inj told
    refine .expired parsed (admits.mpr admitted) rfl (fun good => ?_) written
    exact late (good.mono smaller after)

end Verifier

theorem Verdict.valid_iff {verdict : Verdict} :
    verdict.valid = true ↔ ∃ token, verdict = .accepted token := by
  cases verdict <;> simp [valid]

theorem Verdict.reason_eq_expired_iff {verdict : Verdict} :
    verdict.reason = "expired" ↔ ∃ token, verdict = .expired token := by
  cases verdict with
  | rejected rejection => cases rejection <;> simp [reason, Rejection.reason]
  | _ => simp [reason]

/-- The verdict of a verification, under metrics or not, is decided by what came of reading, by the
variants allowed and by the time. A token that is accepted is accepted at every earlier time and
under every larger tolerance; one that has expired has expired at every later time and under every
smaller one. -/
theorem Verifier.decision_of_verify {verifier : Verifier} {credential issuer : Option Text}
    {clock : Float} {now : Option Int} {verdict : Verdict}
    (decided : (verifier.verify credential issuer clock now).result = .ok verdict) :
    verifier.Decides (verifier.registry.parse verifier.resolver credential issuer).result
        (instantOr clock now) verdict ∧
      (∀ metrics start stop, (verifier.verifyMetered metrics start stop credential issuer clock
        now).1.result = .ok verdict) ∧
      ∀ other : Verifier, other.Resembles verifier issuer → ∀ otherClock otherNow moment instant,
        instantOr clock now = .ok moment → instantOr otherClock otherNow = .ok instant →
          (verdict.valid = true → verifier.skew ≤ other.skew → instant ≤ moment →
            (other.verify credential issuer otherClock otherNow).result = .ok verdict) ∧
          (verdict.reason = "expired" → other.skew ≤ verifier.skew → moment ≤ instant →
            (other.verify credential issuer otherClock otherNow).result = .ok verdict) := by
  have outcome := verify_eq_ok_iff.mp decided
  refine ⟨outcome.decides, fun metrics start stop => decided, ?_⟩
  intro other alike otherClock otherNow moment instant told alsoTold
  -- Both read the same, so that only the times and the tolerances are to be compared.
  rw [verify_eq_ok_iff, alike.parse_eq, alsoTold]
  rw [told] at outcome
  constructor
  · intro valid larger before
    obtain ⟨token, rfl⟩ := Verdict.valid_iff.mp valid
    exact outcome.accepted_mono (alike.admits_iff token) larger before
  · intro expired smaller after
    obtain ⟨token, rfl⟩ := Verdict.reason_eq_expired_iff.mp expired
    exact outcome.expired_mono (alike.admits_iff token) smaller after

namespace Sample

/-- The visitor's token, sealed for its own issuer. -/
def held : Text :=
  Kind.visitorRefresh.mark ++
    Sealing.sealed (secret.keyFor issuer) issuer visitorPayload source.nonce

theorem issuer_ne_nil : issuer ≠ [] := by decide

theorem parse_held :
    (Registry.standard.parse secret.resolver (some held) (some issuer)).result = .ok visitor :=
  Token.parse_planted rfl payload_visitor issuer_ne_nil
    (sealable_visitor issuer_ne_nil (by decide)) source.nonce

/-- A verifier of scoped tokens, tolerant for a while. -/
def patient : Verifier := ⟨secret.resolver, .standard, 5, some [.scopedBase]⟩

theorem admits_visitor : patient.Admits visitor := Verifier.allows_iff.mp rfl

end Sample

/-- The visitor's token expires at 180: it is good to the last moment of the tolerance, and no
longer. -/
theorem Verifier.decision_of_verify_visitor :
    (Sample.patient.verify (some Sample.held) (some Sample.issuer) 0 (some 184)).result =
        .ok (.accepted Sample.visitor) ∧
      (Sample.patient.verify (some Sample.held) (some Sample.issuer) 0 (some 0)).result =
        .ok (.accepted Sample.visitor) ∧
      (Sample.patient.verify (some Sample.held) (some Sample.issuer) 0 (some 185)).result =
        .ok (.expired Sample.visitor) ∧
      (verify { Sample.patient with skew := 0 } (some Sample.held) (some Sample.issuer) 0
        (some 1000)).result = .ok (.expired Sample.visitor) := by
  have accepted : (Sample.patient.verify (some Sample.held) (some Sample.issuer) 0
      (some 184)).result = .ok (.accepted Sample.visitor) :=
    verify_eq_ok_iff.mpr (.accepted Sample.parse_held Sample.admits_visitor rfl (by decide))
  have expired : (Sample.patient.verify (some Sample.held) (some Sample.issuer) 0
      (some 185)).result = .ok (.expired Sample.visitor) :=
    verify_eq_ok_iff.mpr (.expired Sample.parse_held Sample.admits_visitor rfl (by decide)
      (Decimal.write?_eq_ok_iff.mpr ⟨by decide +kernel, rfl⟩))
  obtain ⟨_, _, before⟩ := Verifier.decision_of_verify accepted
  obtain ⟨_, _, after⟩ := Verifier.decision_of_verify expired
  refine ⟨accepted, ?_, expired, ?_⟩
  · have alike : Sample.patient.Resembles Sample.patient (some Sample.issuer) :=
      ⟨rfl, rfl, fun _ _ => rfl⟩
    exact (before _ alike 0 (some 0) 184 0 rfl rfl).1 rfl (Nat.le_refl _) (by decide)
  · have alike : Resembles { Sample.patient with skew := 0 } Sample.patient (some Sample.issuer) :=
      ⟨rfl, rfl, fun _ _ => rfl⟩
    exact (after _ alike 0 (some 1000) 185 1000 rfl rfl).2 rfl (Nat.zero_le _) (by decide)

end SealedToken
