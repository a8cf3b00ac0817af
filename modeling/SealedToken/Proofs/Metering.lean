import SealedToken.Deployment
import SealedToken.Proofs.Counting

/-!
Metrics only watch. A guard answers every call as it would without metrics, and each call is counted
once: its duration always, and its verdict if it comes to one.
-/

set_option autoImplicit false

namespace SealedToken

def Verdict.outcome (verdict : Verdict) : Outcome := ⟨verdict.valid, verdict.reason⟩

/-- A call on a guard between two readings of its stopwatch: for a verdict, or for the token. -/
structure GuardCall where
  requires : Bool
  start : Float
  stop : Float
  credential : Option Text
  issuer : Option Text
  clock : Float
  now : Option Int

/-- What a call comes to. -/
inductive GuardAnswer where
  | verdict (attempt : Attempt VerifyFault Verdict)
  | token (attempt : Attempt Refusal Token)

/-! ## One call -/

namespace Verifier

/-- The answer of a verifier that nobody watches. -/
def answer (verifier : Verifier) (call : GuardCall) : GuardAnswer :=
  if call.requires then
    .token (verifier.require call.credential call.issuer call.clock call.now)
  else .verdict (verifier.verify call.credential call.issuer call.clock call.now)

/-- The verdict behind an answer, if there is one. -/
def verdict? (verifier : Verifier) (call : GuardCall) : Option Verdict :=
  (verifier.verify call.credential call.issuer call.clock call.now).result.toOption

/-- What is recorded of a call. -/
def recordings (verifier : Verifier) (call : GuardCall) : List Recording :=
  .duration (call.stop - call.start) ::
    ((verifier.verdict? call).map fun verdict => Recording.verification verdict.outcome).toList

theorem record_eq_after (verifier : Verifier) (call : GuardCall) (metrics : Metrics) :
    record metrics call.start call.stop
        (verifier.verify call.credential call.issuer call.clock call.now).result =
      metrics.after (verifier.recordings call) := by
  unfold recordings verdict?
  cases (verifier.verify call.credential call.issuer call.clock call.now).result <;> rfl

end Verifier

/-- What a call adds to a counter: one duration, and one for each side of its verdict. -/
def Counter.adds (counter : Counter) (verdict? : Option Verdict) : Nat :=
  match counter, verdict? with
  | durations, _ => 1
  | status valid, some verdict => if verdict.valid = valid then 1 else 0
  | reason text, some verdict => if verdict.reason = text then 1 else 0
  | _, _ => 0

theorem Verifier.countP_recordings (verifier : Verifier) (call : GuardCall) (counter : Counter) :
    (verifier.recordings call).countP counter.counts = counter.adds (verifier.verdict? call) := by
  unfold recordings
  cases verifier.verdict? call <;> cases counter <;>
    simp [Counter.adds, Counter.counts, Verdict.outcome, List.countP_cons]

namespace Deployment

/-- A call on a guard in place. -/
def call (deployment : Deployment) (guard : Guard) (call : GuardCall) :
    GuardAnswer × Deployment :=
  if call.requires then
    (deployment.require guard call.start call.stop call.credential call.issuer call.clock
      call.now).map .token id
  else
    (deployment.verify guard call.start call.stop call.credential call.issuer call.clock
      call.now).map .verdict id

/-- Calls on a guard in turn. -/
def calls (deployment : Deployment) (guard : Guard) : List GuardCall → List GuardAnswer × Deployment
  | [] => ([], deployment)
  | first :: rest =>
    let (answer, deployment) := deployment.call guard first
    (deployment.calls guard rest).map (answer :: ·) id

/-- The deployment once its guard's metrics, if they are kept, have these recordings too. -/
def recordingAll (deployment : Deployment) (guard : Guard) (history : List Recording) :
    Deployment :=
  if guard.metered then
    { deployment with metrics := deployment.metrics.map (Metrics.after · history) }
  else deployment

variable (deployment : Deployment) (guard : Guard)

@[simp] theorem recordingAll_nil : deployment.recordingAll guard [] = deployment := by
  unfold recordingAll
  split
  · obtain ⟨_, _, metrics, _, _⟩ := deployment
    cases metrics <;> rfl
  · rfl

theorem recordingAll_append (first rest : List Recording) :
    deployment.recordingAll guard (first ++ rest) =
      (deployment.recordingAll guard first).recordingAll guard rest := by
  unfold recordingAll
  split
  · simp [Function.comp_def, Metrics.after, List.foldl_append]
  · rfl

/-- Metrics have no part in what a guard goes by. -/
@[simp] theorem verifierOf_recordingAll (history : List Recording) :
    (deployment.recordingAll guard history).verifierOf guard = deployment.verifierOf guard := by
  unfold recordingAll
  split <;> rfl

/-- Watched or not, the answer is the verifier's, and of the deployment only its metrics change. -/
theorem call_eq (call : GuardCall) :
    deployment.call guard call =
      ((deployment.verifierOf guard).answer call,
        deployment.recordingAll guard ((deployment.verifierOf guard).recordings call)) := by
  obtain ⟨verifier, followsRing, followsRegistry, metered⟩ := guard
  obtain ⟨ring, registry, metrics, place, random⟩ := deployment
  cases required : call.requires <;> cases metered <;> cases metrics <;>
    simp [Deployment.call, recordingAll, require, verify, metricsOf, Verifier.answer, required,
      Verifier.requireMetered, Verifier.require, Verifier.verifyMetered, Verifier.record_eq_after]

theorem calls_eq (calls : List GuardCall) :
    deployment.calls guard calls =
      (calls.map (deployment.verifierOf guard).answer,
        deployment.recordingAll guard
          (calls.flatMap (deployment.verifierOf guard).recordings)) := by
  induction calls generalizing deployment with
  | nil => simp [Deployment.calls]
  | cons first rest ih =>
    rw [Deployment.calls, call_eq]
    simp only [ih, verifierOf_recordingAll, ← recordingAll_append, List.map_cons,
      List.flatMap_cons, Prod.map_apply, id_eq]

end Deployment

/-! ## Counted once -/

/-- What metrics before and after a verification differ in, given its verdict if it came to one. -/
structure Metrics.CountsOnce (before after : Metrics) (verdict? : Option Verdict) : Prop where
  name : after.name = before.name
  numbers (counter : Counter) :
    after.number counter = before.number counter + counter.adds verdict?
  unnamed (name : Text) (other : ∀ counter : Counter, name ≠ counter.name) :
    after.counters.count name = before.counters.count name
  issued : after.issued = before.issued
  outcomes (outcome : Outcome) :
    after.outcomes.count outcome =
      before.outcomes.count outcome + if verdict?.map Verdict.outcome = some outcome then 1 else 0
  summary (sound : before.Sound) (counter : Counter) :
    after.reading counter = before.reading counter + counter.adds verdict?

theorem Metrics.number_recordings (metrics : Metrics) (verifier : Verifier) (call : GuardCall)
    (counter : Counter) :
    (metrics.after (verifier.recordings call)).number counter =
      metrics.number counter + counter.adds (verifier.verdict? call) := by
  rw [number_after, verifier.countP_recordings]

/-- A call is counted once, whichever way it is made and however it ends. -/
theorem Metrics.countsOnce (metrics : Metrics) (verifier : Verifier) (call : GuardCall) :
    metrics.CountsOnce (metrics.after (verifier.recordings call)) (verifier.verdict? call) where
  name := by
    unfold Verifier.recordings
    cases verifier.verdict? call <;> rfl
  numbers := metrics.number_recordings verifier call
  unnamed name other := metrics.unnamed_after _ other
  issued := by
    unfold Verifier.recordings
    cases verifier.verdict? call <;> rfl
  outcomes outcome := by
    rw [outcomes_after]
    unfold Verifier.recordings
    cases verifier.verdict? call <;> simp [Recording.outcome?, List.countP_cons]
  summary sound counter := by
    rw [(sound.after _).reading_eq, sound.reading_eq, number_recordings]

/-- Every duration is that of a success, of a failure, or of a call without a verdict. -/
theorem Counter.adds_durations (verdict? : Option Verdict) :
    durations.adds verdict? =
      (status true).adds verdict? + (status false).adds verdict? +
        if verdict?.isNone then 1 else 0 := by
  cases verdict? with
  | none => rfl
  | some verdict => cases valid : verdict.valid <;> simp [adds, valid]

theorem Verifier.countP_durations (verifier : Verifier) (calls : List GuardCall) :
    (calls.flatMap verifier.recordings).countP Counter.durations.counts =
      (calls.flatMap verifier.recordings).countP (Counter.status true).counts +
        (calls.flatMap verifier.recordings).countP (Counter.status false).counts +
        calls.countP fun call => (verifier.verdict? call).isNone := by
  induction calls with
  | nil => rfl
  | cons call rest ih =>
    simp only [List.flatMap_cons, List.countP_append, List.countP_cons, ih,
      verifier.countP_recordings, Counter.adds_durations]
    omega

namespace Deployment

/-- The deployment with metrics in use. -/
def withMetrics (deployment : Deployment) (metrics : Metrics) : Deployment :=
  { deployment with metrics := some metrics }

theorem calls_metered (deployment : Deployment) (guard : Guard) (metrics : Metrics)
    (calls : List GuardCall) :
    (deployment.withMetrics metrics).calls { guard with metered := true } calls =
      (calls.map (deployment.verifierOf guard).answer,
        deployment.withMetrics
          (metrics.after (calls.flatMap (deployment.verifierOf guard).recordings))) :=
  (deployment.withMetrics metrics).calls_eq { guard with metered := true } calls

theorem calls_unmetered (deployment : Deployment) (guard : Guard) (calls : List GuardCall) :
    deployment.calls { guard with metered := false } calls =
      (calls.map (deployment.verifierOf guard).answer, deployment) :=
  deployment.calls_eq { guard with metered := false } calls

/-- Whatever a guard is asked, and whatever its metrics were: they change none of its answers, they
are all that the calls change, and each call is counted once. Counted from nothing, the durations
without a success or a failure are those of the calls that came to no verdict. -/
theorem calls_counted_once (deployment : Deployment) (guard : Guard) (metrics : Metrics)
    (calls : List GuardCall) :
    let metered := { guard with metered := true }
    let unmetered := deployment.calls { guard with metered := false } calls
    ((deployment.withMetrics metrics).calls metered calls).1 = unmetered.1 ∧
      unmetered.2 = deployment ∧
      (∃ before,
        ((deployment.withMetrics metrics).calls metered calls).2 = deployment.withMetrics before ∧
        ∀ call, ∃ after,
          ((deployment.withMetrics metrics).calls metered (calls ++ [call])).2 =
            deployment.withMetrics after ∧
          before.CountsOnce after ((deployment.verifierOf guard).verdict? call)) ∧
      ∀ name, ∃ after,
        ((deployment.withMetrics (.new name)).calls metered calls).2 =
          deployment.withMetrics after ∧
        after.reading .durations =
          after.reading (.status true) + after.reading (.status false) +
            calls.countP fun call => ((deployment.verifierOf guard).verdict? call).isNone := by
  simp only [calls_metered, calls_unmetered, true_and]
  refine ⟨⟨_, rfl, fun call => ⟨_, rfl, ?_⟩⟩, fun name => ⟨_, rfl, ?_⟩⟩
  · have last : metrics.after ((calls ++ [call]).flatMap (deployment.verifierOf guard).recordings) =
        (metrics.after (calls.flatMap (deployment.verifierOf guard).recordings)).after
          ((deployment.verifierOf guard).recordings call) := by
      simp [Metrics.after, List.foldl_append]
    rw [last]
    exact Metrics.countsOnce _ _ call
  · simp only [Metrics.reading_history]
    exact Verifier.countP_durations _ calls

end Deployment

end SealedToken
