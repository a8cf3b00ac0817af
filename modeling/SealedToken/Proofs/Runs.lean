import SealedToken.Proofs.Inspecting
import SealedToken.Proofs.Metering

/-!
Metrics over the runs of a process. A run that issues counts its token, and a run that inspects
counts what its verifier does, once it has one; every other run leaves the metrics alone.
-/

set_option autoImplicit false

namespace SealedToken

/-- Metrics before and after a verdict on one side: the summary's number for that side is one more,
that for the other side stays, and the rest is as for any verdict. -/
structure Metrics.GainsVerdict (before after : Metrics) (valid : Bool) : Prop where
  gained : after.reading (.status valid) = before.reading (.status valid) + 1
  kept : after.reading (.status !valid) = before.reading (.status !valid)
  counted : ∃ verdict : Verdict, verdict.valid = valid ∧ before.CountsOnce after (some verdict)

theorem Metrics.CountsOnce.gainsVerdict {before after : Metrics} {verdict : Verdict}
    (counted : before.CountsOnce after (some verdict)) (sound : before.Sound) :
    before.GainsVerdict after verdict.valid where
  gained := by simp [counted.summary sound, Counter.adds]
  kept := by simp [counted.summary sound, Counter.adds]
  counted := ⟨verdict, rfl, counted⟩

namespace Cli

/-! ## What runs do -/

namespace InspectArguments

/-- The verifier that a run goes by, if it has a usable secret and a tolerance that is not
negative. -/
def verifier? (arguments : InspectArguments) (surroundings : Surroundings) : Option Verifier :=
  match findSecret arguments.options.secret surroundings.secret,
    arguments.options.skew.getD (some surroundings.settings.clockSkew) with
  | .ok secret, some skew =>
    if 0 ≤ skew then some ⟨secret.resolver, .standard, skew.toNat, none⟩ else none
  | _, _ => none

/-- What the run asks its verifier. Nobody sees its stopwatch. -/
def call (arguments : InspectArguments) (surroundings : Surroundings) : GuardCall :=
  ⟨false, 0, 0, some arguments.token, some arguments.issuer, surroundings.clock, none⟩

theorem verifier?_eq_some_iff {arguments : InspectArguments} {surroundings : Surroundings}
    {verifier : Verifier} :
    arguments.verifier? surroundings = some verifier ↔
      ∃ (secret : Secret) (skew : Nat),
        findSecret arguments.options.secret surroundings.secret = .ok secret ∧
        arguments.options.skew.getD (some surroundings.settings.clockSkew) = some (skew : Int) ∧
        verifier = ⟨secret.resolver, .standard, skew, none⟩ := by
  unfold verifier?
  constructor
  · intro found
    split at found
    · next secret skew known tolerance =>
      split at found
      · next nonneg =>
        rw [← Int.toNat_of_nonneg nonneg] at tolerance
        exact ⟨secret, skew.toNat, known, tolerance, (Option.some.inj found).symm⟩
      · contradiction
    · contradiction
  · rintro ⟨secret, skew, known, tolerance, rfl⟩
    rw [known, tolerance]
    exact if_pos (Int.natCast_nonneg skew)

end InspectArguments

/-- A run that is over: what it was given, and what came of it. -/
structure Finished where
  surroundings : Surroundings
  line : List Text
  transcript : Transcript

namespace Finished

/-- The kind of token that was issued, by a run that issues and ends well. -/
def issued? (run : Finished) : Option Kind :=
  match Invocation.read run.line, run.transcript.result with
  | .ok ⟨_, some (.issue arguments)⟩, .ok 0 => some arguments.kind
  | _, _ => none

/-- The verifier that was reached and what it was asked, by a run that inspects. -/
def reached? (run : Finished) : Option (Verifier × GuardCall) :=
  match Invocation.read run.line with
  | .ok ⟨_, some (.inspect arguments)⟩ =>
    (arguments.verifier? run.surroundings).map fun verifier =>
      (verifier, arguments.call run.surroundings)
  | _ => none

/-- A verifier was reached and came to no verdict. -/
def raised (run : Finished) : Bool :=
  run.reached?.any fun (verifier, call) => (verifier.verdict? call).isNone

/-- What is recorded of a run. -/
def recordings (run : Finished) : List Recording :=
  (run.issued?.map fun kind => Recording.issued kind.mark).toList ++
    (run.reached?.map fun (verifier, call) => verifier.recordings call).getD []

/-- A run that has nothing to record: it stops at its line, shows a page, makes a secret, issues
nothing, or inspects without a usable secret or a tolerance that is not negative. -/
inductive Idle (run : Finished) : Prop where
  | stopped (stop : Stop) (read : Invocation.read run.line = .error stop)
  | commandless (verbose : Bool) (read : Invocation.read run.line = .ok ⟨verbose, none⟩)
  | init (verbose env : Bool) (read : Invocation.read run.line = .ok ⟨verbose, some (.init env)⟩)
  | unissued (verbose : Bool) (arguments : IssueArguments)
      (read : Invocation.read run.line = .ok ⟨verbose, some (.issue arguments)⟩)
      (failed : run.transcript.result ≠ .ok 0)
  | secretless (verbose : Bool) (arguments : InspectArguments) (reason : Text)
      (read : Invocation.read run.line = .ok ⟨verbose, some (.inspect arguments)⟩)
      (missing : findSecret arguments.options.secret run.surroundings.secret = .error reason)
  | intolerant (verbose : Bool) (arguments : InspectArguments)
      (read : Invocation.read run.line = .ok ⟨verbose, some (.inspect arguments)⟩)
      (negative : ∀ skew : Nat,
        arguments.options.skew.getD (some run.surroundings.settings.clockSkew) ≠
          some (skew : Int))

/-- What a run adds to the metrics before it: a good inspection one success, a bad one that reached
its verifier one failure, and an idle run nothing. -/
structure Contributes (run : Finished) (before after : Metrics) : Prop where
  good (verbose : Bool) (arguments : InspectArguments)
      (read : Invocation.read run.line = .ok ⟨verbose, some (.inspect arguments)⟩)
      (ended : run.transcript.result = .ok 0) :
    before.GainsVerdict after true
  bad (reached : run.reached?.isSome = true) (ended : run.transcript.result = .ok 1) :
    before.GainsVerdict after false
  idle (idle : run.Idle) : after = before

end Finished

/-- Runs in one process, once they are over. -/
def finished (session : Session) (runs : List (Surroundings × List Text)) : List Finished :=
  List.zipWith (fun given transcript => ⟨given.1, given.2, transcript⟩) runs
    (runAll session runs).1

/-! ## What is recorded -/

namespace Finished

variable {run : Finished}

theorem issued?_eq_some_iff {kind : Kind} :
    run.issued? = some kind ↔
      ∃ verbose arguments, Invocation.read run.line = .ok ⟨verbose, some (.issue arguments)⟩ ∧
        run.transcript.result = .ok 0 ∧ arguments.kind = kind := by
  unfold issued?
  constructor
  · intro issued
    split at issued
    · next verbose arguments read ended =>
      exact ⟨verbose, arguments, read, ended, Option.some.inj issued⟩
    · contradiction
  · rintro ⟨verbose, arguments, read, ended, rfl⟩
    rw [read, ended]
    rfl

theorem reached?_eq_some_iff {verifier : Verifier} {call : GuardCall} :
    run.reached? = some (verifier, call) ↔
      ∃ verbose arguments, Invocation.read run.line = .ok ⟨verbose, some (.inspect arguments)⟩ ∧
        arguments.verifier? run.surroundings = some verifier ∧
        call = arguments.call run.surroundings := by
  unfold reached?
  constructor
  · intro reached
    split at reached
    · next verbose arguments read =>
      obtain ⟨found, known, same⟩ := Option.map_eq_some_iff.mp reached
      obtain ⟨rfl, rfl⟩ := Prod.mk.inj same
      exact ⟨verbose, arguments, read, known, rfl⟩
    · contradiction
  · rintro ⟨verbose, arguments, read, known, rfl⟩
    rw [read]
    dsimp only
    rw [known]
    rfl

theorem Idle.issued?_eq_none (idle : run.Idle) : run.issued? = none := by
  rw [Option.eq_none_iff_forall_ne_some]
  intro kind issued
  obtain ⟨verbose, arguments, read, ended, _⟩ := issued?_eq_some_iff.mp issued
  cases idle with
  | unissued _ _ _ failed => exact failed ended
  | stopped _ other | commandless _ other | init _ _ other | secretless _ _ _ other
  | intolerant _ _ other => cases read.symm.trans other

theorem Idle.reached?_eq_none (idle : run.Idle) : run.reached? = none := by
  rw [Option.eq_none_iff_forall_ne_some]
  rintro ⟨verifier, call⟩ reached
  obtain ⟨verbose, arguments, read, found, _⟩ := reached?_eq_some_iff.mp reached
  obtain ⟨secret, skew, known, tolerance, _⟩ := InspectArguments.verifier?_eq_some_iff.mp found
  cases idle with
  | stopped _ other | commandless _ other | init _ _ other | unissued _ _ other =>
    cases read.symm.trans other
  | secretless _ _ _ other missing =>
    cases read.symm.trans other
    cases known.symm.trans missing
  | intolerant _ _ other negative =>
    cases read.symm.trans other
    exact negative skew tolerance

theorem Idle.recordings_eq_nil (idle : run.Idle) : run.recordings = [] := by
  rw [recordings, idle.issued?_eq_none, idle.reached?_eq_none]
  rfl

theorem countP_recordings (counter : Counter) :
    run.recordings.countP counter.counts =
      (run.issued?.map fun kind => if counter.counts (.issued kind.mark) then 1 else 0).getD 0 +
        (run.reached?.map fun (verifier, call) =>
          counter.adds (verifier.verdict? call)).getD 0 := by
  unfold recordings
  rw [List.countP_append]
  congr 1
  · cases run.issued? with
    | none => rfl
    | some kind => simp [List.countP_cons]
  · cases run.reached? with
    | none => rfl
    | some reached => exact reached.1.countP_recordings reached.2 counter

end Finished

/-! ## One run -/

namespace InspectArguments

variable {arguments : InspectArguments} {surroundings : Surroundings} {verifier : Verifier}

theorem run_of_verifier (found : arguments.verifier? surroundings = some verifier)
    (session : Session) :
    let verified := verifier.verify (some arguments.token) (some arguments.issuer)
      surroundings.clock none
    arguments.run surroundings session =
      (conclude arguments.options.json (logged session.verbose verified.events) verified.result,
        { session with
          metrics :=
            session.metrics.after (verifier.recordings (arguments.call surroundings)) }) := by
  obtain ⟨secret, skew, known, tolerance, rfl⟩ := verifier?_eq_some_iff.mp found
  rw [run_of_skew session known tolerance, ← Verifier.record_eq_after]
  rfl

/-- Without a verifier a run does not end well, and leaves the session as it was. -/
theorem run_of_none (missing : arguments.verifier? surroundings = none) (session : Session) :
    (arguments.run surroundings session).1.result ≠ .ok 0 ∧
      (arguments.run surroundings session).2 = session := by
  -- Each way to stop short ends with a complaint or a crash.
  unfold run
  cases known : findSecret arguments.options.secret surroundings.secret with
  | error reason =>
    refine ⟨?_, rfl⟩
    rintro ⟨⟩
  | ok secret =>
    cases given : arguments.options.skew.getD (some surroundings.settings.clockSkew) with
    | none =>
      refine ⟨?_, rfl⟩
      rintro ⟨⟩
    | some skew =>
      have negative : skew < 0 := by
        by_contra nonneg
        rw [verifier?, known, given] at missing
        dsimp only at missing
        rw [if_pos (Int.not_lt.mp nonneg)] at missing
        contradiction
      dsimp only
      rw [Verifier.make, if_pos negative]
      refine ⟨?_, rfl⟩
      rintro ⟨⟩

/-- The code of a run that reports a verdict is that of the verdict. -/
theorem verdict_of_conclude {json : Bool} {log : Text} {result : Except VerifyFault Verdict}
    {code : Nat} (ended : (conclude json log result).result = .ok code) :
    ∃ verdict, result = .ok verdict ∧ code = if verdict.valid then 0 else 1 := by
  cases result with
  | error fault => cases ended
  | ok verdict =>
    refine ⟨verdict, rfl, ?_⟩
    unfold conclude at ended
    dsimp only at ended
    split at ended
    · cases ended
    · exact (Except.ok.inj ended).symm

end InspectArguments

/-- The metrics after a run are those before it with what is recorded of the run. -/
theorem metrics_run (surroundings : Surroundings) (line : List Text) (session : Session) :
    (run surroundings line session).2.metrics =
      session.metrics.after
        (Finished.recordings ⟨surroundings, line, (run surroundings line session).1⟩) := by
  unfold Finished.recordings Finished.issued? Finished.reached?
  cases read : Invocation.read line with
  | error stop =>
    simp only [run, read]
    rfl
  | ok invocation =>
    obtain ⟨verbose, command⟩ := invocation
    rcases command with _ | (env | arguments | arguments)
    · simp only [run, read]
      rfl
    · simp only [run, read]
      rfl
    · rw [run_of_issue read]
      dsimp only
      rcases arguments.metrics_run surroundings
          { session with verbose := session.verbose.or (some verbose) } with
        ⟨well, counted⟩ | ⟨badly, kept⟩
      · rw [counted, well]
        rfl
      · rw [kept]
        split
        · next ended => exact absurd ended badly
        · rfl
    · rw [run_of_inspect read]
      dsimp only
      cases found : arguments.verifier? surroundings with
      | none =>
        rw [(InspectArguments.run_of_none found _).2]
        rfl
      | some verifier =>
        rw [InspectArguments.run_of_verifier found]
        rfl

namespace InspectArguments

variable {arguments : InspectArguments} {surroundings : Surroundings} {session : Session}
  {code : Nat}

/-- A run that reached its verifier and has a code gains the verdict behind the code. -/
theorem gainsVerdict_of_verifier {verifier : Verifier}
    (found : arguments.verifier? surroundings = some verifier)
    (ended : (arguments.run surroundings session).1.result = .ok code)
    (sound : session.metrics.Sound) :
    ∃ valid : Bool, code = (if valid then 0 else 1) ∧
      session.metrics.GainsVerdict (arguments.run surroundings session).2.metrics valid := by
  rw [run_of_verifier found session] at ended ⊢
  obtain ⟨verdict, decided, same⟩ := verdict_of_conclude ended
  have known : verifier.verdict? (arguments.call surroundings) = some verdict :=
    congrArg Except.toOption decided
  have counted := session.metrics.countsOnce verifier (arguments.call surroundings)
  rw [known] at counted
  exact ⟨verdict.valid, same, counted.gainsVerdict sound⟩

end InspectArguments

theorem contributes_run (surroundings : Surroundings) (line : List Text) {session : Session}
    (sound : session.metrics.Sound) :
    Finished.Contributes ⟨surroundings, line, (run surroundings line session).1⟩ session.metrics
      (run surroundings line session).2.metrics := by
  constructor
  · intro verbose arguments read ended
    dsimp only at read ended
    rw [run_of_inspect read] at ended ⊢
    cases found : arguments.verifier? surroundings with
    | none => exact absurd ended (InspectArguments.run_of_none found _).1
    | some verifier =>
      obtain ⟨valid, same, gains⟩ :=
        InspectArguments.gainsVerdict_of_verifier found ended sound
      cases valid with
      | true => exact gains
      | false => contradiction
  · -- A code of one alone would not do: a run that is refused has it too.
    intro reached ended
    obtain ⟨⟨verifier, call⟩, known⟩ := Option.isSome_iff_exists.mp reached
    obtain ⟨verbose, arguments, read, found, _⟩ := Finished.reached?_eq_some_iff.mp known
    dsimp only at read ended
    rw [run_of_inspect read] at ended ⊢
    obtain ⟨valid, same, gains⟩ := InspectArguments.gainsVerdict_of_verifier found ended sound
    cases valid with
    | true => contradiction
    | false => exact gains
  · intro idle
    rw [metrics_run, idle.recordings_eq_nil]
    rfl

/-! ## Runs in turn -/

theorem length_finished (session : Session) (runs : List (Surroundings × List Text)) :
    (finished session runs).length = runs.length := by
  induction runs generalizing session with
  | nil => rfl
  | cons given rest ih => exact congrArg (· + 1) (ih _)

/-- The metrics after runs are those before them with what is recorded of each run. -/
theorem metrics_runAll (session : Session) (runs : List (Surroundings × List Text)) :
    (runAll session runs).2.metrics =
      session.metrics.after ((finished session runs).flatMap Finished.recordings) := by
  -- The first run leaves another session to the rest, so the session varies.
  induction runs generalizing session with
  | nil => rfl
  | cons given rest ih =>
    obtain ⟨surroundings, line⟩ := given
    have first : finished session ((surroundings, line) :: rest) =
        ⟨surroundings, line, (run surroundings line session).1⟩ ::
          finished (run surroundings line session).2 rest := rfl
    have last : (runAll session ((surroundings, line) :: rest)).2 =
        (runAll (run surroundings line session).2 rest).2 := rfl
    rw [first, last, ih, metrics_run]
    simp [Metrics.after, List.foldl_append]

namespace Finished

/-- A counter stands at the number of runs with a recording that it counts, if no run has more than
one. -/
theorem countP_flatMap_recordings {counter : Counter} {counted : Finished → Bool}
    (single : ∀ run : Finished,
      run.recordings.countP counter.counts = if counted run then 1 else 0)
    (past : List Finished) :
    (past.flatMap recordings).countP counter.counts = past.countP counted := by
  induction past with
  | nil => rfl
  | cons run rest ih =>
    rw [List.flatMap_cons, List.countP_append, List.countP_cons, single, ih, Nat.add_comm]

theorem countP_issued (run : Finished) :
    run.recordings.countP Counter.issued.counts = if run.issued?.isSome then 1 else 0 := by
  rw [countP_recordings]
  cases run.issued? <;> cases run.reached? <;> rfl

theorem countP_issuedMark (mark : Text) (run : Finished) :
    run.recordings.countP (Counter.issuedMark mark).counts =
      if run.issued?.map Kind.mark = some mark then 1 else 0 := by
  rw [countP_recordings]
  cases run.issued? <;> cases run.reached? <;> simp [Counter.counts, Counter.adds]

theorem countP_durations (run : Finished) :
    run.recordings.countP Counter.durations.counts = if run.reached?.isSome then 1 else 0 := by
  rw [countP_recordings]
  cases run.issued? <;> cases run.reached? <;> rfl

/-- Where a verifier is reached, it comes to a verdict or is said to have raised. -/
theorem countP_status (run : Finished) :
    run.recordings.countP Counter.durations.counts =
      run.recordings.countP (Counter.status true).counts +
        run.recordings.countP (Counter.status false).counts + if run.raised then 1 else 0 := by
  simp only [countP_recordings]
  cases reached : run.reached? with
  | none =>
    have quiet : run.raised = false := by rw [raised, reached, Option.any_none]
    rw [quiet]
    cases run.issued? <;> rfl
  | some pair =>
    have told : run.raised = (pair.1.verdict? pair.2).isNone := by
      rw [raised, reached, Option.any_some]
    rw [told]
    cases run.issued? <;> simp [Counter.counts, Counter.adds_durations]

theorem countP_statuses (past : List Finished) :
    (past.flatMap recordings).countP Counter.durations.counts =
      (past.flatMap recordings).countP (Counter.status true).counts +
        (past.flatMap recordings).countP (Counter.status false).counts +
        past.countP raised := by
  induction past with
  | nil => rfl
  | cons run rest ih =>
    simp only [List.flatMap_cons, List.countP_append, List.countP_cons, ih, run.countP_status]
    omega

end Finished

/-- From new metrics on, whatever is run in a process: the summary's numbers are those of the runs
that issued a token, that issued one under a mark, and that reached a verifier; successes and
failures are as many as those that reached one and got a verdict. Of the runs that follow, a good
inspection counts for one success, a bad one for one failure, and an idle run for nothing. -/
theorem runs_counted_once (random : ByteSource) (name : Text) (verbose : Option Bool)
    (runs : List (Surroundings × List Text)) :
    let past := finished ⟨random, .new name, verbose⟩ runs
    let later := (runAll ⟨random, .new name, verbose⟩ runs).2
    past.length = runs.length ∧
      later.metrics.reading .issued = past.countP (fun run => run.issued?.isSome) ∧
      (∀ mark, later.metrics.reading (.issuedMark mark) =
        past.countP fun run => run.issued?.map Kind.mark = some mark) ∧
      later.metrics.reading .durations = past.countP (fun run => run.reached?.isSome) ∧
      later.metrics.reading (.status true) + later.metrics.reading (.status false) +
          past.countP Finished.raised =
        past.countP (fun run => run.reached?.isSome) ∧
      ∀ surroundings line,
        Finished.Contributes ⟨surroundings, line, (run surroundings line later).1⟩ later.metrics
          (run surroundings line later).2.metrics := by
  intro past later
  have history : later.metrics = (Metrics.new name).after (past.flatMap Finished.recordings) :=
    metrics_runAll ⟨random, .new name, verbose⟩ runs
  have reading (counter : Counter) : later.metrics.reading counter =
      (past.flatMap Finished.recordings).countP counter.counts := by
    rw [history, Metrics.reading_history]
  have durations := Finished.countP_flatMap_recordings Finished.countP_durations past
  refine ⟨length_finished _ runs, ?_, ?_, (reading .durations).trans durations, ?_, ?_⟩
  · rw [reading]
    exact Finished.countP_flatMap_recordings Finished.countP_issued past
  · intro mark
    rw [reading]
    apply Finished.countP_flatMap_recordings
    simpa using Finished.countP_issuedMark mark
  · rw [reading, reading, ← Finished.countP_statuses]
    exact durations
  · intro surroundings line
    apply contributes_run surroundings line
    rw [history]
    exact (Metrics.sound_new name).after _

end Cli

end SealedToken
