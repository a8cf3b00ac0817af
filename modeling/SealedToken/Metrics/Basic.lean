import SealedToken.Text.Basic

/-!
Counting what a deployment does: tokens issued by mark, verifications by outcome, and how long
verifications take. Named counters serve the summary, labelled series the exposition.
-/

set_option autoImplicit false

namespace SealedToken

/-- Counts by key, in the order in which the keys were first counted. -/
structure Tally (Key : Type) where
  entries : List (Key × Nat)
  deriving Repr

namespace Tally

variable {Key : Type} [DecidableEq Key]

def empty : Tally Key := ⟨[]⟩

def bumpIn (key : Key) : List (Key × Nat) → List (Key × Nat)
  | [] => [(key, 1)]
  | (other, count) :: rest =>
    if other = key then (other, count + 1) :: rest else (other, count) :: bumpIn key rest

def bump (tally : Tally Key) (key : Key) : Tally Key := ⟨bumpIn key tally.entries⟩

def countIn (key : Key) : List (Key × Nat) → Nat
  | [] => 0
  | (other, count) :: rest => if other = key then count else countIn key rest

/-- A key that was never counted has count zero. -/
def count (tally : Tally Key) (key : Key) : Nat := countIn key tally.entries

theorem countIn_bumpIn (key other : Key) (entries : List (Key × Nat)) :
    countIn other (bumpIn key entries) = countIn other entries + if other = key then 1 else 0 := by
  induction entries with
  | nil => by_cases same : key = other <;> simp [bumpIn, countIn, same, eq_comm]
  | cons first rest ih =>
    obtain ⟨name, count⟩ := first
    by_cases found : name = key
    · subst found
      by_cases same : name = other
      · simp [bumpIn, countIn, same]
      · simp [bumpIn, countIn, same, Ne.symm same]
    · by_cases same : name = other
      · subst same
        simp [bumpIn, countIn, found]
      · simp [bumpIn, countIn, found, same, ih]

@[simp] theorem count_bump (tally : Tally Key) (key other : Key) :
    (tally.bump key).count other = tally.count other + if other = key then 1 else 0 :=
  countIn_bumpIn key other tally.entries

end Tally

/-- Durations in seconds: their number, their sum, and how many fell into each bucket. -/
structure Durations where
  count : Nat
  total : Float
  buckets : List Nat

namespace Durations

/-- The upper ends of the buckets; a last one takes all the rest. -/
def bounds : List Float := [0.0001, 0.0005, 0.001, 0.005, 0.01, 0.05, 0.1]

def empty : Durations := ⟨0, 0, List.replicate (bounds.length + 1) 0⟩

/-- One more in the first bucket that reaches so far; what is no number falls into none. -/
def observeIn (seconds : Float) : List Float → List Nat → List Nat
  | bound :: bounds, count :: counts =>
    if seconds ≤ bound then (count + 1) :: counts else count :: observeIn seconds bounds counts
  | _, counts => counts

def observe (durations : Durations) (seconds : Float) : Durations :=
  { count := durations.count + 1
    total := durations.total + seconds
    buckets := observeIn seconds (bounds ++ [1 / 0]) durations.buckets }

end Durations

/-- The labels of a verification sample. -/
structure Outcome where
  valid : Bool
  reason : Text
  deriving DecidableEq, Repr

def Outcome.status (outcome : Outcome) : Text :=
  if outcome.valid then "success" else "failure"

structure Metrics where
  name : Text
  counters : Tally Text
  issued : Tally Text
  outcomes : Tally Outcome
  durations : Durations

/-- A value of the summary. -/
inductive Stat where
  | count (value : Nat)
  | ratio (value : Float)

namespace Metrics

def new (name : Text) : Metrics := ⟨name, .empty, .empty, .empty, .empty⟩

/-- The name that metrics have unless another is given. -/
def defaultName : Text := "localtoken"

def issuedName : Text := "issued"

def issuedMarkName (mark : Text) : Text := "issued_" ++ mark

def statusName (valid : Bool) : Text :=
  "verifications_" ++ Outcome.status ⟨valid, []⟩

def reasonName (reason : Text) : Text := "reason_" ++ reason

def recordIssued (metrics : Metrics) (mark : Text) : Metrics :=
  { metrics with
    counters := (metrics.counters.bump issuedName).bump (issuedMarkName mark)
    issued := metrics.issued.bump mark }

def recordVerification (metrics : Metrics) (valid : Bool) (reason : Text) : Metrics :=
  { metrics with
    counters := (metrics.counters.bump (statusName valid)).bump (reasonName reason)
    outcomes := metrics.outcomes.bump ⟨valid, reason⟩ }

def recordDuration (metrics : Metrics) (seconds : Float) : Metrics :=
  { metrics with durations := metrics.durations.observe seconds }

/-- The mean duration and the number of durations, if there are any. -/
def durationStats (durations : Durations) : List (Text × Stat) :=
  if durations.count = 0 then []
  else
    [("verification_duration_avg",
        .ratio (durations.total / Float.ofNat durations.count)),
      ("verification_duration_count", .count durations.count)]

/-- The share of successes, if anything was verified. -/
def rateStats (success failure : Nat) : List (Text × Stat) :=
  if success + failure = 0 then []
  else
    [("verification_success_rate",
      .ratio (Float.ofNat success / Float.ofNat (success + failure)))]

/-- The summary, name by name. -/
def stats (metrics : Metrics) : List (Text × Stat) :=
  metrics.counters.entries.map (fun (name, count) => (name, .count count)) ++
    durationStats metrics.durations ++
    rateStats (metrics.counters.count (statusName true)) (metrics.counters.count (statusName false))

end Metrics

end SealedToken
