import Mathlib
import SealedToken.Proofs.Exposition
import SealedToken.Text.Utf8.Lemmas

/-!
What metrics count. After any recordings the summary gives, under names that never meet, how many of
them each of its counters is about, and the exposition gives the same numbers label by label.
-/

set_option autoImplicit false

namespace SealedToken

/-! ## Tallies -/

namespace Tally

variable {Key : Type} [DecidableEq Key]

def keys (tally : Tally Key) : List Key := tally.entries.map Prod.fst

/-- No key has two entries, and only keys that were counted have one. -/
structure Sound (tally : Tally Key) : Prop where
  distinct : tally.keys.Nodup
  positive : ∀ entry ∈ tally.entries, 0 < entry.2

theorem keys_bumpIn (key : Key) (entries : List (Key × Nat)) :
    (bumpIn key entries).map Prod.fst =
      if key ∈ entries.map Prod.fst then entries.map Prod.fst
      else entries.map Prod.fst ++ [key] := by
  induction entries with
  | nil => rfl
  | cons first rest ih =>
    obtain ⟨other, count⟩ := first
    by_cases same : other = key
    · simp [bumpIn, same]
    · simp only [bumpIn, if_neg same, List.map_cons, ih, List.mem_cons, Ne.symm same, false_or]
      split <;> rfl

theorem positive_bumpIn (key : Key) {entries : List (Key × Nat)}
    (positive : ∀ entry ∈ entries, 0 < entry.2) : ∀ entry ∈ bumpIn key entries, 0 < entry.2 := by
  induction entries with
  | nil => simp [bumpIn]
  | cons first rest ih =>
    obtain ⟨other, count⟩ := first
    obtain ⟨here, later⟩ := List.forall_mem_cons.mp positive
    unfold bumpIn
    split
    · exact List.forall_mem_cons.mpr ⟨Nat.succ_pos count, later⟩
    · exact List.forall_mem_cons.mpr ⟨here, ih later⟩

omit [DecidableEq Key] in
theorem sound_empty : (empty : Tally Key).Sound := ⟨List.nodup_nil, List.forall_mem_nil _⟩

theorem keys_bump (tally : Tally Key) (key : Key) :
    (tally.bump key).keys = if key ∈ tally.keys then tally.keys else tally.keys ++ [key] :=
  keys_bumpIn key tally.entries

theorem mem_keys_bump {tally : Tally Key} {key other : Key}
    (inside : other ∈ (tally.bump key).keys) :
    other ∈ tally.keys ∨ other = key := by
  rw [keys_bump] at inside
  split at inside
  · exact .inl inside
  · simpa using inside

theorem Sound.bump {tally : Tally Key} (sound : tally.Sound) (key : Key) :
    (tally.bump key).Sound where
  distinct := by
    rw [keys_bump]
    split
    · exact sound.distinct
    · next fresh => simpa using List.Nodup.concat fresh sound.distinct
  positive := positive_bumpIn key sound.positive

/-- A key has an entry exactly if its count is not zero. -/
theorem Sound.find?_entries {tally : Tally Key} (sound : tally.Sound) (key : Key) :
    (tally.entries.find? (·.1 = key)).map Prod.snd =
      if tally.count key = 0 then none else some (tally.count key) := by
  obtain ⟨entries⟩ := tally
  have positive := sound.positive
  unfold count
  dsimp only at positive ⊢
  clear sound
  induction entries with
  | nil => rfl
  | cons first rest ih =>
    obtain ⟨other, count⟩ := first
    obtain ⟨here, later⟩ := List.forall_mem_cons.mp positive
    by_cases same : other = key
    · have counted : count ≠ 0 := Nat.ne_of_gt here
      simp [countIn, same, counted]
    · simpa [countIn, same] using ih later

theorem mem_entries_of_count_ne_zero {tally : Tally Key} {key : Key}
    (counted : tally.count key ≠ 0) : (key, tally.count key) ∈ tally.entries := by
  obtain ⟨entries⟩ := tally
  unfold count at *
  induction entries with
  | nil => exact absurd rfl counted
  | cons first rest ih =>
    obtain ⟨other, count⟩ := first
    by_cases same : other = key
    · simp [countIn, same]
    · simp only [countIn, if_neg same] at counted ⊢
      exact List.mem_cons_of_mem _ (ih counted)

/-- A key has one entry, if it was counted. -/
theorem Sound.filterMap_entries {tally : Tally Key} (sound : tally.Sound) (key : Key) :
    (tally.entries.filterMap fun entry => if entry.1 = key then some entry.2 else none) =
      if tally.count key = 0 then [] else [tally.count key] := by
  obtain ⟨entries⟩ := tally
  obtain ⟨distinct, positive⟩ := sound
  unfold count
  dsimp only [keys] at distinct positive ⊢
  induction entries with
  | nil => rfl
  | cons first rest ih =>
    obtain ⟨other, count⟩ := first
    obtain ⟨fresh, distinct⟩ := List.nodup_cons.mp distinct
    obtain ⟨here, later⟩ := List.forall_mem_cons.mp positive
    by_cases same : other = key
    · subst same
      have none : (rest.filterMap fun entry => if entry.1 = other then some entry.2 else none) =
          [] := by
        rw [List.filterMap_eq_nil_iff]
        intro entry listed
        refine if_neg fun same => fresh ?_
        rw [← same]
        exact List.mem_map.mpr ⟨entry, listed, rfl⟩
      have counted : count ≠ 0 := Nat.ne_of_gt here
      simp [countIn, none, counted]
    · simpa [countIn, same] using ih distinct later

theorem count_eq_zero_of_not_mem {tally : Tally Key} {key : Key} (absent : key ∉ tally.keys) :
    tally.count key = 0 := by
  obtain ⟨entries⟩ := tally
  unfold keys count at *
  induction entries with
  | nil => rfl
  | cons first rest ih =>
    simp only [List.map_cons, List.mem_cons, not_or] at absent
    rw [countIn, if_neg (Ne.symm absent.1)]
    exact ih absent.2

end Tally

/-! ## Counters -/

/-- What a number of the summary counts. -/
inductive Counter where
  | issued
  | issuedMark (mark : Text)
  | status (valid : Bool)
  | reason (reason : Text)
  | durations
  deriving DecidableEq, Repr

/-- A call on metrics. -/
inductive Recording where
  | issued (mark : Text)
  | verification (outcome : Outcome)
  | duration (seconds : Float)

namespace Recording

def outcome? : Recording → Option Outcome
  | verification outcome => some outcome
  | _ => none

/-- A duration is a number. -/
def Numeric : Recording → Prop
  | duration seconds => seconds.isNaN = false
  | _ => True

end Recording

namespace Counter

/-- The name under which the summary gives the number. -/
def name : Counter → Text
  | issued => Metrics.issuedName
  | issuedMark mark => Metrics.issuedMarkName mark
  | status valid => Metrics.statusName valid
  | reason text => Metrics.reasonName text
  | durations => "verification_duration_count"

/-- The recordings that are counted. -/
def counts : Counter → Recording → Bool
  | issued, .issued _ => true
  | issuedMark mark, .issued other => other = mark
  | status valid, .verification outcome => outcome.valid = valid
  | reason text, .verification outcome => outcome.reason = text
  | durations, .duration _ => true
  | _, _ => false

section Names

theorem name_issued :
    issued.name = [.char 'i', .char 's', .char 's', .char 'u', .char 'e', .char 'd'] := rfl

theorem name_issuedMark (mark : Text) :
    (issuedMark mark).name =
      .char 'i' :: .char 's' :: .char 's' :: .char 'u' :: .char 'e' :: .char 'd' :: .char '_' ::
        mark := rfl

theorem name_status (valid : Bool) :
    (status valid).name =
      .char 'v' :: Text.ofString "erification" ++ .char 's' :: .char '_' ::
        Outcome.status ⟨valid, []⟩ := rfl

theorem name_reason (text : Text) :
    (reason text).name =
      .char 'r' :: .char 'e' :: .char 'a' :: .char 's' :: .char 'o' :: .char 'n' :: .char '_' ::
        text := rfl

theorem name_durations :
    durations.name =
      .char 'v' :: Text.ofString "erification" ++ .char '_' :: Text.ofString "duration_count" := rfl

theorem status_injective {first second : Bool}
    (same : Outcome.status ⟨first, []⟩ = Outcome.status ⟨second, []⟩) : first = second := by
  cases first <;> cases second <;> first | rfl | exact absurd same (by decide)

/-- Whatever marks and reasons are, no two counters share a name. -/
theorem name_injective : Function.Injective name := by
  intro first second same
  -- The first letter tells the families apart, and what follows the first word the rest.
  cases first <;> cases second <;>
    simp only [name_issued, name_issuedMark, name_status, name_reason, name_durations,
      List.cons_append, List.cons.injEq, reduceCtorEq, CodePoint.char.injEq, Char.reduceEq,
      true_and,
      false_and, and_false, List.append_cancel_left_eq] at same ⊢
  · exact congrArg issuedMark same
  · exact congrArg status (status_injective same)
  · exact congrArg reason same

end Names

end Counter

namespace Metrics

def averageName : Text := "verification_duration_avg"

def rateName : Text := "verification_success_rate"

end Metrics

namespace Counter

/-- Of the names that say `verification` of one thing, the summary's only number is that of
durations. -/
theorem name_verification {counter : Counter} (rest : Text)
    (same : counter.name = .char 'v' :: Text.ofString "erification" ++ .char '_' :: rest) :
    rest = "duration_count" := by
  cases counter <;>
    simp only [name_issued, name_issuedMark, name_status, name_reason, name_durations,
      List.cons_append, List.cons.injEq, CodePoint.char.injEq, Char.reduceEq, true_and, false_and,
      and_false, List.append_cancel_left_eq] at same
  exact same.symm

theorem name_ne_averageName (counter : Counter) : counter.name ≠ Metrics.averageName :=
  fun same => absurd (name_verification "duration_avg" same) (by decide)

theorem name_ne_rateName (counter : Counter) : counter.name ≠ Metrics.rateName :=
  fun same => absurd (name_verification "success_rate" same) (by decide)

end Counter

/-! ## Histories of recordings -/

namespace Metrics

/-- The metrics after a recording. -/
def record (metrics : Metrics) : Recording → Metrics
  | .issued mark => metrics.recordIssued mark
  | .verification outcome => metrics.recordVerification outcome.valid outcome.reason
  | .duration seconds => metrics.recordDuration seconds

/-- The metrics after recordings in turn. -/
def after (metrics : Metrics) (history : List Recording) : Metrics := history.foldl record metrics

/-- What a counter stands at. -/
def number (metrics : Metrics) : Counter → Nat
  | .durations => metrics.durations.count
  | counter => metrics.counters.count counter.name

variable (metrics : Metrics) (history : List Recording)

/-- A view that each recording it counts raises by one. -/
theorem view_after (view : Metrics → Nat) (counts : Recording → Bool)
    (step : ∀ metrics recording,
      view (metrics.record recording) = view metrics + if counts recording then 1 else 0) :
    view (metrics.after history) = view metrics + history.countP counts := by
  induction history generalizing metrics with
  | nil => rfl
  | cons recording rest ih =>
    calc
      view (metrics.after (recording :: rest))
        = view (metrics.record recording) + rest.countP counts := ih _
      _ = view metrics + (recording :: rest).countP counts := by
        rw [step, List.countP_cons, Nat.add_assoc, Nat.add_comm (rest.countP counts)]

theorem counters_issued (mark : Text) :
    (metrics.record (.issued mark)).counters =
      (metrics.counters.bump Counter.issued.name).bump (Counter.issuedMark mark).name := rfl

theorem counters_verification (outcome : Outcome) :
    (metrics.record (.verification outcome)).counters =
      (metrics.counters.bump (Counter.status outcome.valid).name).bump
        (Counter.reason outcome.reason).name := rfl

theorem number_record (counter : Counter) (recording : Recording) :
    (metrics.record recording).number counter =
      metrics.number counter + if counter.counts recording then 1 else 0 := by
  -- The two names that a recording bumps are names of counters, and names tell counters apart.
  have names : ∀ first second : Counter, first.name = second.name ↔ first = second :=
    fun _ _ => Counter.name_injective.eq_iff
  cases recording with
  | issued mark =>
    cases counter <;> simp [number, counters_issued, names, Counter.counts, eq_comm]
    rfl
  | verification outcome =>
    cases counter <;> simp [number, counters_verification, names, Counter.counts, eq_comm]
    rfl
  | duration seconds => cases counter <;> rfl

theorem issued_record (mark : Text) (recording : Recording) :
    (metrics.record recording).issued.count mark =
      metrics.issued.count mark + if (Counter.issuedMark mark).counts recording then 1 else 0 := by
  cases recording with
  | issued other =>
    have bumped : (metrics.record (.issued other)).issued = metrics.issued.bump other := rfl
    simp [bumped, Counter.counts, eq_comm]
  | verification => rfl
  | duration => rfl

theorem outcomes_record (outcome : Outcome) (recording : Recording) :
    (metrics.record recording).outcomes.count outcome =
      metrics.outcomes.count outcome + if recording.outcome? = some outcome then 1 else 0 := by
  cases recording with
  | issued => rfl
  | verification other =>
    have bumped : (metrics.record (.verification other)).outcomes = metrics.outcomes.bump other :=
      rfl
    simp [bumped, Recording.outcome?, eq_comm]
  | duration => rfl

theorem number_after (counter : Counter) :
    (metrics.after history).number counter =
      metrics.number counter + history.countP counter.counts :=
  metrics.view_after history (number · counter) counter.counts fun metrics =>
    metrics.number_record counter

theorem issued_after (mark : Text) :
    (metrics.after history).issued.count mark =
      metrics.issued.count mark + history.countP (Counter.issuedMark mark).counts :=
  metrics.view_after history (Metrics.issued · |>.count mark) _ fun metrics =>
    metrics.issued_record mark

theorem outcomes_after (outcome : Outcome) :
    (metrics.after history).outcomes.count outcome =
      metrics.outcomes.count outcome +
        history.countP (fun recording => recording.outcome? = some outcome) :=
  metrics.view_after history (Metrics.outcomes · |>.count outcome) _ fun metrics recording => by
    simpa using metrics.outcomes_record outcome recording

/-- The tally counts nothing under a name that no counter has. -/
theorem unnamed_after {name : Text} (unnamed : ∀ counter : Counter, name ≠ counter.name) :
    (metrics.after history).counters.count name = metrics.counters.count name := by
  refine (metrics.view_after history (Metrics.counters · |>.count name) (fun _ => false) ?_).trans
    (by simp)
  intro metrics recording
  cases recording with
  | issued => simp [counters_issued, unnamed]
  | verification => simp [counters_verification, unnamed]
  | duration => rfl

end Metrics

/-! ## Buckets of durations -/

namespace Durations

open Float.Model in
/-- Whatever is a number lies in the last bucket or before it. -/
theorem le_infinity {seconds : Float} (numeric : seconds.isNaN = false) : seconds ≤ 1 / 0 := by
  have top : (1 / 0 : Float).toModel.unpack = .infinity .positive := rfl
  have number : seconds.toModel.unpack.isNaN = false := numeric
  refine decide_eq_true ?_
  show UnpackedFloat.le seconds.toModel.unpack (1 / 0 : Float).toModel.unpack = true
  rw [top]
  cases shape : seconds.toModel.unpack with
  | notANumber => rw [shape] at number; cases number
  | infinity sign => cases sign <;> rfl
  | zero => rfl
  | finite => rfl

theorem length_observeIn (seconds : Float) (bounds : List Float) (counts : List Nat) :
    (observeIn seconds bounds counts).length = counts.length := by
  fun_induction observeIn seconds bounds counts with
  | case1 => rfl
  | case2 _ _ _ _ _ ih => exact congrArg Nat.succ ih
  | case3 => rfl

/-- A duration falls into one bucket if some bound is above it. -/
theorem sum_observeIn {seconds : Float} {bounds : List Float} {counts : List Nat}
    (long : bounds.length ≤ counts.length) (reached : ∃ bound ∈ bounds, seconds ≤ bound) :
    (observeIn seconds bounds counts).sum = counts.sum + 1 := by
  fun_induction observeIn seconds bounds counts with
  | case1 => simp only [List.sum_cons]; omega
  | case2 bound bounds count counts beyond ih =>
    have later : ∃ bound ∈ bounds, seconds ≤ bound := by
      obtain ⟨other, inside, below⟩ := reached
      rcases List.mem_cons.mp inside with rfl | inside
      · exact absurd below beyond
      · exact ⟨other, inside, below⟩
    rw [List.sum_cons, List.sum_cons, ih (Nat.le_of_succ_le_succ long) later, Nat.add_assoc]
  | case3 bounds counts few =>
    obtain ⟨bound, inside, _⟩ := reached
    cases bounds with
    | nil => cases inside
    | cons bound bounds =>
      cases counts with
      | nil => simp at long
      | cons count counts => exact absurd rfl (few bound bounds count counts rfl)

end Durations

/-! ## What metrics keep to -/

namespace Metrics

/-- What holds of metrics that were new once: their tallies are sound, every name in the summary's
tally is that of a counter, and each bound has its bucket. -/
structure Sound (metrics : Metrics) : Prop where
  counters : metrics.counters.Sound
  named : ∀ name ∈ metrics.counters.keys, ∃ counter ≠ Counter.durations, name = counter.name
  issued : metrics.issued.Sound
  outcomes : metrics.outcomes.Sound
  buckets : metrics.durations.buckets.length = Durations.bounds.length + 1

theorem sound_new (name : Text) : (new name).Sound where
  counters := Tally.sound_empty
  named := List.forall_mem_nil _
  issued := Tally.sound_empty
  outcomes := Tally.sound_empty
  buckets := rfl

theorem named_bump {counters : Tally Text}
    (named : ∀ name ∈ counters.keys, ∃ counter ≠ Counter.durations, name = counter.name)
    (counter : Counter) (other : counter ≠ .durations) :
    ∀ name ∈ (counters.bump counter.name).keys,
      ∃ counter ≠ Counter.durations, name = counter.name := by
  intro name inside
  rcases Tally.mem_keys_bump inside with inside | rfl
  · exact named name inside
  · exact ⟨counter, other, rfl⟩

theorem Sound.record {metrics : Metrics} (sound : metrics.Sound) (recording : Recording) :
    (metrics.record recording).Sound := by
  cases recording with
  | issued mark =>
    exact { sound with
      counters := (sound.counters.bump _).bump _
      named := named_bump (named_bump sound.named .issued Counter.noConfusion) (.issuedMark mark)
        Counter.noConfusion
      issued := sound.issued.bump mark }
  | verification outcome =>
    exact { sound with
      counters := (sound.counters.bump _).bump _
      named := named_bump (named_bump sound.named (.status outcome.valid) Counter.noConfusion)
        (.reason outcome.reason) Counter.noConfusion
      outcomes := sound.outcomes.bump outcome }
  | duration seconds =>
    exact { sound with buckets := (Durations.length_observeIn _ _ _).trans sound.buckets }

theorem Sound.after {metrics : Metrics} (sound : metrics.Sound) (history : List Recording) :
    (metrics.after history).Sound :=
  List.foldlRecOn history Metrics.record sound fun _ sound recording _ => sound.record recording

theorem filled_record {metrics : Metrics} (sound : metrics.Sound)
    (filled : metrics.durations.buckets.sum = metrics.durations.count) {recording : Recording}
    (numeric : recording.Numeric) :
    (metrics.record recording).durations.buckets.sum =
      (metrics.record recording).durations.count := by
  cases recording with
  | issued => exact filled
  | verification => exact filled
  | duration seconds =>
    have reached : ∃ bound ∈ Durations.bounds ++ [1 / 0], seconds ≤ bound :=
      ⟨1 / 0, by simp, Durations.le_infinity numeric⟩
    have long : (Durations.bounds ++ [1 / 0]).length ≤ metrics.durations.buckets.length := by
      simp [sound.buckets]
    calc
      (Durations.observeIn seconds (Durations.bounds ++ [1 / 0]) metrics.durations.buckets).sum
        = metrics.durations.buckets.sum + 1 := Durations.sum_observeIn long reached
      _ = metrics.durations.count + 1 := by rw [filled]

/-- As long as every duration is a number, each of them is in some bucket. -/
theorem filled_after {metrics : Metrics} (sound : metrics.Sound)
    (filled : metrics.durations.buckets.sum = metrics.durations.count) {history : List Recording}
    (numeric : ∀ recording ∈ history, recording.Numeric) :
    (metrics.after history).durations.buckets.sum = (metrics.after history).durations.count := by
  suffices (metrics.after history).Sound ∧
      (metrics.after history).durations.buckets.sum = (metrics.after history).durations.count from
    this.2
  refine List.foldlRecOn (motive := fun metrics : Metrics =>
    metrics.Sound ∧ metrics.durations.buckets.sum = metrics.durations.count)
    history record ⟨sound, filled⟩ ?_
  rintro before ⟨sound, filled⟩ recording listed
  exact ⟨sound.record recording, filled_record sound filled (numeric recording listed)⟩

end Metrics

/-- The last bucket, counted with all before it, has every duration that is in one. -/
theorem Exposition.getLastD_cumulative (sum : Nat) (counts : List Nat) :
    (cumulative sum counts).getLastD sum = sum + counts.sum := by
  induction counts generalizing sum with
  | nil => rfl
  | cons count counts ih =>
    calc
      (cumulative sum (count :: counts)).getLastD sum
        = (cumulative (sum + count) counts).getLastD (sum + count) := List.getLastD_cons
      _ = sum + (count :: counts).sum := by rw [ih, List.sum_cons, Nat.add_assoc]

/-! ## The summary -/

namespace Metrics

/-- What the summary gives under a name. -/
def shown? (metrics : Metrics) (name : Text) : Option Stat :=
  (metrics.stats.find? (·.1 = name)).map Prod.snd

/-- The summary's number for a counter; an absent one stands for zero. -/
def reading (metrics : Metrics) (counter : Counter) : Nat :=
  match metrics.shown? counter.name with
  | some (.count number) => number
  | _ => 0

variable {metrics : Metrics}

theorem shown?_eq (metrics : Metrics) (name : Text) :
    metrics.shown? name =
      (((metrics.counters.entries.find? (·.1 = name)).map Prod.snd).map Stat.count).or
        ((((durationStats metrics.durations).find? (·.1 = name)).map Prod.snd).or
        (((rateStats (metrics.counters.count (statusName true))
          (metrics.counters.count (statusName false))).find? (·.1 = name)).map Prod.snd)) := by
  simp [shown?, stats, List.find?_append, List.find?_map, Option.map_or, Function.comp_def]

theorem durationStats_eq (durations : Durations) :
    durationStats durations =
      if durations.count = 0 then []
      else
        [(averageName, .ratio (durations.total / Float.ofNat durations.count)),
          (Counter.durations.name, .count durations.count)] := rfl

theorem rateStats_eq (success failure : Nat) :
    rateStats success failure =
      if success + failure = 0 then []
      else [(rateName, .ratio (Float.ofNat success / Float.ofNat (success + failure)))] := rfl

/-- A number as the summary gives it: not at all if it is zero. -/
def counted? (number : Nat) : Option Stat := if number = 0 then none else some (.count number)

/-- What follows the tally has one counter's number, that of durations. -/
theorem find?_durationStats (durations : Durations) (counter : Counter) :
    ((durationStats durations).find? (·.1 = counter.name)).map Prod.snd =
      if counter = .durations then counted? durations.count else none := by
  rw [durationStats_eq, counted?]
  have average := counter.name_ne_averageName.symm
  by_cases none : durations.count = 0
  · simp [none]
  · by_cases same : counter = .durations
    · simp [none, same, Counter.durations.name_ne_averageName.symm]
    · have other : Counter.durations.name ≠ counter.name :=
        fun names => same (Counter.name_injective names).symm
      simp [none, same, average, other]

theorem find?_rateStats (success failure : Nat) (counter : Counter) :
    ((rateStats success failure).find? (·.1 = counter.name)).map Prod.snd = none := by
  have rate := counter.name_ne_rateName.symm
  rw [rateStats_eq]
  split <;> simp [rate]

theorem Sound.durations_not_named (sound : metrics.Sound) :
    Counter.durations.name ∉ metrics.counters.keys := by
  intro inside
  obtain ⟨counter, other, same⟩ := sound.named _ inside
  exact other (Counter.name_injective same.symm)

theorem Sound.find?_counters (sound : metrics.Sound) (counter : Counter) :
    ((metrics.counters.entries.find? (·.1 = counter.name)).map Prod.snd).map Stat.count =
      if counter = .durations then none else counted? (metrics.number counter) := by
  rw [sound.counters.find?_entries]
  by_cases same : counter = .durations
  · subst same
    rw [Tally.count_eq_zero_of_not_mem sound.durations_not_named]
    rfl
  · have number : metrics.number counter = metrics.counters.count counter.name := by
      cases counter <;> first | rfl | exact absurd rfl same
    rw [if_neg same, number, counted?]
    split <;> rfl

/-- The summary gives what each counter stands at. -/
theorem Sound.shown?_name (sound : metrics.Sound) (counter : Counter) :
    metrics.shown? counter.name = counted? (metrics.number counter) := by
  rw [shown?_eq, sound.find?_counters, find?_durationStats, find?_rateStats, Option.or_none]
  by_cases same : counter = .durations
  · subst same
    rfl
  · rw [if_neg same, if_neg same, Option.or_none]

theorem Sound.reading_eq (sound : metrics.Sound) (counter : Counter) :
    metrics.reading counter = metrics.number counter := by
  rw [reading, sound.shown?_name, counted?]
  by_cases zero : metrics.number counter = 0
  · rw [if_pos zero, zero]
  · rw [if_neg zero]

theorem mem_derived {name : Text} {durations : Durations} {success failure : Nat}
    (inside : name ∈ (durationStats durations).map Prod.fst ++
      (rateStats success failure).map Prod.fst) :
    name = averageName ∨ name = Counter.durations.name ∨ name = rateName := by
  rcases List.mem_append.mp inside with timed | rated
  · have either : name = averageName ∨ name = Counter.durations.name := by
      rw [durationStats_eq] at timed
      split at timed
      · cases timed
      · simpa using timed
    exact either.imp_right .inl
  · have rate : name = rateName := by
      rw [rateStats_eq] at rated
      split at rated
      · cases rated
      · simpa using rated
    exact .inr (.inr rate)

theorem nodup_derived (durations : Durations) (success failure : Nat) :
    ((durationStats durations).map Prod.fst ++ (rateStats success failure).map Prod.fst).Nodup := by
  have average := Counter.durations.name_ne_averageName.symm
  have rate := Counter.durations.name_ne_rateName
  have apart : averageName ≠ rateName := by decide
  rw [durationStats_eq, rateStats_eq]
  split <;> split <;> simp [average, rate, apart]

/-- The summary gives no name twice. -/
theorem Sound.nodup_stats (sound : metrics.Sound) : (metrics.stats.map Prod.fst).Nodup := by
  have names : metrics.stats.map Prod.fst = metrics.counters.keys ++
      ((durationStats metrics.durations).map Prod.fst ++
        (rateStats (metrics.counters.count (statusName true))
          (metrics.counters.count (statusName false))).map Prod.fst) := by
    simp [stats, Tally.keys, Function.comp_def]
  rw [names]
  refine List.nodup_append.mpr ⟨sound.counters.distinct, nodup_derived _ _ _, ?_⟩
  rintro name counted other derived rfl
  obtain ⟨counter, notDurations, rfl⟩ := sound.named name counted
  rcases mem_derived derived with same | same | same
  · exact counter.name_ne_averageName same
  · exact notDurations (Counter.name_injective same)
  · exact counter.name_ne_rateName same

end Metrics

/-! ## The exposition -/

namespace Metrics

open Exposition

/-- The exposition's line for the tokens issued under a mark. -/
def issuedLine (metrics : Metrics) (mark : Text) (number : Nat) : Text :=
  sample (sanitize (metrics.name ++ "_tokens_issued_total")) [label "prefix" mark]
    (Float.ofNat number)

/-- The exposition's line for the verifications with an outcome. -/
def outcomeLine (metrics : Metrics) (outcome : Outcome) (number : Nat) : Text :=
  sample (sanitize (metrics.name ++ "_verifications_total"))
    [label "reason" outcome.reason, label "status" outcome.status] (Float.ofNat number)

/-- The exposition's line for the number of durations. -/
def durationsLine (metrics : Metrics) (number : Nat) : Text :=
  sample (sanitize (metrics.name ++ "_verification_duration_seconds") ++ "_count") []
    (Float.ofNat number)

variable {metrics : Metrics}

theorem infix_lines {Key : Type} (line : Key → Nat → Text) {entries : List (Key × Nat)} {key : Key}
    {count : Nat} (listed : (key, count) ∈ entries) :
    line key count <:+: entries.flatMap fun entry => line entry.1 entry.2 :=
  List.infix_of_mem_flatten (List.mem_map_of_mem listed)

theorem issuedLine_infix {mark : Text} (counted : metrics.issued.count mark ≠ 0) :
    metrics.issuedLine mark (metrics.issued.count mark) <:+: metrics.exposition := by
  have line : metrics.issuedLine mark (metrics.issued.count mark) <:+:
      metrics.issued.entries.flatMap fun entry => metrics.issuedLine entry.1 entry.2 :=
    infix_lines metrics.issuedLine (Tally.mem_entries_of_count_ne_zero counted)
  refine line.trans ?_
  unfold exposition
  iterate 6 refine .trans ?_ (List.prefix_append _ _).isInfix
  exact (List.suffix_append _ _).isInfix

theorem outcomeLine_infix {outcome : Outcome} (counted : metrics.outcomes.count outcome ≠ 0) :
    metrics.outcomeLine outcome (metrics.outcomes.count outcome) <:+: metrics.exposition := by
  have line : metrics.outcomeLine outcome (metrics.outcomes.count outcome) <:+:
      metrics.outcomes.entries.flatMap fun entry => metrics.outcomeLine entry.1 entry.2 :=
    infix_lines metrics.outcomeLine (Tally.mem_entries_of_count_ne_zero counted)
  refine line.trans ?_
  unfold exposition
  iterate 4 refine .trans ?_ (List.prefix_append _ _).isInfix
  exact (List.suffix_append _ _).isInfix

theorem durationsLine_infix (metrics : Metrics) :
    metrics.durationsLine ((cumulative 0 metrics.durations.buckets).getLastD 0) <:+:
      metrics.exposition := by
  unfold exposition
  refine .trans ?_ (List.prefix_append _ _).isInfix
  exact (List.suffix_append _ _).isInfix

theorem labelled_entries {Key : Type} [DecidableEq Key] {tally : Tally Key} (sound : tally.Sound)
    {labels : Key → List (Text × Text)} (injective : Function.Injective labels) (key : Key) :
    labelled labels (labels key) tally.entries =
      if tally.count key = 0 then [] else [tally.count key] := by
  rw [labelled, ← sound.filterMap_entries key]
  simp only [injective.eq_iff]

theorem issuedLabels_injective : Function.Injective issuedLabels := fun first second same => by
  simpa [issuedLabels] using same

theorem outcomeLabels_injective : Function.Injective outcomeLabels := by
  rintro ⟨first, reason⟩ ⟨second, other⟩ same
  simp only [outcomeLabels, List.cons.injEq, Prod.mk.injEq, true_and, and_true] at same
  obtain ⟨rfl, status⟩ := same
  rw [Counter.status_injective status]

/-- The values of a series that has counted so many: a line of its own, once it counted any. -/
def once (count : Nat) : List Text :=
  if count = 0 then [] else [Exposition.number (Float.ofNat count)]

/-- A scraper finds one line for a mark that was issued, and none for another. -/
theorem exposed_issued (sound : metrics.issued.Sound) (mark : Text) :
    metrics.exposed "_tokens_issued_total" (issuedLabels mark) =
      once (metrics.issued.count mark) := by
  rw [metrics.exposed_eq (by decide), once]
  simp only [labelled_entries sound issuedLabels_injective, Text.ofString_inj, String.reduceEq,
    false_and, if_true, if_false, List.append_nil]
  split <;> rfl

theorem exposed_outcome (sound : metrics.outcomes.Sound) (outcome : Outcome) :
    metrics.exposed "_verifications_total" (outcomeLabels outcome) =
      once (metrics.outcomes.count outcome) := by
  rw [metrics.exposed_eq (by decide), once]
  simp only [labelled_entries sound outcomeLabels_injective, Text.ofString_inj, String.reduceEq,
    false_and, if_true, if_false, List.nil_append, List.append_nil]
  split <;> rfl

theorem decode?_published {metrics : Metrics} {bytes : Bytes}
    (published : metrics.published = .ok bytes) : Utf8.decode? bytes = some metrics.exposition := by
  obtain ⟨encodable, rfl⟩ := Utf8.encode?_eq_ok_iff.mp published
  exact Utf8.decode?_encode encodable

theorem exposed_durations (metrics : Metrics) :
    metrics.exposed "_verification_duration_seconds_count" [] =
      [Exposition.number
        (Float.ofNat ((cumulative 0 metrics.durations.buckets).getLastD 0))] := by
  rw [metrics.exposed_eq (by decide)]
  simp

end Metrics

/-! ## Metrics are their history -/

/-- Counting a whole is counting its parts, if each recording is in as many of either. -/
theorem countP_eq_sum {Key : Type} (keys : Finset Key) {whole : Recording → Bool}
    {part : Key → Recording → Bool} {history : List Recording}
    (split : ∀ recording ∈ history,
      (if whole recording then 1 else 0) = ∑ key ∈ keys, if part key recording then 1 else 0) :
    history.countP whole = ∑ key ∈ keys, history.countP (part key) := by
  induction history with
  | nil => simp
  | cons recording rest ih =>
    obtain ⟨here, later⟩ := List.forall_mem_cons.mp split
    simp only [List.countP_cons, ih later, here, Finset.sum_add_distrib]

namespace Metrics

/-- The marks are all those that tokens were issued with. -/
def CoversMarks (history : List Recording) (marks : Finset Text) : Prop :=
  ∀ mark, Recording.issued mark ∈ history → mark ∈ marks

/-- The reasons are all those that verifications gave. -/
def CoversReasons (history : List Recording) (reasons : Finset Text) : Prop :=
  ∀ outcome, Recording.verification outcome ∈ history → outcome.reason ∈ reasons

variable {history : List Recording}

theorem countP_issued {marks : Finset Text} (covers : CoversMarks history marks) :
    history.countP Counter.issued.counts =
      ∑ mark ∈ marks, history.countP (Counter.issuedMark mark).counts := by
  refine countP_eq_sum marks fun recording listed => ?_
  cases recording with
  | issued mark => simp [Counter.counts, covers mark listed]
  | verification => simp [Counter.counts]
  | duration => simp [Counter.counts]

theorem countP_status {reasons : Finset Text} (covers : CoversReasons history reasons)
    (valid : Bool) :
    history.countP (Counter.status valid).counts =
      ∑ reason ∈ reasons,
        history.countP (fun recording => recording.outcome? = some ⟨valid, reason⟩) := by
  refine countP_eq_sum reasons fun recording listed => ?_
  cases recording with
  | issued => simp [Counter.counts, Recording.outcome?]
  | verification outcome =>
    obtain ⟨given, reason⟩ := outcome
    have inside : reason ∈ reasons := covers _ listed
    by_cases same : given = valid <;> simp [Counter.counts, Recording.outcome?, same, inside]
  | duration => simp [Counter.counts, Recording.outcome?]

theorem countP_reason (reason : Text) :
    history.countP (Counter.reason reason).counts =
      ∑ valid : Bool,
        history.countP (fun recording => recording.outcome? = some ⟨valid, reason⟩) := by
  refine countP_eq_sum Finset.univ fun recording _ => ?_
  rw [Fintype.sum_bool]
  cases recording with
  | issued => simp [Counter.counts, Recording.outcome?]
  | verification outcome =>
    obtain ⟨given, other⟩ := outcome
    cases given <;> simp [Counter.counts, Recording.outcome?]
  | duration => simp [Counter.counts, Recording.outcome?]

/-- The summary after a history: each number is that of the recordings it counts, and the totals
are the sums of what they are split into. -/
structure Summarizes (metrics : Metrics) (history : List Recording) : Prop where
  distinct : (metrics.stats.map Prod.fst).Nodup
  numbers (counter : Counter) :
    metrics.shown? counter.name = counted? (history.countP counter.counts)
  issued {marks : Finset Text} (covers : CoversMarks history marks) :
    metrics.reading .issued = ∑ mark ∈ marks, metrics.reading (.issuedMark mark)
  verified {reasons : Finset Text} (covers : CoversReasons history reasons) :
    metrics.reading (.status true) + metrics.reading (.status false) =
      ∑ reason ∈ reasons, metrics.reading (.reason reason)

/-- The exposition's series after a history: label by label they have the summary's numbers, every
series that has counted something has its line, and a scraper finds that line alone. -/
structure Exposes (metrics : Metrics) (history : List Recording) : Prop where
  issued (mark : Text) : metrics.issued.count mark = metrics.reading (.issuedMark mark)
  outcomes (outcome : Outcome) :
    metrics.outcomes.count outcome =
      history.countP fun recording => recording.outcome? = some outcome
  statuses {reasons : Finset Text} (covers : CoversReasons history reasons) (valid : Bool) :
    ∑ reason ∈ reasons, metrics.outcomes.count ⟨valid, reason⟩ = metrics.reading (.status valid)
  reasons (reason : Text) :
    ∑ valid : Bool, metrics.outcomes.count ⟨valid, reason⟩ = metrics.reading (.reason reason)
  durations :
    (Exposition.cumulative 0 metrics.durations.buckets).getLastD 0 = metrics.reading .durations
  issuedLine (mark : Text) (counted : metrics.reading (.issuedMark mark) ≠ 0) :
    metrics.issuedLine mark (metrics.reading (.issuedMark mark)) <:+: metrics.exposition
  outcomeLine (outcome : Outcome) (counted : metrics.outcomes.count outcome ≠ 0) :
    metrics.outcomeLine outcome (metrics.outcomes.count outcome) <:+: metrics.exposition
  durationsLine : metrics.durationsLine (metrics.reading .durations) <:+: metrics.exposition
  issuedValues (mark : Text) :
    metrics.exposed "_tokens_issued_total" (issuedLabels mark) =
      once (metrics.reading (.issuedMark mark))
  outcomeValues (outcome : Outcome) :
    metrics.exposed "_verifications_total" (outcomeLabels outcome) =
      once (metrics.outcomes.count outcome)
  durationsValue :
    metrics.exposed "_verification_duration_seconds_count" [] =
      [Exposition.number (Float.ofNat (metrics.reading .durations))]
  published (bytes : Bytes) (served : metrics.published = .ok bytes) :
    Utf8.decode? bytes = some metrics.exposition

theorem number_new (name : Text) (counter : Counter) : (new name).number counter = 0 := by
  cases counter <;> rfl

theorem number_history (name : Text) (history : List Recording) (counter : Counter) :
    ((new name).after history).number counter = history.countP counter.counts := by
  rw [number_after, number_new, Nat.zero_add]

theorem reading_history (name : Text) (history : List Recording) (counter : Counter) :
    ((new name).after history).reading counter = history.countP counter.counts := by
  rw [((sound_new name).after history).reading_eq, number_history]

theorem outcomes_history (name : Text) (history : List Recording) (outcome : Outcome) :
    ((new name).after history).outcomes.count outcome =
      history.countP (fun recording => recording.outcome? = some outcome) :=
  (outcomes_after _ history outcome).trans (Nat.zero_add _)

theorem summarizes_history (name : Text) (history : List Recording) :
    ((new name).after history).Summarizes history where
  distinct := ((sound_new name).after history).nodup_stats
  numbers counter := by
    rw [((sound_new name).after history).shown?_name, number_history]
  issued covers := by
    simp only [reading_history]
    exact countP_issued covers
  verified {reasons} covers := by
    simp only [reading_history, countP_status covers, countP_reason]
    calc
      (∑ reason ∈ reasons, history.countP (·.outcome? = some ⟨true, reason⟩)) +
          ∑ reason ∈ reasons, history.countP (·.outcome? = some ⟨false, reason⟩)
        = ∑ reason ∈ reasons, (history.countP (·.outcome? = some ⟨true, reason⟩) +
            history.countP (·.outcome? = some ⟨false, reason⟩)) := Finset.sum_add_distrib.symm
      _ = ∑ reason ∈ reasons, ∑ valid : Bool,
            history.countP (·.outcome? = some ⟨valid, reason⟩) := by
        simp only [Fintype.sum_bool]

theorem exposes_history (name : Text) {history : List Recording}
    (numeric : ∀ recording ∈ history, recording.Numeric) :
    ((new name).after history).Exposes history := by
  have reading := reading_history name history
  have outcomes := outcomes_history name history
  have issued : ∀ mark, ((new name).after history).issued.count mark =
      ((new name).after history).reading (.issuedMark mark) := fun mark =>
    (issued_after _ history mark).trans ((Nat.zero_add _).trans (reading _).symm)
  have durations : (Exposition.cumulative 0 ((new name).after history).durations.buckets).getLastD 0
      = ((new name).after history).reading .durations := by
    rw [Exposition.getLastD_cumulative, Nat.zero_add, filled_after (sound_new name) rfl numeric,
      reading, ← number_history name]
    rfl
  exact {
    issued
    outcomes
    statuses covers valid := by simp only [outcomes, reading, countP_status covers]
    reasons reason := by simp only [outcomes, reading, countP_reason]
    durations
    issuedLine mark counted := by
      rw [← issued] at counted ⊢
      exact issuedLine_infix counted
    outcomeLine outcome counted := outcomeLine_infix counted
    durationsLine := by
      rw [← durations]
      exact durationsLine_infix _
    issuedValues mark := by
      rw [← issued]
      exact exposed_issued ((sound_new name).after history).issued mark
    outcomeValues outcome := exposed_outcome ((sound_new name).after history).outcomes outcome
    durationsValue := by
      rw [← durations]
      exact exposed_durations _
    published bytes served := decode?_published served }

/-- Whatever marks and reasons are recorded, in whatever order: no two numbers of the summary share
a name, and both the summary and the exposition give the numbers of the history. -/
theorem counts_history (name : Text) (history : List Recording)
    (numeric : ∀ recording ∈ history, recording.Numeric) :
    Function.Injective Counter.name ∧
      (∀ counter : Counter, counter.name ≠ averageName ∧ counter.name ≠ rateName) ∧
      ((new name).after history).Summarizes history ∧
      ((new name).after history).Exposes history :=
  ⟨Counter.name_injective, fun counter => ⟨counter.name_ne_averageName, counter.name_ne_rateName⟩,
    summarizes_history name history, exposes_history name numeric⟩

/-- Two tokens and two verifications, one of them timed. The marks make names that look alike. -/
def mixedHistory : List Recording :=
  [.issued "issued_", .duration 0.25, .verification ⟨true, "ok"⟩, .issued [],
    .verification ⟨false, "ok"⟩]

theorem counts_mixedHistory :
    ((new defaultName).after mixedHistory).Summarizes mixedHistory ∧
      ((new defaultName).after mixedHistory).Exposes mixedHistory ∧
      mixedHistory.countP Counter.issued.counts = 2 ∧
      mixedHistory.countP (Counter.reason "ok").counts = 2 := by
  have numeric : ∀ recording ∈ mixedHistory, recording.Numeric := by
    have duration : (0.25 : Float).isNaN = false := by decide
    simp only [mixedHistory, List.forall_mem_cons, Recording.Numeric]
    exact ⟨trivial, duration, trivial, trivial, trivial, List.forall_mem_nil _⟩
  obtain ⟨_, _, summarizes, exposes⟩ := counts_history defaultName mixedHistory numeric
  exact ⟨summarizes, exposes, by decide, by decide⟩

end Metrics

end SealedToken
