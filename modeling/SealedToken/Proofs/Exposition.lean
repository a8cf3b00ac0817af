import SealedToken.Metrics.Exposition

/-!
Reading an exposition. A scraper takes the text line by line: comments aside, a line is the name of
a series, its labels with their escapes undone, and the text of a value. What it gets from the
exposition of metrics is, line by line, what the metrics hold.
-/

set_option autoImplicit false

namespace SealedToken

/-! ## Texts of numbers -/

namespace Shortest

theorem newline_not_mem_of_digits {digits : Text}
    (decimal : ∀ c ∈ digits, Decimal.isDigit c = true) : .char '\n' ∉ digits :=
  fun inside => absurd (decimal _ inside) (by decide)

theorem newline_not_mem_zeros (count : Nat) : .char '\n' ∉ zeros count :=
  fun inside => absurd (List.eq_of_mem_replicate inside) (by decide)

theorem newline_not_mem_exponentText (width : Nat) (exponent : Int) :
    .char '\n' ∉ exponentText width exponent := by
  have magnitude := newline_not_mem_of_digits (Decimal.isDigit_of_mem_ofNat exponent.natAbs)
  have padding := newline_not_mem_zeros (width - (Decimal.ofNat exponent.natAbs).length)
  unfold exponentText
  split <;> simp [padding, magnitude]

theorem Layout.newline_not_mem_write (layout : Layout) {d : Digits}
    (free : .char '\n' ∉ d.digits) : .char '\n' ∉ layout.write d := by
  have taken (n : Nat) : .char '\n' ∉ d.digits.take n := mt List.mem_of_mem_take free
  have dropped (n : Nat) : .char '\n' ∉ d.digits.drop n := mt List.mem_of_mem_drop free
  unfold write
  split
  · split
    · simp [newline_not_mem_zeros, free]
    · simp only [List.mem_append, List.mem_cons, CodePoint.char.injEq, Char.reduceEq, false_or,
        not_or]
      refine ⟨⟨taken _, newline_not_mem_zeros _⟩, ?_⟩
      split
      · exact newline_not_mem_zeros 1
      · exact dropped _
  · simp only [List.mem_append, not_or]
    refine ⟨⟨taken 1, ?_⟩, newline_not_mem_exponentText _ _⟩
    split
    · exact dropped 1
    · simp only [List.mem_cons, CodePoint.char.injEq, Char.reduceEq, false_or]
      exact dropped 1

theorem isDigit_of_mem_normal (c : Candidate) :
    ∀ digit ∈ c.normal.digits, Decimal.isDigit digit = true := by
  intro digit inside
  have kept := (List.dropWhile_sublist _).subset (List.mem_reverse.mp inside)
  exact Decimal.isDigit_of_mem_lowFirst c.digits digit kept

theorem newline_not_mem_write (x : Float) : .char '\n' ∉ write x := by
  unfold write
  cases Binary64.ofFloat x with
  | notANumber => decide
  | infinite negative => cases negative <;> decide
  | finite negative mantissa exponent =>
    have body : .char '\n' ∉
        if mantissa = 0 then Text.ofString "0.0"
        else standard.write (digits mantissa exponent) := by
      split
      · decide
      · exact standard.newline_not_mem_write (newline_not_mem_of_digits (isDigit_of_mem_normal _))
    cases negative with
    | false => exact body
    | true => exact List.not_mem_cons_of_ne_of_not_mem (by decide) body

end Shortest

namespace Exposition

theorem newline_not_mem_number (x : Float) : .char '\n' ∉ number x := by
  have plain := Shortest.newline_not_mem_write x
  unfold number
  cases Binary64.ofFloat x with
  | notANumber =>
    dsimp only
    decide
  | infinite negative =>
    dsimp only
    split <;> decide
  | finite negative mantissa exponent =>
    dsimp only
    split
    · next first whole fraction cut =>
      obtain ⟨same, -⟩ := Text.cut_eq_some_iff.mp cut
      split
      · rw [List.mem_append, List.mem_reverse, not_or]
        refine ⟨fun inside => ?_, Shortest.newline_not_mem_exponentText _ _⟩
        have kept := (List.dropWhile_sublist _).subset inside
        rw [same] at plain
        simp_all
      · exact plain
    · exact plain

/-! ## A reader of lines -/

/-- What a line says: the series, by its name and labels, and the text of the value. -/
structure Line where
  name : Text
  labels : List (Text × Text)
  value : Text
  deriving DecidableEq, Repr

/-- A value up to its closing quote, with its escapes undone, and what follows it. -/
def unquote? : Text → Option (Text × Text)
  | [] => none
  | c :: rest =>
    if c = '"' then some ([], rest)
    else if c = '\\' then
      match rest with
      | [] => none
      | escaped :: rest =>
        (unquote? rest).map (Prod.map ((if escaped = 'n' then '\n' else escaped) :: ·) id)
    else (unquote? rest).map (Prod.map (c :: ·) id)

theorem length_of_unquote? {text value rest : Text} (read : unquote? text = some (value, rest)) :
    rest.length < text.length := by
  fun_induction unquote? text generalizing value with
  | case1 => contradiction
  | case2 => simp_all
  | case3 => contradiction
  | case4 escaped others _ ih =>
    obtain ⟨⟨_, _⟩, found, same⟩ := Option.map_eq_some_iff.mp read
    simp only [Prod.map, id, Prod.mk.injEq] at same
    obtain ⟨-, rfl⟩ := same
    have shorter := ih found
    simp only [List.length_cons]
    omega
  | case5 c others _ _ ih =>
    obtain ⟨⟨_, _⟩, found, same⟩ := Option.map_eq_some_iff.mp read
    simp only [Prod.map, id, Prod.mk.injEq] at same
    obtain ⟨-, rfl⟩ := same
    have shorter := ih found
    simp only [List.length_cons]
    omega

/-- Labels up to the closing brace, and what follows it. -/
def labels? (text : Text) : Option (List (Text × Text) × Text) :=
  match _cut : Text.cut '=' text with
  | (name, some (.char '"' :: quoted)) =>
    match _read : unquote? quoted with
    | some (value, .char ',' :: rest) => (labels? rest).map (Prod.map ((name, value) :: ·) id)
    | some (value, .char '}' :: rest) => some ([(name, value)], rest)
    | _ => none
  | _ => none
termination_by text.length
decreasing_by
  obtain ⟨rfl, -⟩ := Text.cut_eq_some_iff.mp _cut
  have shorter := length_of_unquote? _read
  simp only [List.length_cons, List.length_append] at shorter ⊢
  omega

/-- A line that is no comment. -/
def line? (text : Text) : Option Line :=
  let name := text.takeWhile isNameChar
  if name.isEmpty then none
  else
    match text.dropWhile isNameChar with
    | .char ' ' :: value => some ⟨name, [], value⟩
    | .char '{' :: rest =>
      match labels? rest with
      | some (labels, .char ' ' :: value) => some ⟨name, labels, value⟩
      | _ => none
    | _ => none

/-- The lines of an exposition. -/
def lines (text : Text) : List Line := (Text.split '\n' text).filterMap line?

/-- The value of a line, if it is of the series with that name and those labels. -/
def Line.valueFor? (name : Text) (labels : List (Text × Text)) (line : Line) : Option Text :=
  if line.name = name ∧ line.labels = labels then some line.value else none

/-- The values that an exposition gives for a series, line by line. -/
def valuesOf (text name : Text) (labels : List (Text × Text)) : List Text :=
  (lines text).filterMap (Line.valueFor? name labels)

/-! ## Lines that were written -/

theorem unquote?_quote (rest : Text) : unquote? (.char '"' :: rest) = some ([], rest) := by
  rw [unquote?.eq_def]
  rfl

theorem unquote?_escaped (c : CodePoint) (rest : Text) :
    unquote? (.char '\\' :: c :: rest) =
      (unquote? rest).map (Prod.map ((if c = 'n' then .char '\n' else c) :: ·) id) := by
  rw [unquote?.eq_def]
  rfl

theorem unquote?_plain {c : CodePoint} (quote : c ≠ '"') (backslash : c ≠ '\\') (rest : Text) :
    unquote? (c :: rest) = (unquote? rest).map (Prod.map (c :: ·) id) := by
  rw [unquote?.eq_def]
  simp only [if_neg quote, if_neg backslash]

theorem escape_cons (c : CodePoint) (value : Text) :
    escape (c :: value) = escape [c] ++ escape value := by
  simp [escape]

theorem unquote?_escape (value rest : Text) :
    unquote? (escape value ++ .char '"' :: rest) = some (value, rest) := by
  induction value with
  | nil => exact unquote?_quote rest
  | cons c value ih =>
    rw [escape_cons, List.append_assoc]
    by_cases backslash : c = '\\'
    · have written : escape [c] = [.char '\\', .char '\\'] := by simp [escape, backslash]
      rw [written, List.cons_append, List.singleton_append, unquote?_escaped, ih, backslash]
      rfl
    by_cases newline : c = '\n'
    · have written : escape [c] = [.char '\\', .char 'n'] := by simp [escape, newline]
      rw [written, List.cons_append, List.singleton_append, unquote?_escaped, ih, newline]
      rfl
    by_cases quote : c = '"'
    · have written : escape [c] = [.char '\\', .char '"'] := by simp [escape, quote]
      rw [written, List.cons_append, List.singleton_append, unquote?_escaped, ih, quote]
      rfl
    · have written : escape [c] = [c] := by simp [escape, backslash, newline, quote]
      rw [written, List.singleton_append, unquote?_plain quote backslash, ih]
      rfl

theorem newline_not_mem_escape (value : Text) : .char '\n' ∉ escape value := by
  intro inside
  obtain ⟨c, _, written⟩ := List.mem_flatMap.mp inside
  split at written
  · simp at written
  split at written
  · simp at written
  split at written
  · simp at written
  · next newline _ => exact newline (List.mem_singleton.mp written).symm

theorem label_eq (name value : Text) :
    label name value =
      name ++ .char '=' :: .char '"' :: (escape value ++ [.char '"']) := by
  have opening : Text.ofString "=\"" = [.char '=', .char '"'] := rfl
  have closing : Text.ofString "\"" = [.char '"'] := rfl
  simp [label, opening, closing]

theorem labels?_of_comma {text name quoted value rest : Text}
    (cut : Text.cut '=' text = (name, some (.char '"' :: quoted)))
    (read : unquote? quoted = some (value, .char ',' :: rest)) :
    labels? text = (labels? rest).map (Prod.map ((name, value) :: ·) id) := by
  rw [labels?.eq_def]
  grind

theorem labels?_of_brace {text name quoted value rest : Text}
    (cut : Text.cut '=' text = (name, some (.char '"' :: quoted)))
    (read : unquote? quoted = some (value, .char '}' :: rest)) :
    labels? text = some ([(name, value)], rest) := by
  rw [labels?.eq_def]
  grind

/-- Labels as they are printed, name by name, are read up to the closing brace. -/
theorem labels?_join {labels : List (Text × Text)} (nonempty : labels ≠ [])
    (free : ∀ label ∈ labels, .char '=' ∉ label.1) (rest : Text) :
    labels?
        (Text.join ',' (labels.map fun (name, value) => label name value) ++ .char '}' :: rest) =
      some (labels, rest) := by
  induction labels with
  | nil => contradiction
  | cons first others ih =>
    obtain ⟨name, value⟩ := first
    obtain ⟨here, later⟩ := List.forall_mem_cons.mp free
    have cut (after : Text) : Text.cut '=' (label name value ++ after) =
        (name, some (.char '"' :: (escape value ++ .char '"' :: after))) := by
      rw [label_eq, List.append_assoc, List.cons_append, List.cons_append, List.append_assoc]
      exact Text.cut_append_cons '=' here _
    cases others with
    | nil => exact labels?_of_brace (cut _) (unquote?_escape value _)
    | cons next others =>
      rw [List.map_cons, Text.join_cons_of_ne_nil _ _ (by simp), List.append_assoc,
        List.cons_append, labels?_of_comma (cut _) (unquote?_escape value _),
        ih (List.cons_ne_nil _ _) later]
      rfl

/-- The name of a series as a scraper takes it. -/
structure Named (name : Text) : Prop where
  nonempty : name ≠ []
  spelled : ∀ c ∈ name, isNameChar c = true

theorem Named.takeWhile_append {name : Text} (named : Named name) {c : CodePoint}
    (foreign : isNameChar c = false) (rest : Text) :
    (name ++ c :: rest).takeWhile isNameChar = name := by
  rw [List.takeWhile_append_of_pos named.spelled, List.takeWhile_cons_of_neg (by simp [foreign]),
    List.append_nil]

theorem Named.dropWhile_append {name : Text} (named : Named name) {c : CodePoint}
    (foreign : isNameChar c = false) (rest : Text) :
    (name ++ c :: rest).dropWhile isNameChar = c :: rest := by
  rw [List.dropWhile_append_of_pos named.spelled, List.dropWhile_cons_of_neg (by simp [foreign])]

/-- A sample without the end of its line. -/
def sampleText (name : Text) (labels : List (Text × Text)) (value : Text) : Text :=
  name ++ (if labels.isEmpty then [] else
    .char '{' ::
      (Text.join ',' (labels.map fun (name, value) => label name value) ++ [.char '}'])) ++
    .char ' ' :: value

theorem sample_eq (name : Text) (labels : List (Text × Text)) (x : Float) :
    sample name (labels.map fun (name, value) => label name value) x =
      sampleText name labels (number x) ++ [.char '\n'] := by
  have opening : Text.ofString "\x7b" = [.char '{'] := rfl
  have closing : Text.ofString "\x7d" = [.char '}'] := rfl
  have blank : Text.ofString " " = [.char ' '] := rfl
  have newline : Text.ofString "\n" = [.char '\n'] := rfl
  simp [sample, sampleText, opening, closing, blank, newline]

theorem line?_sampleText {name : Text} (named : Named name) {labels : List (Text × Text)}
    (free : ∀ label ∈ labels, .char '=' ∉ label.1) (value : Text) :
    line? (sampleText name labels value) = some ⟨name, labels, value⟩ := by
  have nonempty : name.isEmpty = false := List.isEmpty_eq_false_iff.mpr named.nonempty
  unfold line? sampleText
  cases labels with
  | nil =>
    simp only [List.isEmpty_nil, if_true, List.append_nil,
      named.takeWhile_append (c := .char ' ') (by decide),
      named.dropWhile_append (c := .char ' ') (by decide), nonempty]
    rfl
  | cons first others =>
    have read := labels?_join (List.cons_ne_nil first others) free (.char ' ' :: value)
    simp only [List.isEmpty_cons, if_false, Bool.false_eq_true, List.append_assoc, List.cons_append,
      List.nil_append, named.takeWhile_append (c := .char '{') (by decide),
      named.dropWhile_append (c := .char '{') (by decide), nonempty, read]

/-- The names of labels are plain words. -/
def Labelled (labels : List (Text × Text)) : Prop :=
  ∀ label ∈ labels, .char '=' ∉ label.1 ∧ .char '\n' ∉ label.1

theorem newline_not_mem_label {name : Text} (free : .char '\n' ∉ name) (value : Text) :
    .char '\n' ∉ label name value := by
  rw [label_eq]
  simp [free, newline_not_mem_escape]

theorem newline_not_mem_sampleText {name : Text} (named : Named name)
    {labels : List (Text × Text)} (labelled : Labelled labels) {value : Text}
    (plain : .char '\n' ∉ value) : .char '\n' ∉ sampleText name labels value := by
  have spelled : .char '\n' ∉ name := fun inside => absurd (named.spelled _ inside) (by decide)
  have joined : .char '\n' ∉
      Text.join ',' (labels.map fun (name, value) => label name value) := by
    refine Text.not_mem_join (by decide) fun piece inside => ?_
    obtain ⟨label, listed, rfl⟩ := List.mem_map.mp inside
    exact newline_not_mem_label (labelled label listed).2 _
  unfold sampleText
  split
  · simp [spelled, plain]
  · simp [spelled, plain, joined]

theorem lines_append {line : Text} (free : .char '\n' ∉ line) (rest : Text) :
    lines (line ++ .char '\n' :: rest) = (line? line).toList ++ lines rest := by
  rw [lines, Text.split_append_cons _ free, List.filterMap_cons]
  cases line? line <;> rfl

theorem lines_sample {name : Text} (named : Named name) {labels : List (Text × Text)}
    (labelled : Labelled labels) (x : Float) (rest : Text) :
    lines (sample name (labels.map fun (name, value) => label name value) x ++ rest) =
      ⟨name, labels, number x⟩ :: lines rest := by
  rw [sample_eq, List.append_assoc, List.singleton_append,
    lines_append (newline_not_mem_sampleText named labelled (newline_not_mem_number x)),
    line?_sampleText named fun label listed => (labelled label listed).1]
  rfl

/-- The lines of a series with a number for each key. -/
def tallied {Key : Type} (name : Text) (labels : Key → List (Text × Text))
    (entries : List (Key × Nat)) : List Line :=
  entries.map fun entry => ⟨name, labels entry.1, number (Float.ofNat entry.2)⟩

theorem lines_samples {Key : Type} {name : Text} (named : Named name)
    {labels : Key → List (Text × Text)} (labelled : ∀ key, Labelled (labels key))
    (entries : List (Key × Nat)) (rest : Text) :
    lines (entries.flatMap (fun entry =>
        sample name ((labels entry.1).map fun (name, value) => label name value)
          (Float.ofNat entry.2)) ++ rest) =
      tallied name labels entries ++ lines rest := by
  induction entries with
  | nil => rfl
  | cons first others ih =>
    rw [List.flatMap_cons, List.append_assoc, lines_sample named (labelled first.1), ih]
    rfl

theorem lines_header {name help kind : Text} (named : Named name) (helpful : .char '\n' ∉ help)
    (kindly : .char '\n' ∉ kind) (rest : Text) :
    lines (header name help kind ++ rest) = lines rest := by
  have spelled : .char '\n' ∉ name := fun inside => absurd (named.spelled _ inside) (by decide)
  have written : header name help kind ++ rest =
      (Text.ofString "# HELP " ++ name ++ .char ' ' :: help) ++ .char '\n' ::
        ((Text.ofString "# TYPE " ++ name ++ .char ' ' :: kind) ++ .char '\n' :: rest) := by
    have turn : Text.ofString "\n# TYPE " = .char '\n' :: Text.ofString "# TYPE " := rfl
    have blank : Text.ofString " " = [.char ' '] := rfl
    have newline : Text.ofString "\n" = [.char '\n'] := rfl
    simp [header, turn, blank, newline]
  have lead : .char '\n' ∉ Text.ofString "# HELP " := by decide
  have second : .char '\n' ∉ Text.ofString "# TYPE " := by decide
  rw [written, lines_append (by simp [lead, spelled, helpful]),
    lines_append (by simp [second, spelled, kindly])]
  rfl

theorem isNameChar_of_mem_sanitize {text : Text} : ∀ c ∈ sanitize text, isNameChar c = true := by
  cases text with
  | nil => exact List.forall_mem_nil _
  | cons first rest =>
    rw [sanitize, List.forall_mem_cons]
    constructor
    · split
      · next start => simp [isNameChar, start]
      · decide
    · intro c inside
      obtain ⟨other, _, rfl⟩ := List.mem_map.mp inside
      split
      · assumption
      · decide

theorem named_sanitize {text : Text} (nonempty : text ≠ []) : Named (sanitize text) where
  nonempty := by
    cases text with
    | nil => contradiction
    | cons first rest => simp [sanitize]
  spelled := isNameChar_of_mem_sanitize

/-- A suffix that a name may begin with is left as it is. -/
theorem sanitize_append (text : Text) {suffix : Text} (kept : sanitize suffix = suffix) :
    sanitize (text ++ suffix) = sanitize text ++ suffix := by
  cases text with
  | nil => exact kept
  | cons first rest =>
    have spelled : ∀ c ∈ suffix, isNameChar c = true := by
      rw [← kept]
      exact isNameChar_of_mem_sanitize
    have same : suffix.map (fun c => if isNameChar c then c else '_') = suffix := by
      conv => rhs; rw [← List.map_id suffix]
      exact List.map_congr_left fun c inside => if_pos (spelled c inside)
    rw [List.cons_append, sanitize, List.map_append, same]
    rfl

end Exposition

namespace Metrics

open Exposition

/-- The name of a series of metrics. -/
def seriesName (metrics : Metrics) (suffix : Text) : Text := sanitize (metrics.name ++ suffix)

def issuedLabels (mark : Text) : List (Text × Text) := [("prefix", mark)]

def outcomeLabels (outcome : Outcome) : List (Text × Text) :=
  [("reason", outcome.reason), ("status", outcome.status)]

def bucketLabels (bound : Float) : List (Text × Text) := [("le", number bound)]

/-- The lines that metrics amount to: one for each mark, for each outcome and for each bucket, and
the number and the sum of durations. -/
def series (metrics : Metrics) : List Line :=
  let reached := cumulative 0 metrics.durations.buckets
  tallied (metrics.seriesName "_tokens_issued_total") issuedLabels metrics.issued.entries ++
    (tallied (metrics.seriesName "_verifications_total") outcomeLabels metrics.outcomes.entries ++
      (tallied (metrics.seriesName "_verification_duration_seconds_bucket") bucketLabels
          ((Durations.bounds ++ [1 / 0]).zip reached) ++
        [⟨metrics.seriesName "_verification_duration_seconds_count", [],
            number (Float.ofNat (reached.getLastD 0))⟩,
          ⟨metrics.seriesName "_verification_duration_seconds_sum", [],
            number metrics.durations.total⟩]))

theorem named_seriesName (metrics : Metrics) {suffix : Text} (nonempty : suffix ≠ []) :
    Named (metrics.seriesName suffix) := named_sanitize (by simp [nonempty])

theorem seriesName_append (metrics : Metrics) {suffix more : Text} (kept : sanitize suffix = suffix)
    (whole : sanitize (suffix ++ more) = suffix ++ more) :
    metrics.seriesName suffix ++ more = metrics.seriesName (suffix ++ more) := by
  rw [seriesName, seriesName, sanitize_append _ kept, sanitize_append _ whole, List.append_assoc]

/-- Series of metrics have one name if they have one suffix. -/
theorem seriesName_inj (metrics : Metrics) {first second : Text} (kept : sanitize first = first)
    (also : sanitize second = second) :
    metrics.seriesName first = metrics.seriesName second ↔ first = second := by
  rw [seriesName, seriesName, sanitize_append _ kept, sanitize_append _ also]
  rw [List.append_cancel_left_eq]

/-- A scraper takes from an exposition what the metrics hold, line by line. -/
theorem lines_exposition (metrics : Metrics) : lines metrics.exposition = metrics.series := by
  have named {suffix : Text} (nonempty : suffix ≠ []) := metrics.named_seriesName nonempty
  have marked (mark : Text) : Labelled (issuedLabels mark) := by
    simp only [Labelled, issuedLabels, List.forall_mem_cons]
    exact ⟨by decide, List.forall_mem_nil _⟩
  have judged (outcome : Outcome) : Labelled (outcomeLabels outcome) := by
    simp only [Labelled, outcomeLabels, List.forall_mem_cons]
    exact ⟨by decide, by decide, List.forall_mem_nil _⟩
  have bounded (bound : Float) : Labelled (bucketLabels bound) := by
    simp only [Labelled, bucketLabels, List.forall_mem_cons]
    exact ⟨by decide, List.forall_mem_nil _⟩
  have bare : Labelled [] := List.forall_mem_nil _
  -- The names of the last series are written with a suffix of a suffix.
  have suffixed (more whole : Text) (kept : sanitize whole = whole)
      (parts : Text.ofString "_verification_duration_seconds" ++ more = whole) :
      metrics.seriesName "_verification_duration_seconds" ++ more = metrics.seriesName whole := by
    subst parts
    exact metrics.seriesName_append (by decide) kept
  have bucket := suffixed "_bucket" "_verification_duration_seconds_bucket" (by decide)
    (by simp [← Text.ofString_append])
  have count := suffixed "_count" "_verification_duration_seconds_count" (by decide)
    (by simp [← Text.ofString_append])
  have sum := suffixed "_sum" "_verification_duration_seconds_sum" (by decide)
    (by simp [← Text.ofString_append])
  unfold exposition
  simp only [List.append_assoc]
  refine (lines_header (named (by decide)) (by decide) (by decide) _).trans ?_
  refine (lines_samples (named (by decide)) marked _ _).trans (congrArg _ ?_)
  refine (lines_header (named (by decide)) (by decide) (by decide) _).trans ?_
  refine (lines_samples (named (by decide)) judged _ _).trans (congrArg _ ?_)
  refine (lines_header (named (by decide)) (by decide) (by decide) _).trans ?_
  rw [← bucket, ← count, ← sum]
  refine (lines_samples (bucket ▸ named (by decide)) bounded _ _).trans (congrArg _ ?_)
  refine (lines_sample (count ▸ named (by decide)) bare _ _).trans (congrArg _ ?_)
  rw [← List.append_nil (sample ..)]
  exact lines_sample (sum ▸ named (by decide)) bare _ []

/-- The values that a scraper finds for a series of metrics. -/
def exposed (metrics : Metrics) (suffix : Text) (labels : List (Text × Text)) : List Text :=
  valuesOf metrics.exposition (metrics.seriesName suffix) labels

/-- The numbers of the keys that have the labels. -/
def labelled {Key : Type} (labels : Key → List (Text × Text)) (asked : List (Text × Text))
    (entries : List (Key × Nat)) : List Nat :=
  entries.filterMap fun entry => if labels entry.1 = asked then some entry.2 else none

theorem filterMap_tallied {Key : Type} (name other : Text) (labels : Key → List (Text × Text))
    (asked : List (Text × Text)) (entries : List (Key × Nat)) :
    (tallied name labels entries).filterMap (Line.valueFor? other asked) =
      if name = other then
        (labelled labels asked entries).map fun count => number (Float.ofNat count)
      else [] := by
  rw [tallied, List.filterMap_map, labelled, List.map_filterMap]
  by_cases same : name = other
  · rw [if_pos same]
    congr 1
    funext entry
    by_cases found : labels entry.1 = asked <;> simp [Line.valueFor?, same, found]
  · rw [if_neg same, List.filterMap_eq_nil_iff]
    exact fun entry _ => if_neg fun both => same both.1

theorem toList_valueFor? (line : Line) (other : Text) (asked : List (Text × Text)) :
    (line.valueFor? other asked).toList =
      if line.name = other ∧ line.labels = asked then [line.value] else [] := by
  unfold Line.valueFor?
  split <;> rfl

/-- What a scraper finds for a series is in the part of the metrics that the suffix names. -/
theorem exposed_eq (metrics : Metrics) {suffix : Text} (kept : sanitize suffix = suffix)
    (asked : List (Text × Text)) :
    metrics.exposed suffix asked =
      let reached := cumulative 0 metrics.durations.buckets
      let counts := List.map fun count => number (Float.ofNat count)
      (if "_tokens_issued_total" = suffix then
          counts (labelled issuedLabels asked metrics.issued.entries) else []) ++
        ((if "_verifications_total" = suffix then
            counts (labelled outcomeLabels asked metrics.outcomes.entries) else []) ++
          ((if "_verification_duration_seconds_bucket" = suffix then
              counts (labelled bucketLabels asked
                ((Durations.bounds ++ [1 / 0]).zip reached)) else []) ++
            ((if "_verification_duration_seconds_count" = suffix ∧ [] = asked then
                [number (Float.ofNat (reached.getLastD 0))] else []) ++
              if "_verification_duration_seconds_sum" = suffix ∧ [] = asked then
                [number metrics.durations.total] else []))) := by
  have named (other : Text) (plain : sanitize other = other) :=
    metrics.seriesName_inj plain kept
  have last (first second : Line) :
      [first, second].filterMap (Line.valueFor? (metrics.seriesName suffix) asked) =
        (first.valueFor? (metrics.seriesName suffix) asked).toList ++
          (second.valueFor? (metrics.seriesName suffix) asked).toList := by
    rw [List.filterMap_cons, List.filterMap_cons]
    cases first.valueFor? (metrics.seriesName suffix) asked <;>
      cases second.valueFor? (metrics.seriesName suffix) asked <;> rfl
  rw [exposed, valuesOf, lines_exposition, series]
  simp only [List.filterMap_append, filterMap_tallied, last, toList_valueFor?,
    named "_tokens_issued_total" (by decide),
    named "_verifications_total" (by decide),
    named "_verification_duration_seconds_bucket" (by decide),
    named "_verification_duration_seconds_count" (by decide),
    named "_verification_duration_seconds_sum" (by decide)]

end Metrics

end SealedToken
