import Mathlib.Data.List.TakeWhile
import SealedToken.Cli.Arguments
import SealedToken.Proofs.Payload

/-!
Command lines that say what they mean. A long option with its argument attached is read as that
option with that argument, whatever the argument holds, and a number in its digits is read as that
number; so the canonical lines that issue and inspect are read as they were meant.
-/

set_option autoImplicit false

namespace SealedToken

/-! ## Numbers -/

namespace Literal

theorem plain_of_isDigit {c : CodePoint} (decimal : Decimal.isDigit c = true) : plain c = c := by
  simp only [Decimal.isDigit, Bool.and_eq_true, decide_eq_true_eq] at decimal
  rw [plain, if_pos (by omega)]

theorem not_isSpace_of_isDigit {c : CodePoint} (decimal : Decimal.isDigit c = true) :
    isSpace c = false := by
  have blank : c ≠ ' ' := by
    rintro rfl
    exact absurd decimal (by decide)
  simp only [Decimal.isDigit, Bool.and_eq_true, decide_eq_true_eq] at decimal
  simp only [isSpace, blank, decide_false, Bool.false_or, Bool.and_eq_false_iff,
    decide_eq_false_iff_not]
  omega

/-- Digits are read as their number. -/
theorem read?_of_legible {digits : Text} (legible : Decimal.Legible digits) :
    read? digits = .ok (Decimal.value digits : Int) := by
  obtain ⟨nonempty, decimal, short⟩ := legible
  have same : digits.map plain = digits := by
    conv => rhs; rw [← List.map_id digits]
    exact List.map_congr_left fun c inside => plain_of_isDigit (decimal c inside)
  have ungrouped : ungroup? digits = some digits := by
    have free : .char '_' ∉ digits := fun inside => absurd (decimal '_' inside) (by decide)
    simp [ungroup?, Text.split_of_free '_' free, nonempty]
  have run : digits.takeWhile (fun c => Decimal.isDigit c || c = '_') = digits := by
    rw [List.takeWhile_eq_self_iff]
    intro c inside
    simp [decimal c inside]
  have rest : digits.dropWhile (fun c => Decimal.isDigit c || c = '_') = [] := by
    rw [List.dropWhile_eq_nil_iff]
    intro c inside
    simp [decimal c inside]
  have value : unsigned digits digits [] = .ok (Decimal.value digits) := by
    simp [unsigned, ungrouped, Decimal.read?, short]
  -- The first digit is neither blank nor sign, and the run of digits is the whole text.
  obtain ⟨first, others, rfl⟩ := List.exists_cons_of_ne_nil nonempty
  have head : Decimal.isDigit first = true := decimal first List.mem_cons_self
  have minus : first ≠ '-' := by
    rintro rfl
    exact absurd head (by decide)
  have plus : first ≠ '+' := by
    rintro rfl
    exact absurd head (by decide)
  have body : (first :: others).dropWhile isSpace = first :: others := by
    rw [List.dropWhile_cons, not_isSpace_of_isDigit head]
    rfl
  unfold read?
  rw [same, body]
  extract_lets text
  split
  next negative unsigned shape =>
    dsimp only [text] at shape
    split at shape
    · next minused => exact absurd (List.cons.inj minused).1 minus
    · next plussed => exact absurd (List.cons.inj plussed).1 plus
    · obtain ⟨rfl, rfl⟩ := Prod.mk.inj shape
      rw [run, rest, value]
      rfl

end Literal

/-! ## Words with an argument attached -/

namespace Cli

namespace Switch

/-- The long spelling. -/
def longName (switch : Switch) : Text := switch.names.getLastD []

/-- The word that gives an option its argument. -/
def attached (switch : Switch) (value : Text) : Text := switch.longName ++ .char '=' :: value

theorem longName_eq (switch : Switch) :
    ∃ c rest, switch.longName = .char '-' :: .char '-' :: c :: rest := by
  cases switch <;> exact ⟨_, _, rfl⟩

theorem free_of_mem_names (switch : Switch) : ∀ name ∈ switch.names, .char '=' ∉ name := by
  cases switch <;> decide

theorem free_longName (switch : Switch) : .char '=' ∉ switch.longName := by
  cases switch <;> decide

end Switch

namespace Word

variable {switches : List Switch} {switch : Switch}

theorem named?_attached (switches : List Switch) (switch : Switch) (value : Text) :
    named? switches (switch.attached value) = none := by
  rw [named?, List.find?_eq_none]
  intro other _ listed
  exact other.free_of_mem_names _ (of_decide_eq_true listed) (by simp [Switch.attached])

theorem hyphenated_attached (switches : List Switch) (switch : Switch) (value : Text) :
    formOf switches (switch.attached value) = hyphenated switches (switch.attached value) := by
  obtain ⟨c, rest, shape⟩ := switch.longName_eq
  rw [Switch.attached, shape]
  rfl

/-- An option of the page takes what is attached to it. -/
theorem formOf_attached (named : named? switches switch.longName = some switch) (value : Text) :
    formOf switches (switch.attached value) = .ok (.switch switch false (some value)) := by
  have long : isShort switch.longName = false := by
    cases switch <;> rfl
  have cut : Text.cut '=' (switch.attached value) = (switch.longName, some value) :=
    Text.cut_append_cons '=' switch.free_longName value
  simp only [hyphenated_attached, hyphenated, spelled?, named?_attached, cut, named, long,
    Option.map_none, Option.none_or, Option.map_some]

/-- To a page without such an option the word is no option, and no complaint. -/
theorem formOf_foreign
    (foreign : ∀ other ∈ switches, ∀ name ∈ other.names, switch.longName.isPrefixOf name = false)
    (value : Text) :
    formOf switches (switch.attached value) = .ok (unclaimed (switch.attached value)) := by
  have cut : Text.cut '=' (switch.attached value) = (switch.longName, some value) :=
    Text.cut_append_cons '=' switch.free_longName value
  have unnamed : named? switches switch.longName = none := by
    rw [named?, List.find?_eq_none]
    intro other listed inside
    have apart := foreign other listed _ (of_decide_eq_true inside)
    rw [List.isPrefixOf_iff_prefix.mpr List.prefix_rfl] at apart
    cases apart
  have none : candidates switches (switch.attached value) = [] := by
    unfold candidates
    split
    next stem given short shape =>
      split at shape
      · rw [cut] at shape
        obtain ⟨rfl, rfl, rfl⟩ := shape
        rw [List.flatMap_eq_nil_iff]
        intro other listed
        rw [List.map_eq_nil_iff, List.filter_eq_nil_iff]
        intro name inside
        simp [foreign other listed name inside]
      · next other =>
        obtain ⟨c, rest, start⟩ := switch.longName_eq
        exact absurd (by rw [Switch.attached, start]; rfl) (other _)
  simp only [hyphenated_attached, hyphenated, spelled?, named?_attached, cut, unnamed, none,
    Option.map_none, Option.none_or]

theorem formOf_plain {text : Text} (plain : text.head? ≠ some (.char '-')) :
    formOf switches text = .ok .operand := by
  unfold formOf
  split
  · exact absurd rfl plain
  · rfl

theorem attached_ne_separator (switch : Switch) (value : Text) :
    switch.attached value ≠ Cli.separator := by
  obtain ⟨c, rest, shape⟩ := switch.longName_eq
  rw [Switch.attached, shape]
  simp [Cli.separator]

theorem ofTexts_cons {text : Text} {rest : List Text} {form : Form} {words : List Word}
    (proper : text ≠ Cli.separator) (formed : formOf switches text = .ok form)
    (later : ofTexts switches rest = .ok words) :
    ofTexts switches (text :: rest) = .ok (⟨text, form⟩ :: words) := by
  rw [ofTexts, if_neg proper, formed, later]

theorem ofTexts_plain {text : Text} {rest : List Text} {words : List Word}
    (plain : text.head? ≠ some (.char '-')) (later : ofTexts switches rest = .ok words) :
    ofTexts switches (text :: rest) = .ok (⟨text, .operand⟩ :: words) := by
  refine ofTexts_cons ?_ (formOf_plain plain) later
  rintro rfl
  exact plain rfl

theorem ofTexts_attached {value : Text} {rest : List Text} {words : List Word}
    (named : named? switches switch.longName = some switch)
    (later : ofTexts switches rest = .ok words) :
    ofTexts switches (switch.attached value :: rest) =
      .ok (⟨switch.attached value, .switch switch false (some value)⟩ :: words) :=
  ofTexts_cons (attached_ne_separator switch value) (formOf_attached named value) later

theorem ofTexts_foreign {value : Text} {rest : List Text} {words : List Word}
    (foreign : ∀ other ∈ switches, ∀ name ∈ other.names, switch.longName.isPrefixOf name = false)
    (later : ofTexts switches rest = .ok words) :
    ofTexts switches (switch.attached value :: rest) =
      .ok (⟨switch.attached value, unclaimed (switch.attached value)⟩ :: words) :=
  ofTexts_cons (attached_ne_separator switch value) (formOf_foreign foreign value) later

theorem map_text_ofTexts {texts : List Text} {words : List Word}
    (classed : ofTexts switches texts = .ok words) : words.map Word.text = texts := by
  induction texts generalizing words with
  | nil =>
    obtain rfl := Except.ok.inj classed
    rfl
  | cons text rest ih =>
    unfold ofTexts at classed
    split at classed
    · obtain rfl := Except.ok.inj classed
      simp [Function.comp_def]
    · cases formed : formOf switches text with
      | error complaint =>
        rw [formed] at classed
        cases classed
      | ok form =>
        cases later : ofTexts switches rest with
        | error complaint =>
          rw [formed, later] at classed
          cases classed
        | ok others =>
          rw [formed, later] at classed
          obtain rfl := Except.ok.inj classed
          exact congrArg (text :: ·) (ih later)

end Word

/-! ## Lines -/

/-- A command's line is read as the command, as long as no word of it stops the program's page. -/
theorem Invocation.read_of_command {name : Text} {line : List Text} {words : List Word}
    {command : Command} (plain : name.head? ≠ some (.char '-'))
    (classed : Word.ofTexts Page.program.switches line = .ok words)
    (understood : readCommand name line = .ok (command, [])) :
    read (name :: line) = .ok ⟨false, some command⟩ := by
  have reading : Reading.ofTexts Page.program.switches .command (name :: line) =
      ⟨[.command name line], [], none⟩ := by
    rw [Reading.ofTexts, Word.ofTexts_plain plain classed]
    dsimp only
    rw [Reading.ofWords, Word.map_text_ofTexts classed]
    rfl
  rw [read, reading]
  simp [weigh, step, understood, bind, Except.bind, pure, Except.pure]

/-- The line that inspects a token of an issuer. -/
def inspectLine (raw issuer : Text) : List Text :=
  ["inspect", raw, Switch.issuer.attached issuer]

theorem readCommand_inspect (line : List Text) :
    Invocation.readCommand "inspect" line =
      (InspectArguments.read line).map
        fun (arguments, extras) => (.inspect arguments, extras) := rfl

theorem read_inspectLine {raw issuer : Text} (plain : raw.head? ≠ some (.char '-'))
    (proper : issuer ≠ separator) :
    Invocation.read (inspectLine raw issuer) = .ok ⟨false, some (.inspect ⟨raw, issuer, {}⟩)⟩ := by
  have foreign : ∀ other ∈ Page.program.switches, ∀ name ∈ other.names,
      Switch.issuer.longName.isPrefixOf name = false := by decide
  have reading : Reading.ofTexts Page.inspect.switches .operand
      [raw, Switch.issuer.attached issuer] =
        ⟨[.operand raw, .argument .issuer (some issuer)], [], none⟩ := by
    rw [Reading.ofTexts, Word.ofTexts_plain plain (Word.ofTexts_attached (by decide) rfl)]
    simp only [Reading.ofWords, Reading.mention, Reading.empty, Switch.takesArgument, if_neg proper]
    rfl
  have understood : InspectArguments.read [raw, Switch.issuer.attached issuer] =
      .ok (⟨raw, issuer, {}⟩, []) := by
    rw [InspectArguments.read, reading]
    rfl
  refine Invocation.read_of_command (by decide) (Word.ofTexts_plain plain
    (Word.ofTexts_foreign foreign rfl)) ?_
  rw [readCommand_inspect, understood]
  rfl

theorem digits_ne_separator {digits : Text} (legible : Decimal.Legible digits) :
    digits ≠ separator := by
  rintro rfl
  exact absurd (legible.digits '-' List.mem_cons_self) (by decide)

theorem number_of_legible (page : Page) (switch : Switch) {digits : Text}
    (legible : Decimal.Legible digits) :
    number page switch (some digits) = .ok (some (Decimal.value digits : Int)) := by
  rw [number, Literal.read?_of_legible legible]

/-- The line that issues a token of a kind for an issuer, with its times in digits. -/
def issueLine (kind : Kind) (issuer issuedAt lifespan : Text) : List Text :=
  ["issue", kind.name, Switch.issuer.attached issuer,
    Switch.issuedAt.attached issuedAt, Switch.lifespan.attached lifespan]

theorem readCommand_issue (line : List Text) :
    Invocation.readCommand "issue" line =
      (IssueArguments.read line).map fun (arguments, extras) => (.issue arguments, extras) := rfl

theorem read_issueLine (kind : Kind) {issuer issuedAt lifespan : Text} (proper : issuer ≠ separator)
    (first : Decimal.Legible issuedAt) (second : Decimal.Legible lifespan) :
    Invocation.read (issueLine kind issuer issuedAt lifespan) =
      .ok ⟨false, some (.issue ⟨kind, issuer,
        { issuedAt := some (some (Decimal.value issuedAt))
          lifespan := some (some (Decimal.value lifespan)) }⟩)⟩ := by
  have plain : kind.name.head? ≠ some (.char '-') := by cases kind <;> decide
  have named : IssueArguments.kindNamed? kind.name = some kind := by cases kind <;> decide
  have foreign (switch : Switch) (listed : switch ∈ [.issuer, .issuedAt, .lifespan]) :
      ∀ other ∈ Page.program.switches, ∀ name ∈ other.names,
        switch.longName.isPrefixOf name = false := by
    revert switch
    decide
  have reading : Reading.ofTexts Page.issue.switches .operand
      [kind.name, Switch.issuer.attached issuer, Switch.issuedAt.attached issuedAt,
        Switch.lifespan.attached lifespan] =
        ⟨[.operand kind.name, .argument .issuer (some issuer),
          .argument .issuedAt (some issuedAt), .argument .lifespan (some lifespan)], [], none⟩ := by
    rw [Reading.ofTexts, Word.ofTexts_plain plain (Word.ofTexts_attached (by decide)
      (Word.ofTexts_attached (by decide) (Word.ofTexts_attached (by decide) rfl)))]
    simp only [Reading.ofWords, Reading.mention, Reading.empty, Switch.takesArgument, if_neg proper,
      if_neg (digits_ne_separator first), if_neg (digits_ne_separator second)]
    rfl
  have understood : IssueArguments.read
      [kind.name, Switch.issuer.attached issuer, Switch.issuedAt.attached issuedAt,
        Switch.lifespan.attached lifespan] =
      .ok (⟨kind, issuer,
        { issuedAt := some (some (Decimal.value issuedAt))
          lifespan := some (some (Decimal.value lifespan)) }⟩, []) := by
    rw [IssueArguments.read, reading]
    simp [weigh, IssueArguments.step, IssueArguments.stepOption, named, number_of_legible, first,
      second, IssueArguments.ofDraft, bind, Except.bind, pure, Except.pure]
  refine Invocation.read_of_command (by decide) (Word.ofTexts_plain plain
    (Word.ofTexts_foreign (foreign .issuer (by decide))
      (Word.ofTexts_foreign (foreign .issuedAt (by decide))
        (Word.ofTexts_foreign (foreign .lifespan (by decide)) rfl)))) ?_
  rw [readCommand_issue, understood]
  rfl

end Cli

end SealedToken
