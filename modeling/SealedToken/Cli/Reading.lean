import SealedToken.Cli.Switch
import SealedToken.Text.Digit

/-!
Reading a command line: each word is classed by its spelling alone, then the words are taken in
order as options, their arguments and operands. Long options may be cut short as long as one
option remains; a double hyphen ends the options. What nothing takes is kept as an extra.
-/

set_option autoImplicit false

namespace SealedToken.Cli

/-- The word that ends the options. -/
def separator : Text := ['-', '-']

/-- What the spelling of a word makes it. -/
inductive Form where
  | operand
  | separator
  | switch (switch : Switch) (short : Bool) (attached : Option Text)
  | unknown
  deriving DecidableEq, Repr

structure Word where
  text : Text
  form : Form
  deriving DecidableEq, Repr

namespace Word

def isShort (name : Text) : Bool := name.length = 2

/-- The option of the exact name. -/
def named? (switches : List Switch) (name : Text) : Option Switch :=
  switches.find? (name ∈ ·.names)

def spelled? (switches : List Switch) (name : Text) (attached : Option Text) : Option Form :=
  (named? switches name).map fun switch => .switch switch (isShort name) attached

/-- The options that a word may stand for, each with the full name. A word with two hyphens stands
for names that it begins, a word with one for a short name with something attached. -/
def candidates (switches : List Switch) (word : Text) : List (Text × Form) :=
  let (stem, attached, short) := match word with
    | .char '-' :: .char '-' :: _ => ((Text.cut '=' word).1, (Text.cut '=' word).2, false)
    | _ => (word.take 2, some (word.drop 2), true)
  switches.flatMap fun switch =>
    (switch.names.filter fun name => if short then name = stem else stem.isPrefixOf name).map
      fun name => (name, .switch switch short attached)

def isDecimal (c : CodePoint) : Bool := (Text.digitValue? c).isSome

def isRun (text : Text) : Bool := !text.isEmpty && text.all isDecimal

/-- A minus sign before digits with at most one point among them, a line feed at the end aside. -/
def isNegativeNumber (word : Text) : Bool :=
  match word with
  | .char '-' :: rest =>
    let rest := if rest.getLast? = some '\n' then rest.dropLast else rest
    match Text.cut '.' rest with
    | (whole, none) => isRun whole
    | (whole, some part) => whole.all isDecimal && isRun part
  | _ => false

/-- A word that no option claims is an operand if it is a negative number or holds a blank. -/
def unclaimed (word : Text) : Form :=
  if isNegativeNumber word || .char ' ' ∈ word then .operand else .unknown

/-- The form of a word that begins with a hyphen and goes on. -/
def hyphenated (switches : List Switch) (word : Text) : Except Complaint Form :=
  let form := (spelled? switches word none).or <|
    match Text.cut '=' word with
    | (_, none) => none
    | (name, some attached) => spelled? switches name (some attached)
  match form with
  | some form => .ok form
  | none =>
    match candidates switches word with
    | [] => .ok (unclaimed word)
    | [(_, form)] => .ok form
    | several => .error (.ambiguous word (several.map (·.1)))

def formOf (switches : List Switch) (word : Text) : Except Complaint Form :=
  match word with
  | .char '-' :: _ :: _ => hyphenated switches word
  | _ => .ok .operand

/-- The words of a line; past the separator all are operands. -/
def ofTexts (switches : List Switch) : List Text → Except Complaint (List Word)
  | [] => .ok []
  | text :: rest =>
    if text = Cli.separator then
      .ok (⟨text, .separator⟩ :: rest.map fun text => ⟨text, .operand⟩)
    else
      match formOf switches text with
      | .error complaint => .error complaint
      | .ok form =>
        match ofTexts switches rest with
        | .error complaint => .error complaint
        | .ok words => .ok (⟨text, form⟩ :: words)

end Word

/-- What a line says, piece by piece. The argument of an option is nothing when it is attached and
is the separator. -/
inductive Mention where
  | flag (switch : Switch)
  | argument (switch : Switch) (value : Option Text)
  | operand (word : Text)
  | command (name : Text) (arguments : List Text)
  deriving DecidableEq, Repr

/-- What is read of a line: what it says, what nothing takes, and the complaint at which reading
stopped. -/
structure Reading where
  mentions : List Mention
  extras : List Text
  complaint : Option Complaint
  deriving DecidableEq, Repr

namespace Reading

def empty : Reading := ⟨[], [], none⟩

def stopped (complaint : Complaint) : Reading := ⟨[], [], some complaint⟩

def mention (mention : Mention) (reading : Reading) : Reading :=
  { reading with mentions := mention :: reading.mentions }

def extra (word : Text) (reading : Reading) : Reading :=
  { reading with extras := word :: reading.extras }

/-- What a line wants beside its options. -/
inductive Want where
  | nothing
  | operand
  | command
  deriving DecidableEq, Repr

/-- Flags in one word: each letter must name a flag. -/
def cluster (switches : List Switch) (first : Switch) : Text → Except Complaint (List Switch)
  | [] => .ok [first]
  | letter :: rest =>
    match Word.named? switches ['-', letter] with
    | none => .error (.unusedArgument first (letter :: rest))
    | some next =>
      match cluster switches next rest with
      | .error complaint => .error complaint
      | .ok flags => .ok (first :: flags)

/-- The flags of a word with something attached, which only more flags can be. -/
def attachedFlags (switches : List Switch) (switch : Switch) (short : Bool) (attached : Text) :
    Except Complaint (List Switch) :=
  if short && !attached.isEmpty then cluster switches switch attached
  else .error (.unusedArgument switch attached)

def ofWords (switches : List Switch) (want : Want) : List Word → Reading
  | [] => empty
  | ⟨text, .unknown⟩ :: rest => (ofWords switches want rest).extra text
  | ⟨_, .switch switch short (some attached)⟩ :: rest =>
    if switch.takesArgument then
      (ofWords switches want rest).mention
        (.argument switch (if attached = separator then none else some attached))
    else
      match attachedFlags switches switch short attached with
      | .error complaint => stopped complaint
      | .ok flags => flags.foldr (fun flag => mention (.flag flag)) (ofWords switches want rest)
  | ⟨_, .switch switch _ none⟩ :: rest =>
    if switch.takesArgument then
      match rest with
      | ⟨text, .operand⟩ :: rest =>
        (ofWords switches want rest).mention (.argument switch (some text))
      | _ => stopped (.missingArgument switch)
    else (ofWords switches want rest).mention (.flag switch)
  | ⟨text, .operand⟩ :: rest =>
    match want with
    | .nothing => (ofWords switches want rest).extra text
    | .command => empty.mention (.command text (rest.map Word.text))
    | .operand =>
      match rest with
      | ⟨_, .separator⟩ :: rest => (ofWords switches .nothing rest).mention (.operand text)
      | rest => (ofWords switches .nothing rest).mention (.operand text)
  | ⟨text, .separator⟩ :: rest =>
    match want, rest with
    | .command, _ :: _ => empty.mention (.command text (rest.map Word.text))
    | .operand, ⟨word, _⟩ :: rest => (ofWords switches .nothing rest).mention (.operand word)
    | want, rest => (ofWords switches want rest).extra text

/-- A line is complained about before it is read if a word of it is ambiguous. -/
def ofTexts (switches : List Switch) (want : Want) (line : List Text) : Reading :=
  match Word.ofTexts switches line with
  | .error complaint => stopped complaint
  | .ok words => ofWords switches want words

end Reading

end SealedToken.Cli
