import SealedToken.Cli.Page
import SealedToken.Cli.Reading
import SealedToken.Number.Literal

/-!
What command lines ask for. Their pieces are weighed in order, and the first that settles the line
does so: a call for help, a bad operand or argument, or the complaint at which reading stopped.
Missing pieces come next, and extras last.
-/

set_option autoImplicit false

namespace SealedToken.Cli

/-- How a command line ends before any command runs. -/
inductive Stop where
  | help (page : Page)
  | usage (page : Page) (complaint : Complaint)
  deriving DecidableEq, Repr

/-- An option without a text, whether left out or given nothing, is absent. A number may be given
as nothing, which is neither absent nor a number. -/
structure IssueOptions where
  subject : Option Text := none
  schema : Option Text := none
  roles : List (Option Text) := []
  scope : List (Option Text) := []
  target : Option Text := none
  originalIssuer : Option Text := none
  lifespan : Option (Option Int) := none
  issuedAt : Option (Option Int) := none
  secret : Option Text := none
  deriving DecidableEq, Repr

structure IssueArguments where
  kind : Kind
  issuer : Text
  options : IssueOptions
  deriving DecidableEq, Repr

structure InspectOptions where
  skew : Option (Option Int) := none
  json : Bool := false
  secret : Option Text := none
  deriving DecidableEq, Repr

structure InspectArguments where
  token : Text
  issuer : Text
  options : InspectOptions
  deriving DecidableEq, Repr

inductive Command where
  | init (env : Bool)
  | issue (arguments : IssueArguments)
  | inspect (arguments : InspectArguments)
  deriving DecidableEq, Repr

structure Invocation where
  verbose : Bool
  command : Option Command
  deriving DecidableEq, Repr

/-- The number that an option of a page is given. -/
def number (page : Page) (switch : Switch) : Option Text → Except Stop (Option Int)
  | none => .ok none
  | some text =>
    match Literal.read? text with
    | .error _ => .error (.usage page (.notAnInteger switch text))
    | .ok value => .ok (some value)

/-- A reading weighed piece by piece, up to the complaint that ended it. -/
def weigh {Draft : Type} (page : Page) (step : Draft → Mention → Except Stop Draft)
    (draft : Draft) (reading : Reading) : Except Stop Draft :=
  match reading.mentions.foldlM step draft with
  | .error stop => .error stop
  | .ok draft =>
    match reading.complaint with
    | some complaint => .error (.usage page complaint)
    | none => .ok draft

namespace IssueArguments

/-- The arguments met so far; the two required ones may still be missing. -/
structure Draft where
  kind : Option Kind := none
  issuer : Option (Option Text) := none
  options : IssueOptions := {}

def kindNames : List Text := Kind.all.map Kind.name

def kindNamed? (name : Text) : Option Kind := Kind.all.find? fun kind => kind.name = name

def stepOption (options : IssueOptions) (switch : Switch) (value : Option Text) :
    Except Stop IssueOptions :=
  match switch with
  | .subject => .ok { options with subject := value }
  | .schema => .ok { options with schema := value }
  | .role => .ok { options with roles := options.roles ++ [value] }
  | .scope => .ok { options with scope := options.scope ++ [value] }
  | .target => .ok { options with target := value }
  | .originalIssuer => .ok { options with originalIssuer := value }
  | .lifespan => do return { options with lifespan := some (← number .issue .lifespan value) }
  | .issuedAt => do return { options with issuedAt := some (← number .issue .issuedAt value) }
  | .secret => .ok { options with secret := value }
  | _ => .ok options

def step (draft : Draft) : Mention → Except Stop Draft
  | .flag _ => .error (.help .issue)
  | .command _ _ => .ok draft
  | .operand word =>
    match kindNamed? word with
    | none => .error (.usage .issue (.invalidChoice "kind" word kindNames))
    | some kind => .ok { draft with kind := some kind }
  | .argument .issuer value => .ok { draft with issuer := some value }
  | .argument switch value => do
    return { draft with options := ← stepOption draft.options switch value }

/-- Complaints about what is missing name the operand first. -/
def ofDraft (draft : Draft) : Except Stop IssueArguments :=
  match draft.kind, draft.issuer with
  | some kind, some issuer => .ok ⟨kind, issuer.getD [], draft.options⟩
  | kind, issuer =>
    .error (.usage .issue (.missing
      ((if kind.isNone then [Text.ofString "kind"] else []) ++
        if issuer.isNone then [Text.ofString "--issuer"] else [])))

/-- The arguments of a line and its extras. -/
def read (line : List Text) : Except Stop (IssueArguments × List Text) := do
  let reading := Reading.ofTexts Page.issue.switches .operand line
  let draft ← weigh .issue step {} reading
  return (← ofDraft draft, reading.extras)

end IssueArguments

namespace InspectArguments

structure Draft where
  token : Option Text := none
  issuer : Option (Option Text) := none
  options : InspectOptions := {}

def step (draft : Draft) : Mention → Except Stop Draft
  | .flag .json => .ok { draft with options := { draft.options with json := true } }
  | .flag _ => .error (.help .inspect)
  | .operand word => .ok { draft with token := some word }
  | .argument .issuer value => .ok { draft with issuer := some value }
  | .argument .skew value => do
    return { draft with
      options := { draft.options with skew := some (← number .inspect .skew value) } }
  | .argument .secret value =>
    .ok { draft with options := { draft.options with secret := value } }
  | .argument _ _ | .command _ _ => .ok draft

def ofDraft (draft : Draft) : Except Stop InspectArguments :=
  match draft.token, draft.issuer with
  | some token, some issuer => .ok ⟨token, issuer.getD [], draft.options⟩
  | token, issuer =>
    .error (.usage .inspect (.missing
      ((if token.isNone then [Text.ofString "token"] else []) ++
        if issuer.isNone then [Text.ofString "--issuer"] else [])))

def read (line : List Text) : Except Stop (InspectArguments × List Text) := do
  let reading := Reading.ofTexts Page.inspect.switches .operand line
  let draft ← weigh .inspect step {} reading
  return (← ofDraft draft, reading.extras)

end InspectArguments

namespace Invocation

def initStep (_ : Bool) : Mention → Except Stop Bool
  | .flag .env => .ok true
  | _ => .error (.help .init)

def readInit (line : List Text) : Except Stop (Bool × List Text) := do
  let reading := Reading.ofTexts Page.init.switches .nothing line
  let env ← weigh .init initStep false reading
  return (env, reading.extras)

def commandNames : List Text := Page.commands.map (·.1)

/-- The command of a name, read from its arguments, and their extras. -/
def readCommand (name : Text) (line : List Text) : Except Stop (Command × List Text) :=
  match Page.commands.lookup name with
  | some .init => (readInit line).map fun (env, extras) => (.init env, extras)
  | some .issue =>
    (IssueArguments.read line).map fun (arguments, extras) => (.issue arguments, extras)
  | some .inspect =>
    (InspectArguments.read line).map fun (arguments, extras) => (.inspect arguments, extras)
  | _ => .error (.usage .program (.invalidChoice "command" name commandNames))

/-- The invocation so far and the extras of its command. -/
structure Draft where
  verbose : Bool
  command : Option (Command × List Text)

def step (draft : Draft) : Mention → Except Stop Draft
  | .flag .verbose => .ok { draft with verbose := true }
  | .flag _ => .error (.help .program)
  | .command name line => do return { draft with command := some (← readCommand name line) }
  | _ => .ok draft

/-- A line with extras is refused as a whole, however good the rest of it is. -/
def read (line : List Text) : Except Stop Invocation := do
  let reading := Reading.ofTexts Page.program.switches .command line
  let draft ← weigh .program step ⟨false, none⟩ reading
  match reading.extras ++ (draft.command.map (·.2)).getD [] with
  | [] => return ⟨draft.verbose, draft.command.map (·.1)⟩
  | extras => throw (.usage .program (.unrecognized extras))

end Invocation

end SealedToken.Cli
