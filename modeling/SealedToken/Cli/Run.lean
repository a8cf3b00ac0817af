import SealedToken.Cli.Arguments
import SealedToken.Deployment
import SealedToken.Json.Printer
import SealedToken.Token.Record

/-!
What the commands do. A run writes to two channels and ends with a code, or in a fault that no
command answers for; what was written before such a fault stays written.
-/

set_option autoImplicit false

namespace SealedToken.Cli

/-- A fault that no command answers for. -/
inductive Crash where
  | clock (fault : ClockFault)
  | form (fault : FormFault)
  | verify (fault : VerifyFault)
  | limit (exceeded : Decimal.LimitExceeded)
  /-- A comparison with a number that was given as nothing. -/
  | comparison (sign : Text)
  deriving DecidableEq, Repr

def Crash.message : Crash → Text
  | .clock fault => fault.message
  | .form fault => fault.message
  | .verify fault => fault.message
  | .limit exceeded => exceeded.message
  | .comparison sign =>
    "'" ++ sign ++ "' not supported between instances of 'list' and 'int'"

/-- What a run leaves behind. -/
structure Transcript where
  output : Text
  errors : Text
  result : Except Crash Nat

namespace Transcript

def line (text : Text) : Text := text ++ "\n"

def printed (output : Text) : Transcript := ⟨output, [], .ok 0⟩

/-- A complaint on the error channel. -/
def refused (reason : Text) : Transcript := ⟨[], line reason, .ok 1⟩

def crashed (crash : Crash) : Transcript := ⟨[], [], .error crash⟩

end Transcript

/-- What runs in one session share. -/
structure Session where
  random : ByteSource
  metrics : Metrics
  /-- Whether diagnostics are logged, once a run has settled it. -/
  verbose : Option Bool

/-- What a single run is given by its surroundings. -/
structure Surroundings where
  settings : Settings
  secret : Option Text
  clock : Float

/-- The secret that is given, or else that of the surroundings; an empty one is none. -/
def findSecret (given surrounding : Option Text) : Except Text Secret :=
  match (absentIfEmpty given).or (absentIfEmpty surrounding) with
  | none =>
    .error ("Error: Missing secret. Set " ++ Settings.secretVariable ++ " or use --secret")
  | some text => (Secret.ofJwk text).mapError fun fault => "Error: " ++ fault.message

def runInit (env : Bool) (session : Session) : Transcript × Session :=
  let (secret, random) := session.random.secret 256
  let shown :=
    if env then Transcript.line ("export " ++ Settings.secretVariable ++ "='" ++ secret ++ "'")
    else
      Transcript.line "--- SECRET (Keep Secret / Set as Env Var) ---" ++ Transcript.line secret
  (.printed shown, { session with random := random })

namespace IssueArguments

/-- Why arguments make no request. -/
inductive Refusal where
  | notCarried (kind : Kind) (part : Part)
  | roleMissing
  | role (fault : ReferenceFault)
  deriving DecidableEq, Repr

def carriedName : Part → Text
  | .roles => "roles"
  | .scope => "a scope"
  | .target => "a target"
  | .originalIssuer => "an original issuer"

def Refusal.message : Refusal → Text
  | .notCarried kind part => kind.name ++ " tokens do not carry " ++ carriedName part
  | .roleMissing => "Malformed role URL: []"
  | .role fault => fault.message

def roleItem : Option Text → Except Refusal RoleItem
  | none => .error .roleMissing
  | some address =>
    match Role.ofAddress address with
    | .error fault => .error (.role fault)
    | .ok role => .ok (.role role)

/-- A part that is asked for must be one that the kind carries. -/
def asked (kind : Kind) (part : Part) {Value : Type} (wanted : Bool) (value : Value) :
    Except Refusal (Option Value) :=
  if !wanted then .ok none
  else if kind.layout.contains part then .ok (some value)
  else .error (.notCarried kind part)

/-- Times as they are given; a number given as nothing is dealt with apart. -/
def timing (settings : Settings) (arguments : IssueArguments) : Timing :=
  match arguments.options.issuedAt.join with
  | some issuedAt =>
    .exact issuedAt
      (arguments.options.lifespan.join.getD (arguments.kind.lifespan settings))
  | none => .now arguments.options.lifespan.join

/-- The parts are looked at in turn, and roles are read as soon as they are known to be carried. -/
def request (settings : Settings) (arguments : IssueArguments) : Except Refusal Request := do
  let options := arguments.options
  let kind := arguments.kind
  let addresses ← asked kind .roles (!options.roles.isEmpty) options.roles
  let roles ← (addresses.getD []).mapM roleItem
  let scope ← asked kind .scope (!options.scope.isEmpty) (options.scope.map (·.getD []))
  let target ← asked kind .target (absentIfEmpty options.target).isSome options.target
  let originalIssuer ←
    asked kind .originalIssuer (absentIfEmpty options.originalIssuer).isSome options.originalIssuer
  return {
    variant := .builtin kind
    timing := arguments.timing settings
    issuer := arguments.issuer
    subject := options.subject
    schema := options.schema
    scope := scope
    roles := addresses.map fun _ => roles
    target := target
    originalIssuer := originalIssuer }

/-- A scope item that was given as nothing is shown as an empty list. -/
def explain (arguments : IssueArguments) (fault : FormFault) : Text :=
  let blank := arguments.options.scope.find? fun item => (item.getD []).isEmpty
  if fault = .invalidScope [] ∧ blank = some none then "Invalid scope value: []"
  else fault.message

/-- The end of a run whose times were not both given as numbers. -/
def unnumbered (settings : Settings) (clock : Float) (arguments : IssueArguments)
    (request : Request) : Option Transcript :=
  if arguments.options.issuedAt = some none then some (.crashed (.comparison "<"))
  else if arguments.options.lifespan = some none then
    some <|
      match request.times settings clock with
      | .error .infinite => .crashed (.clock .infinite)
      | .error fault => .refused ("Error: " ++ fault.message)
      | .ok (issuedAt, _) =>
        if issuedAt < 0 then .refused ("Error: " ++ FormFault.negativeIssuedAt.message)
        else .crashed (.comparison "<=")
  else none

def failed (arguments : IssueArguments) : IssueFault → Transcript
  | .form (.clock .infinite) => .crashed (.clock .infinite)
  | .form (.unexpected call argument) => .crashed (.form (.unexpected call argument))
  | .form (.notARole found) => .crashed (.form (.notARole found))
  | .form fault => .refused ("Error: " ++ arguments.explain fault)
  | .sealing (.key (.unencodable fault)) => .refused ("Error: " ++ fault.message)
  | .sealing (.key fault) => .refused ("Error issuing token: " ++ fault.message)
  | .sealing fault => .refused ("Error: " ++ fault.message)

/-- A token that is issued is printed and counted. -/
def run (arguments : IssueArguments) (surroundings : Surroundings) (session : Session) :
    Transcript × Session :=
  match findSecret arguments.options.secret surroundings.secret with
  | .error reason => (.refused reason, session)
  | .ok secret =>
    match arguments.request surroundings.settings with
    | .error refusal => (.refused ("Error: " ++ refusal.message), session)
    | .ok request =>
      match arguments.unnumbered surroundings.settings surroundings.clock request with
      | some ending => (ending, session)
      | none =>
        let done :=
          request.issue surroundings.settings surroundings.clock secret.resolver session.random
        let session := { session with random := done.left }
        match done.result with
        | .error fault => (arguments.failed fault, session)
        | .ok raw =>
          (.printed (Transcript.line raw),
            { session with metrics := session.metrics.recordIssued request.variant.mark })

end IssueArguments

namespace InspectArguments

def verdictMembers (verdict : Verdict) : List (Text × Json) :=
  [Json.member "valid" (.bool verdict.valid),
    Json.member "reason" (.str verdict.reason)]

/-- The verdict as a JSON object, with the record of the token if there is one. -/
def jsonReport (verdict : Verdict) : Except Decimal.LimitExceeded Text :=
  match verdict.token? with
  | none => Json.pretty (.obj (verdictMembers verdict))
  | some token => do
    let record ← token.record
    Json.pretty (.obj (verdictMembers verdict ++ [Json.member "token" (.obj record)]))

def headline (verdict : Verdict) : Text :=
  if verdict.valid then Transcript.line "✅ VALID"
  else Transcript.line ("❌ INVALID (" ++ verdict.reason ++ ")")

def labelled (label value : Text) : Text := Transcript.line (label ++ value)

/-- The lines about a token before that of its expiry time. -/
def summary (token : Token) : Text :=
  labelled "   Kind:    " token.variant.kindName ++
    labelled "   Subject: " (token.common.subject.getD (Text.ofString "None")) ++
    labelled "   Issuer:  " token.common.issuer

/-- The lines for people. An expiry time too long to write ends them. -/
def plainReport (verdict : Verdict) : Text × Option Decimal.LimitExceeded :=
  match verdict.token? with
  | none => (headline verdict, none)
  | some token =>
    let lines := headline verdict ++ summary token
    match Decimal.write? token.expiresAt with
    | .error exceeded => (lines, some exceeded)
    | .ok moment => (lines ++ labelled "   Expires: " moment, none)

def report (json : Bool) (verdict : Verdict) : Text × Option Decimal.LimitExceeded :=
  if json then
    match jsonReport verdict with
    | .error exceeded => ([], some exceeded)
    | .ok text => (Transcript.line text, none)
  else plainReport verdict

def conclude (json : Bool) (log : Text) : Except VerifyFault Verdict → Transcript
  | .error fault => ⟨[], log, .error (.verify fault)⟩
  | .ok verdict =>
    match report json verdict with
    | (output, some exceeded) => ⟨output, log, .error (.limit exceeded)⟩
    | (output, none) => ⟨output, log, .ok (if verdict.valid then 0 else 1)⟩

def logged (verbose : Option Bool) (events : List Event) : Text :=
  if verbose = some true then
    (events.filterMap Event.line?).flatMap fun line => Transcript.line ("DEBUG: " ++ line)
  else []

/-- A token is verified by the standard registry and the given tolerance. -/
def run (arguments : InspectArguments) (surroundings : Surroundings) (session : Session) :
    Transcript × Session :=
  match findSecret arguments.options.secret surroundings.secret with
  | .error reason => (.refused reason, session)
  | .ok secret =>
    match arguments.options.skew.getD (some surroundings.settings.clockSkew) with
    | none => (.crashed (.comparison "<"), session)
    | some skew =>
      match Verifier.make secret.resolver .standard skew none with
      | .error fault => (.refused ("Error: " ++ fault.message), session)
      | .ok verifier =>
        let (verified, metrics) :=
          verifier.verifyMetered session.metrics 0 0 (some arguments.token)
            (some arguments.issuer) surroundings.clock none
        (conclude arguments.options.json (logged session.verbose verified.events) verified.result,
          { session with metrics := metrics })

end InspectArguments

def Stop.transcript : Stop → Transcript
  | .help page => .printed page.help
  | .usage page complaint => ⟨[], page.complain complaint, .ok 2⟩

def Command.run (surroundings : Surroundings) (session : Session) :
    Option Command → Transcript × Session
  | none => (.printed Page.program.help, session)
  | some (.init env) => runInit env session
  | some (.issue arguments) => arguments.run surroundings session
  | some (.inspect arguments) => arguments.run surroundings session

/-- A run of the program. Without a command it shows its help page. The first run whose line is
understood settles for all whether diagnostics are logged. -/
def run (surroundings : Surroundings) (line : List Text) (session : Session) :
    Transcript × Session :=
  match Invocation.read line with
  | .error stop => (stop.transcript, session)
  | .ok invocation =>
    let session := { session with verbose := session.verbose.or (some invocation.verbose) }
    Command.run surroundings session invocation.command

/-- Runs in one process, one after the other. -/
def runAll (session : Session) : List (Surroundings × List Text) → List Transcript × Session
  | [] => ([], session)
  | (surroundings, line) :: rest =>
    let (transcript, session) := run surroundings line session
    let (transcripts, session) := runAll session rest
    (transcript :: transcripts, session)

end SealedToken.Cli
