import SealedToken.Text.Quoted

/-!
The options of the command line: how they are spelled and whether an argument follows, and the
complaints about command lines that cannot be understood.
-/

set_option autoImplicit false

namespace SealedToken.Cli

inductive Switch where
  | help
  | verbose
  | env
  | issuer
  | subject
  | schema
  | role
  | scope
  | target
  | originalIssuer
  | lifespan
  | issuedAt
  | secret
  | skew
  | json
  deriving DecidableEq, Repr

namespace Switch

/-- The spellings, the short one first. -/
def names : Switch → List Text
  | .help => ["-h", "--help"]
  | .verbose => ["-v", "--verbose"]
  | .env => ["--env"]
  | .issuer => ["--issuer"]
  | .subject => ["--subject"]
  | .schema => ["--schema"]
  | .role => ["--role"]
  | .scope => ["--scope"]
  | .target => ["--target"]
  | .originalIssuer => ["--original-issuer"]
  | .lifespan => ["--lifespan"]
  | .issuedAt => ["--issued-at"]
  | .secret => ["--secret"]
  | .skew => ["--skew"]
  | .json => ["--json"]

def takesArgument : Switch → Bool
  | .help | .verbose | .env | .json => false
  | _ => true

/-- All spellings, as complaints show them. -/
def label (switch : Switch) : Text := Text.join '/' switch.names

end Switch

inductive Complaint where
  | ambiguous (word : Text) (candidates : List Text)
  | unusedArgument (switch : Switch) (argument : Text)
  | missingArgument (switch : Switch)
  | notAnInteger (switch : Switch) (argument : Text)
  | invalidChoice (operand : Text) (word : Text) (choices : List Text)
  | missing (required : List Text)
  | unrecognized (words : List Text)
  deriving DecidableEq, Repr

namespace Complaint

def listed : List Text → Text
  | [] => []
  | [piece] => piece
  | piece :: pieces => piece ++ ", " ++ listed pieces

def message : Complaint → Text
  | .ambiguous word candidates =>
    "ambiguous option: " ++ word ++ " could match " ++ listed candidates
  | .unusedArgument switch argument =>
    "argument " ++ switch.label ++ ": ignored explicit argument " ++ Text.quoted argument
  | .missingArgument switch => "argument " ++ switch.label ++ ": expected one argument"
  | .notAnInteger switch argument =>
    "argument " ++ switch.label ++ ": invalid int value: " ++ Text.quoted argument
  | .invalidChoice operand word choices =>
    "argument " ++ operand ++ ": invalid choice: " ++ Text.quoted word ++ " (choose from " ++
      listed (choices.map Text.quoted) ++ ")"
  | .missing required => "the following arguments are required: " ++ listed required
  | .unrecognized words => "unrecognized arguments: " ++ Text.join ' ' words

end Complaint

end SealedToken.Cli
