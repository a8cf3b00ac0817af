import SealedToken.Cli.Switch
import SealedToken.Token.Variant

/-!
The help pages: one for the program and one for each command. A page opens with its usage, which
alone is shown with a complaint.
-/

set_option autoImplicit false

namespace SealedToken.Cli

inductive Page where
  | program
  | init
  | issue
  | inspect
  deriving DecidableEq, Repr

namespace Page

/-- The commands, by name. -/
def commands : List (Text × Page) :=
  [("init", .init), ("issue", .issue), ("inspect", .inspect)]

/-- What stands before a complaint. -/
def caller : Page → Text
  | .program => "localtoken"
  | .init => "localtoken init"
  | .issue => "localtoken issue"
  | .inspect => "localtoken inspect"

/-- The options of a page, in the order in which they are listed. -/
def switches : Page → List Switch
  | .program => [.help, .verbose]
  | .init => [.help, .env]
  | .issue =>
    [.help, .issuer, .subject, .schema, .role, .scope, .target, .originalIssuer, .lifespan,
      .issuedAt, .secret]
  | .inspect => [.help, .issuer, .skew, .json, .secret]

/-- The kinds, as a choice. -/
def kindChoice : Text := "\x7b" ++ Text.join ',' (Kind.all.map Kind.name) ++ "\x7d"

def usage : Page → List Text
  | .program => ["usage: localtoken [-h] [-v] \x7binit,issue,inspect\x7d ..."]
  | .init => ["usage: localtoken init [-h] [--env]"]
  | .issue =>
    ["usage: localtoken issue [-h] --issuer ISSUER [--subject SUBJECT]",
      "                        [--schema SCHEMA] [--role ROLE] [--scope SCOPE]",
      "                        [--target TARGET] [--original-issuer ORIGINAL_ISSUER]",
      "                        [--lifespan LIFESPAN] [--issued-at ISSUED_AT]",
      "                        [--secret SECRET]",
      "                        " ++ kindChoice]
  | .inspect =>
    ["usage: localtoken inspect [-h] --issuer ISSUER [--skew SKEW] [--json]",
      "                          [--secret SECRET]",
      "                          token"]

/-- What follows the usage. -/
def body : Page → List Text
  | .program =>
    ["localtoken CLI - issue and inspect self-contained cell tokens",
      "",
      "positional arguments:",
      "  \x7binit,issue,inspect\x7d  Available commands",
      "    init                Generate a new master secret",
      "    issue               Issue a token",
      "    inspect             Decode and check a token",
      "",
      "options:",
      "  -h, --help            show this help message and exit",
      "  -v, --verbose         Enable verbose output"]
  | .init =>
    ["options:",
      "  -h, --help  show this help message and exit",
      "  --env       Output as environment variable"]
  | .issue =>
    ["positional arguments:",
      "  " ++ kindChoice,
      "                        Token kind",
      "",
      "options:",
      "  -h, --help            show this help message and exit",
      "  --issuer ISSUER       Issuer (cell) URL",
      "  --subject SUBJECT     Subject the token is issued to",
      "  --schema SCHEMA       Client/application identifier",
      "  --role ROLE           Role URL (repeatable)",
      "  --scope SCOPE         Scope value (repeatable)",
      "  --target TARGET       Target audience URL (grant codes)",
      "  --original-issuer ORIGINAL_ISSUER",
      "                        Original issuer URL (visitor refresh tokens)",
      "  --lifespan LIFESPAN   Lifespan in milliseconds",
      "  --issued-at ISSUED_AT",
      "                        Issue time in epoch milliseconds",
      "  --secret SECRET       Master secret (oct JWK JSON)"]
  | .inspect =>
    ["positional arguments:",
      "  token            The token to inspect",
      "",
      "options:",
      "  -h, --help       show this help message and exit",
      "  --issuer ISSUER  Expected issuer URL",
      "  --skew SKEW      Clock skew in ms",
      "  --json           Output as JSON",
      "  --secret SECRET  Master secret (oct JWK JSON)"]

def lines (texts : List Text) : Text := texts.flatMap (· ++ [.char '\n'])

def help (page : Page) : Text := lines (page.usage ++ [] :: page.body)

def complain (page : Page) (complaint : Complaint) : Text :=
  lines (page.usage ++ [page.caller ++ ": error: " ++ complaint.message])

end Page

end SealedToken.Cli
