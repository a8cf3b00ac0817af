import SealedToken.Number.Literal

/-!
Settings of a deployment: default lifespans by family of tokens, and the tolerance for expiry. Each
is read from its environment variable when that is set.
-/

set_option autoImplicit false

namespace SealedToken

structure Settings where
  accessLifespan : Int
  refreshLifespan : Int
  grantCodeLifespan : Int
  clockSkew : Int
  deriving DecidableEq, Repr

namespace Settings

/-- One hour, one day, ten minutes, and no tolerance, in milliseconds. -/
def standard : Settings := ⟨3600000, 86400000, 600000, 0⟩

/-- The environment variable that holds the master secret. -/
def secretVariable : String := "LOCALTOKEN_SECRET"

def accessVariable : String := "LOCALTOKEN_ACCESS_EXPIRES_MILLIS"

def refreshVariable : String := "LOCALTOKEN_REFRESH_EXPIRES_MILLIS"

def grantCodeVariable : String := "LOCALTOKEN_GRANT_CODE_EXPIRES_MILLIS"

def skewVariable : String := "LOCALTOKEN_CLOCK_SKEW_MILLIS"

def variableNames : List String :=
  [accessVariable, refreshVariable, grantCodeVariable, skewVariable]

def readOr (environment : String → Option Text) (name : String) (default : Int) :
    Except Literal.Fault Int :=
  match environment name with
  | none => .ok default
  | some text => Literal.read? text

/-- The variables are read in order; the first that is no integer is the fault. -/
def read (environment : String → Option Text) : Except Literal.Fault Settings := do
  let access ← readOr environment accessVariable standard.accessLifespan
  let refresh ← readOr environment refreshVariable standard.refreshLifespan
  let code ← readOr environment grantCodeVariable standard.grantCodeLifespan
  let skew ← readOr environment skewVariable standard.clockSkew
  return ⟨access, refresh, code, skew⟩

/-- The settings in force, as shown to an operator. -/
def report (settings : Settings) : Text :=
  "localtoken configuration:" ++
    "\n  ACCESS_TOKEN_EXPIRES_MILLIS:  " ++ Decimal.ofInt settings.accessLifespan ++
    "\n  REFRESH_TOKEN_EXPIRES_MILLIS: " ++ Decimal.ofInt settings.refreshLifespan ++
    "\n  GRANT_CODE_EXPIRES_MILLIS:    " ++ Decimal.ofInt settings.grantCodeLifespan ++
    "\n  CLOCK_SKEW_MILLIS:            " ++ Decimal.ofInt settings.clockSkew ++ "\n"

end Settings

end SealedToken
