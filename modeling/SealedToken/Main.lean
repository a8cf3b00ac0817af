import SealedToken.Cli.Run
import Std.Time.DateTime.Timestamp

/-!
The program: it hands its arguments, its environment, the time and random bytes to a run, and
passes on what the run leaves behind.
-/

set_option autoImplicit false

namespace SealedToken.Cli

/-- The environment as far as settings depend on it. -/
def readEnvironment : IO (String → Option Text) := do
  let found ← Settings.variableNames.mapM fun name => do
    return (name, (← IO.getEnv name).map Text.ofString)
  return fun name => (found.lookup name).join

/-- The wall clock in seconds. -/
def readClock : IO Float := do
  let now ← Std.Time.Timestamp.now
  return Float.ofInt now.toMillisecondsSinceUnixEpoch.toInt / 1000

/-- No run takes more random bytes than a fresh secret. -/
def readRandom : IO ByteSource := do
  return ByteSource.ofBytes (← IO.getRandomBytes 32).toList

/-- A surrogate is shown by its number. -/
def shown (text : Text) : String :=
  String.ofList <| text.flatMap fun
    | .char c => [c]
    | .surrogate index => ['\\', 'u'] ++ Nat.toDigits 16 (0xD800 + index.val)

def passOn (transcript : Transcript) : IO UInt32 := do
  IO.print (shown transcript.output)
  IO.eprint (shown transcript.errors)
  match transcript.result with
  | .ok code => return code.toUInt32
  | .error crash =>
    IO.eprintln (shown crash.message)
    return 1

def start (line : List Text) : IO UInt32 := do
  match Settings.read (← readEnvironment) with
  | .error fault =>
    IO.eprintln (shown fault.message)
    return 1
  | .ok settings =>
    let secret := (← IO.getEnv Settings.secretVariable).map Text.ofString
    let session : Session := ⟨← readRandom, Metrics.new Metrics.defaultName, none⟩
    passOn (run ⟨settings, secret, ← readClock⟩ line session).1

end SealedToken.Cli

def main (arguments : List String) : IO UInt32 :=
  SealedToken.Cli.start (arguments.map SealedToken.Text.ofString)
