import SealedToken.Json.Value
import SealedToken.Number.Shortest
import SealedToken.Text.Quoted

/-!
Writing JSON in ASCII, one member or item a line, indented by two blanks.
-/

set_option autoImplicit false

namespace SealedToken

namespace Json

/-- Code points above U+FFFF are written as two surrogates. -/
def escapeCode (code : Nat) : Text :=
  if code < 0x10000 then '\\' :: 'u' :: Text.hexField 4 code
  else
    "\\u" ++ Text.hexField 4 (0xD800 + (code - 0x10000) / 0x400) ++ "\\u" ++
      Text.hexField 4 (0xDC00 + (code - 0x10000) % 0x400)

def writeCode (code : Nat) : Text :=
  if code = 0x22 then ['\\', '"']
  else if code = 0x5C then ['\\', '\\']
  else if code = 0x0A then ['\\', 'n']
  else if code = 0x0D then ['\\', 'r']
  else if code = 0x09 then ['\\', 't']
  else if code = 0x0C then ['\\', 'f']
  else if code = 0x08 then ['\\', 'b']
  else if 0x20 ≤ code ∧ code < 0x7F then [CodePoint.ofNat code]
  else escapeCode code

def writeString (text : Text) : Text := "\"" ++ text.flatMap (writeCode ·.toNat) ++ "\""

def writeFloat (x : Float) : Text :=
  match Binary64.ofFloat x with
  | .notANumber => "NaN"
  | .infinite negative => if negative then "-Infinity" else "Infinity"
  | .finite .. => Shortest.write x

def newline (depth : Nat) : Text := '\n' :: List.replicate (2 * depth) ' '

/-- Lines between brackets, separated by commas; nothing between them when there are none. -/
def bracket (left right : CodePoint) (depth : Nat) (lines : List Text) : Text :=
  match lines with
  | [] => [left, right]
  | first :: others =>
    left :: newline (depth + 1) ++ first ++
      others.flatMap (fun line => .char ',' :: newline (depth + 1) ++ line) ++
        newline depth ++ [right]

mutual

/-- The text of a value inside the given number of brackets. Integers obey the digit limit. -/
def write (depth : Nat) : Json → Except Decimal.LimitExceeded Text
  | .null => .ok "null"
  | .bool value => .ok (if value then "true" else "false")
  | .int value => Decimal.write? value
  | .float value => .ok (writeFloat value)
  | .str value => .ok (writeString value)
  | .arr items => do return bracket '[' ']' depth (← writeItems (depth + 1) items)
  | .obj members => do return bracket '{' '}' depth (← writeMembers (depth + 1) members)

def writeItems (depth : Nat) : List Json → Except Decimal.LimitExceeded (List Text)
  | [] => .ok []
  | item :: rest => do
    let line ← write depth item
    let lines ← writeItems depth rest
    return line :: lines

def writeMembers (depth : Nat) :
    List (Text × Json) → Except Decimal.LimitExceeded (List Text)
  | [] => .ok []
  | (name, value) :: rest => do
    let line ← write depth value
    let lines ← writeMembers depth rest
    return (writeString name ++ ": " ++ line) :: lines

end

def pretty (value : Json) : Except Decimal.LimitExceeded Text := write 0 value

end Json

end SealedToken
