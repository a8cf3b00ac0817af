import SealedToken.Number.Decimal
import SealedToken.Text.Blank
import SealedToken.Text.Digit
import SealedToken.Text.Quoted

/-!
Integer literals as people type them: blanks around, one sign, decimal digits of any script,
single underscores between digits.
-/

set_option autoImplicit false

namespace SealedToken.Literal

inductive Fault where
  | notAnInteger (text : Text)
  | limit (exceeded : Decimal.LimitExceeded)
  deriving DecidableEq, Repr

/-- A refused literal is shown by the first 200 characters of its quoted form. -/
def Fault.message : Fault → Text
  | .notAnInteger text =>
    "invalid literal for int() with base 10: " ++ (Text.quoted text).take 200
  | .limit exceeded => exceeded.message

/-- The ASCII character that a literal's character stands for: beyond ASCII, blanks stand for the
space and decimal digits for their values. -/
def plain (c : CodePoint) : CodePoint :=
  if c.toNat < 0x80 then c
  else if Text.isBlank c then ' '
  else
    match Text.digitValue? c with
    | some value => Decimal.digit value
    | none => c

def isSpace (c : CodePoint) : Bool := c = ' ' || (9 ≤ c.toNat && c.toNat ≤ 13)

/-- The digits of a run in which single underscores separate groups. -/
def ungroup? (run : Text) : Option Text :=
  let groups := Text.split '_' run
  if groups.all (· ≠ []) then some groups.flatten else none

def unsigned (text digits after : Text) : Except Fault Nat :=
  match ungroup? digits with
  | none => .error (.notAnInteger text)
  | some digits =>
    match Decimal.read? digits with
    | .error exceeded => .error (.limit exceeded)
    | .ok value => if after.all isSpace then .ok value else .error (.notAnInteger text)

def read? (text : Text) : Except Fault Int :=
  let body := (text.map plain).dropWhile isSpace
  let (negative, body) := match body with
    | .char '-' :: rest => (true, rest)
    | .char '+' :: rest => (false, rest)
    | rest => (false, rest)
  let inRun := fun c => Decimal.isDigit c || c = '_'
  match unsigned text (body.takeWhile inRun) (body.dropWhile inRun) with
  | .error fault => .error fault
  | .ok value => .ok (if negative then -(value : Int) else value)

end SealedToken.Literal
