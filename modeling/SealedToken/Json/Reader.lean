import SealedToken.Json.Value
import SealedToken.Number.Decimal

/-!
Reading JSON text. Beside the standard grammar, the names of the non-finite numbers are values;
nesting and the digits of integers are bounded.
-/

set_option autoImplicit false

namespace SealedToken.Json

/-- The deepest nesting of arrays and objects that is read. The bound is no part of the format: it
is what a stack of a thousand calls leaves at the depth from which key texts are read, so it fits
that stack and those callers only. -/
def depthLimit : Nat := 990

def isSpace (c : CodePoint) : Bool := c = ' ' || c = '\t' || c = '\n' || c = '\r'

def skip (text : Text) : Text := text.dropWhile isSpace

def hexValue? (c : CodePoint) : Option Nat :=
  let n := c.toNat
  if 48 ≤ n ∧ n ≤ 57 then some (n - 48)
  else if 65 ≤ n ∧ n ≤ 70 then some (n - 55)
  else if 97 ≤ n ∧ n ≤ 102 then some (n - 87)
  else none

def hexFour? (a b c d : CodePoint) : Option Nat := do
  let a ← hexValue? a
  let b ← hexValue? b
  let c ← hexValue? c
  let d ← hexValue? d
  return ((a * 16 + b) * 16 + c) * 16 + d

def escape? : CodePoint → Option CodePoint
  | .char '"' => some '"'
  | .char '\\' => some '\\'
  | .char '/' => some '/'
  | .char 'b' => some '\x08'
  | .char 'f' => some '\x0C'
  | .char 'n' => some '\n'
  | .char 'r' => some '\r'
  | .char 't' => some '\t'
  | _ => none

/-- An escaped high surrogate and an escaped low one right behind it make one code point. -/
def joinEscaped (code : Nat) (rest text : Text) : Text :=
  match rest, text with
  | .char '\\' :: .char 'u' :: _, low :: text =>
    if 0xD800 ≤ code && code < 0xDC00 && 0xDC00 ≤ low.toNat && low.toNat < 0xE000 then
      .ofNat (0x10000 + (code - 0xD800) * 0x400 + (low.toNat - 0xDC00)) :: text
    else .ofNat code :: low :: text
  | _, _ => .ofNat code :: text

/-- The text of a string after its opening quote, and what follows the closing one. -/
def string? : Text → Option (Text × Text)
  | [] => none
  | .char '"' :: rest => some ([], rest)
  | .char '\\' :: .char 'u' :: a :: b :: c :: d :: rest => do
    let code ← hexFour? a b c d
    let (text, after) ← string? rest
    return (joinEscaped code rest text, after)
  | .char '\\' :: c :: rest => do
    let c ← escape? c
    let (text, after) ← string? rest
    return (c :: text, after)
  | c :: rest =>
    if c.toNat < 0x20 || c = '\\' then none
    else do
      let (text, after) ← string? rest
      return (c :: text, after)

/-- The double nearest to a decimal. -/
def double (mantissa : Nat) (exponent : Int) : Float :=
  let digits : Int := (Decimal.lowFirst mantissa).length
  if mantissa = 0 then 0
  else if 400 < digits + exponent then 1 / 0
  else if digits + exponent < -400 then 0
  else Float.ofScientific mantissa (exponent < 0) exponent.natAbs

def digitsOf (text : Text) : Text × Text :=
  (text.takeWhile Decimal.isDigit, text.dropWhile Decimal.isDigit)

/-- The digits after a point, if there are any. -/
def fraction? : Text → Option (Text × Text)
  | .char '.' :: rest =>
    let (digits, after) := digitsOf rest
    if digits.isEmpty then none else some (digits, after)
  | _ => none

def exponent? : Text → Option (Int × Text)
  | c :: rest =>
    if c = 'e' || c = 'E' then
      let (negative, rest) := match rest with
        | .char '-' :: rest => (true, rest)
        | .char '+' :: rest => (false, rest)
        | rest => (false, rest)
      let (digits, after) := digitsOf rest
      let size : Int := Decimal.value digits
      if digits.isEmpty then none else some (if negative then -size else size, after)
    else none
  | [] => none

/-- A number without its sign. A leading zero stands alone. -/
def magnitude? (negative : Bool) (text : Text) : Option (Json × Text) :=
  let (whole, rest) : Text × Text := match text with
    | .char '0' :: rest => (['0'], rest)
    | rest => digitsOf rest
  if whole.isEmpty then none
  else
    match fraction? rest, exponent? ((fraction? rest).elim rest (·.2)) with
    | none, none =>
      match Decimal.read? whole with
      | .ok value => some (.int (if negative then -(value : Int) else value), rest)
      | .error _ => none
    | part, power =>
      let digits := (part.map (·.1)).getD []
      let after := (power.map (·.2)).getD ((part.map (·.2)).getD rest)
      let exponent := (power.map (·.1)).getD 0 - digits.length
      let size := double (Decimal.value (whole ++ digits)) exponent
      some (.float (if negative then -size else size), after)

def number? : Text → Option (Json × Text)
  | .char '-' :: rest =>
    match Text.strip? "Infinity" rest with
    | some after => some (.float (-1 / 0), after)
    | none => magnitude? true rest
  | rest => magnitude? false rest

def scalar? (text : Text) : Option (Json × Text) :=
  match text with
  | .char '"' :: rest => (string? rest).map fun (value, after) => (.str value, after)
  | .char 'n' :: rest => (Text.strip? "ull" rest).map (Json.null, ·)
  | .char 't' :: rest => (Text.strip? "rue" rest).map (Json.bool true, ·)
  | .char 'f' :: rest => (Text.strip? "alse" rest).map (Json.bool false, ·)
  | .char 'N' :: rest => (Text.strip? "aN" rest).map (Json.float (0 / 0), ·)
  | .char 'I' :: rest => (Text.strip? "nfinity" rest).map (Json.float (1 / 0), ·)
  | _ => number? text

/-- The rest of an array, from an item on. -/
def items? (item? : Text → Option (Json × Text)) : Nat → Text → Option (List Json × Text)
  | 0, _ => none
  | fuel + 1, text => do
    let (item, rest) ← item? text
    match skip rest with
    | .char ']' :: after => return ([item], after)
    | .char ',' :: rest =>
      let (items, after) ← items? item? fuel (skip rest)
      return (item :: items, after)
    | _ => none

/-- The rest of an object, from a name on; the members read so far are given. A later member of the
same name takes the earlier one's place. -/
def members? (item? : Text → Option (Json × Text)) (read : List (Text × Json)) :
    Nat → Text → Option (List (Text × Json) × Text)
  | 0, _ => none
  | fuel + 1, text => do
    let .char '"' :: rest := text | none
    let (name, rest) ← string? rest
    let .char ':' :: rest := skip rest | none
    let (value, rest) ← item? (skip rest)
    let read := OrderedMap.place name value read
    match skip rest with
    | .char '}' :: after => return (read, after)
    | .char ',' :: rest => members? item? read fuel (skip rest)
    | _ => none

/-- A value at the start of a text, with at most the given nesting. -/
def value? : Nat → Text → Option (Json × Text)
  | 0, text =>
    match text with
    | .char '[' :: _ => none
    | .char '{' :: _ => none
    | _ => scalar? text
  | depth + 1, text =>
    match text with
    | .char '[' :: rest =>
      match skip rest with
      | .char ']' :: after => some (.arr [], after)
      | rest => (items? (value? depth) rest.length rest).map fun (items, after) =>
          (.arr items, after)
    | .char '{' :: rest =>
      match skip rest with
      | .char '}' :: after => some (.obj [], after)
      | rest => (members? (value? depth) [] rest.length rest).map fun (members, after) =>
          (.obj members, after)
    | _ => scalar? text

/-- The value that a whole text stands for, with white space around it. -/
def read? (text : Text) : Option Json := do
  let (value, rest) ← value? depthLimit (skip text)
  if (skip rest).isEmpty then some value else none

end SealedToken.Json
