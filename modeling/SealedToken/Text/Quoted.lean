import SealedToken.Text.Printable

/-!
Text shown between quotes, with a backslash escape for each character that does not print.
-/

set_option autoImplicit false

namespace SealedToken.Text

def hexDigit (n : Nat) : CodePoint :=
  if n < 10 then CodePoint.ofNat (48 + n) else CodePoint.ofNat (87 + n)

/-- The lowest hexadecimal digits of a number, in a field of fixed width. -/
def hexField : Nat → Nat → Text
  | 0, _ => []
  | width + 1, n => hexField width (n / 16) ++ [hexDigit (n % 16)]

/-- Single quotes, unless the text holds one and no double quote. -/
def quoteFor (text : Text) : CodePoint :=
  if .char '\'' ∈ text && .char '"' ∉ text then '"' else '\''

/-- A backslash escapes itself and the quote in use; line feed, return and tab have letters; any
other unprintable character is written by its code point in two, four or eight digits. -/
def escapeChar (quote : CodePoint) (c : CodePoint) : Text :=
  if c = '\\' || c = quote then ['\\', c]
  else if c = '\n' then ['\\', 'n']
  else if c = '\r' then ['\\', 'r']
  else if c = '\t' then ['\\', 't']
  else if isPrintable c then [c]
  else if c.toNat < 0x100 then '\\' :: 'x' :: hexField 2 c.toNat
  else if c.toNat < 0x10000 then '\\' :: 'u' :: hexField 4 c.toNat
  else '\\' :: 'U' :: hexField 8 c.toNat

def quoted (text : Text) : Text :=
  let quote := quoteFor text
  quote :: text.flatMap (escapeChar quote) ++ [quote]

set_option maxRecDepth 8000 in
example : quoted "a'\n" = "\"a'\\n\"" := by decide

end SealedToken.Text
