import SealedToken.Number.Binary64
import SealedToken.Number.Decimal

/-!
The shortest decimal that reads back as a given double: among the decimals with the fewest digits
inside the interval of reals that round to it, the nearest.
-/

set_option autoImplicit false

namespace SealedToken.Shortest

/-- A non-negative rational. -/
structure Ratio where
  num : Nat
  den : Nat

/-- A value and the ends of its rounding interval, over one denominator. -/
structure Interval where
  value : Nat
  low : Nat
  high : Nat
  den : Nat
  closed : Bool

/-- The reals that round to a positive mantissa times a power of two. Below a power of two the
lower gap is half as wide, except at the least exponent. The ends belong to even mantissas. -/
def interval (mantissa : Nat) (exponent : Int) : Interval :=
  let boundary := mantissa = Binary64.twoTo 52 && exponent ≠ Binary64.leastExponent
  let scale := if 0 ≤ exponent then Binary64.twoTo exponent.toNat else 1
  let den := if 0 ≤ exponent then 4 else 4 * Binary64.twoTo (-exponent).toNat
  { value := 4 * mantissa * scale
    low := (4 * mantissa - if boundary then 1 else 2) * scale
    high := (4 * mantissa + 2) * scale
    den := den
    closed := mantissa % 2 == 0 }

/-- A decimal: a digit count's integer times a power of ten. -/
structure Candidate where
  digits : Nat
  power : Int
  deriving DecidableEq, Repr

/-- A number of decimal places as a pair of scale factors for numerator and denominator. -/
def scales (power : Int) : Nat × Nat :=
  if 0 ≤ power then (1, Decimal.tenTo power.toNat) else (Decimal.tenTo (-power).toNat, 1)

def Interval.holds (i : Interval) (c : Candidate) : Bool :=
  let (up, down) := scales c.power
  let point := c.digits * down * i.den
  if i.closed then i.low * up ≤ point && point ≤ i.high * up
  else i.low * up < point && point < i.high * up

/-- The nearest of the two neighbours of the value on a decimal grid that lie in the interval; a
tie goes to the even digit. -/
def Interval.onGrid? (i : Interval) (power : Int) : Option Candidate :=
  let (up, down) := scales power
  let below := i.value * up / (i.den * down)
  let rest := i.value * up - below * (i.den * down)
  let lower : Candidate := ⟨below, power⟩
  let upper : Candidate := ⟨below + 1, power⟩
  let first := 2 * rest < i.den * down || (2 * rest = i.den * down && below % 2 = 0)
  let (near, far) := if first then (lower, upper) else (upper, lower)
  if i.holds near then some near else if i.holds far then some far else none

/-- The power of ten just above the value: the number of digits before its point. -/
def Interval.magnitude (i : Interval) : Int :=
  if i.den ≤ i.value then (Decimal.lowFirst (i.value / i.den)).length
  else 1 - (Decimal.lowFirst ((i.den - 1) / i.value)).length

/-- Grids from coarse to fine: the first that has a point in the interval decides. -/
def Interval.search (i : Interval) (top : Int) : Nat → Nat → Candidate
  | 0, count =>
    let (up, down) := scales (top - count)
    ⟨i.value * up / (i.den * down), top - count⟩
  | fuel + 1, count =>
    match i.onGrid? (top - count) with
    | some found => found
    | none => i.search top fuel (count + 1)

/-- Digits without trailing zeros, and the position of the decimal point after the first of them. -/
structure Digits where
  digits : Text
  point : Int
  deriving DecidableEq, Repr

def Candidate.normal (c : Candidate) : Digits :=
  let low := Decimal.lowFirst c.digits
  let trimmed : Text := low.dropWhile (· = '0')
  ⟨trimmed.reverse, low.length + c.power⟩

/-- The shortest decimal of a positive finite double. -/
def digits (mantissa : Nat) (exponent : Int) : Digits :=
  let i := interval mantissa exponent
  (i.search i.magnitude 17 1).normal

/-- Where a number is written with an exponent, and how. -/
structure Layout where
  /-- The least and the greatest point position written positionally. -/
  least : Int
  greatest : Int
  exponentWidth : Nat

def zeros (count : Nat) : Text := List.replicate count '0'

def exponentText (width : Nat) (exponent : Int) : Text :=
  let magnitude := Decimal.ofNat exponent.natAbs
  'e' :: (if exponent < 0 then '-' else '+') ::
    (zeros (width - magnitude.length) ++ magnitude)

def Layout.write (layout : Layout) (d : Digits) : Text :=
  if layout.least ≤ d.point ∧ d.point ≤ layout.greatest then
    if d.point ≤ 0 then '0' :: '.' :: (zeros (-d.point).toNat ++ d.digits)
    else
      let whole := d.point.toNat
      let fraction := d.digits.drop whole
      d.digits.take whole ++ zeros (whole - d.digits.length) ++
        .char '.' :: (if fraction.isEmpty then zeros 1 else fraction)
  else
    let fraction := d.digits.drop 1
    d.digits.take 1 ++ (if fraction.isEmpty then fraction else '.' :: fraction) ++
      exponentText layout.exponentWidth (d.point - 1)

/-- Positional from 0.0001 up to sixteen digits before the point, then a two-digit exponent. -/
def standard : Layout := ⟨-3, 16, 2⟩

/-- The text of a double in the standard layout. -/
def write (x : Float) : Text :=
  match Binary64.ofFloat x with
  | .notANumber => "nan"
  | .infinite negative => if negative then "-inf" else "inf"
  | .finite negative mantissa exponent =>
    let body : Text := if mantissa = 0 then "0.0" else standard.write (digits mantissa exponent)
    if negative then '-' :: body else body

end SealedToken.Shortest
