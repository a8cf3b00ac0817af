import SealedToken.Text.Basic
import SealedToken.Number.Decimal

/-!
The text form of IPv6 addresses: eight groups, one run of zero groups left out by a double colon,
an IPv4 tail in place of the last two, and a zone behind a percent sign.
-/

set_option autoImplicit false

namespace SealedToken.Url

def isHexDigit (c : CodePoint) : Bool :=
  let n := c.toNat
  (48 ≤ n && n ≤ 57) || (65 ≤ n && n ≤ 70) || (97 ≤ n && n ≤ 102)

def isGroup (group : Text) : Bool :=
  !group.isEmpty && group.length ≤ 4 && group.all isHexDigit

/-- A leading zero stands alone. -/
def isOctet (octet : Text) : Bool :=
  !octet.isEmpty && octet.length ≤ 3 && octet.all Decimal.isDigit &&
    (octet = "0" || octet.head? ≠ some '0') && Decimal.value octet ≤ 255

def isIpv4 (host : Text) : Bool :=
  let octets := Text.split '.' host
  octets.length == 4 && octets.all isOctet

/-- The groups with an IPv4 tail counted as two of them. -/
def withoutTail? (groups : List Text) : Option (List Text) :=
  match groups.getLast? with
  | none => some groups
  | some last =>
    if .char '.' ∈ last then
      if isIpv4 last then some (groups.dropLast ++ [("0" : Text), "0"]) else none
    else some groups

/-- The positions of the empty groups that are neither first nor last. -/
def gaps (groups : List Text) : List Nat :=
  (List.range groups.length).filter fun i =>
    0 < i && i + 1 < groups.length && groups.getD i [] = []

/-- One side of a double colon: at an end of the address it is a single empty group. -/
def side (groups : List Text) : List Text := if groups = [[]] then [] else groups

def areGroups (groups : List Text) : Bool :=
  match gaps groups with
  | [] => groups.length == 8 && groups.all isGroup
  | [gap] =>
    let before := side (groups.take gap)
    let after := side (groups.drop (gap + 1))
    before.length + after.length ≤ 7 && before.all isGroup && after.all isGroup
  | _ => false

def isIpv6 (host : Text) : Bool :=
  let (address, zone) := Text.cut '%' host
  let groups := Text.split ':' address
  let zoned := match zone with
    | none => true
    | some zone => !zone.isEmpty && .char '%' ∉ zone
  zoned && 3 ≤ groups.length &&
    match withoutTail? groups with
    | none => false
    | some groups => areGroups groups

example : isIpv6 "::1" = true ∧ isIpv6 "1::2::3" = false ∧
    isIpv6 "::ffff:1.2.3.4" = true := by decide +kernel

end SealedToken.Url
