import SealedToken.Text.Blank
import SealedToken.Url.Ipv6

/-!
Absolute web addresses: a text with scheme http or https, a host, and a port that fits. An address
is cut into scheme, authority and path before it is judged.
-/

set_option autoImplicit false

namespace SealedToken

/-- An address cut at its scheme's colon, after its authority, and before query and fragment. -/
structure Url where
  scheme : Text
  authority : Text
  path : Text
  deriving DecidableEq, Repr

namespace Url

def isSchemeChar (c : CodePoint) : Bool := c.isAlphanum || c = '+' || c = '-' || c = '.'

/-- The lower-cased scheme, empty when there is none, and what follows it. -/
def cutScheme (text : Text) : Text × Text :=
  match Text.cut ':' text with
  | (c :: scheme, some rest) =>
    if c.isAlpha && scheme.all isSchemeChar then ((c :: scheme).map CodePoint.toLower, rest)
    else ([], text)
  | _ => ([], text)

def endsAuthority (c : CodePoint) : Bool := c = '/' || c = '?' || c = '#'

/-- The authority after two slashes, empty when there are none, and what follows it. -/
def cutAuthority : Text → Text × Text
  | .char '/' :: .char '/' :: rest =>
    (rest.takeWhile (!endsAuthority ·), rest.dropWhile (!endsAuthority ·))
  | rest => ([], rest)

def ofText (text : Text) : Url :=
  let (scheme, rest) := cutScheme text
  let (authority, rest) := cutAuthority rest
  { scheme, authority, path := (Text.cut '?' (Text.cut '#' rest).1).1 }

/-- A host of a future address format: a hexadecimal version between v and a point, then text. -/
def isFutureAddress (host : Text) : Bool :=
  match host with
  | .char 'v' :: rest =>
    match Text.cut '.' rest with
    | (version, some address) =>
      !version.isEmpty && version.all isHexDigit && !address.isEmpty
    | _ => false
  | _ => false

def isBracketedHost (host : Text) : Bool :=
  match host with
  | .char 'v' :: _ => isFutureAddress host
  | _ => isIpv6 host

/-- Brackets come in pairs, around a whole host that needs them. -/
def bracketsFit (authority : Text) : Bool :=
  if .char '[' ∈ authority && .char ']' ∈ authority then
    let place := Text.afterLast '@' authority
    match Text.cut '[' place with
    | (before, some bracketed) =>
      let (host, after) := Text.cut ']' bracketed
      before.isEmpty && ((after.getD []).isEmpty || (after.getD []).head? = some ':') &&
        isBracketedHost host
    | (_, none) => isBracketedHost (Text.cut ':' place).1
  else !(.char '[' ∈ authority || .char ']' ∈ authority)

/-- The characters beyond ASCII whose compatibility form holds a character that delimits
authorities. -/
def delimiterLookalikes : List Nat :=
  [0x2047, 0x2048, 0x2049, 0x2100, 0x2101, 0x2105, 0x2106, 0x2A74, 0xFE13, 0xFE16, 0xFE55, 0xFE56,
    0xFE5F, 0xFE6B, 0xFF03, 0xFF0F, 0xFF1A, 0xFF1F, 0xFF20]

def isPlainAuthority (authority : Text) : Bool :=
  authority.all fun c => !delimiterLookalikes.contains c.toNat

/-- The host and the port text, behind any user information. -/
def hostAndPort (authority : Text) : Text × Text :=
  let place := Text.afterLast '@' authority
  match Text.cut '[' place with
  | (_, some bracketed) =>
    let (host, after) := Text.cut ']' bracketed
    (host, ((Text.cut ':' (after.getD [])).2).getD [])
  | (_, none) =>
    let (host, port) := Text.cut ':' place
    (host, port.getD [])

/-- An absent port is empty. -/
def isPort (port : Text) : Bool :=
  port.all Decimal.isDigit && port.length ≤ Decimal.digitLimit && Decimal.value port ≤ 65535

def isAddressChar (c : CodePoint) : Bool := !(Text.isBlank c || c.toNat < 0x20 || c.toNat = 0x7F)

def isWellFormed (url : Url) : Bool :=
  let (host, port) := hostAndPort url.authority
  bracketsFit url.authority && isPlainAuthority url.authority && isPort port &&
    (url.scheme = "http" || url.scheme = "https") && !host.isEmpty

end Url

/-- A text is a web address when it has no blank or control character and its parts are well
formed. -/
def isWebAddress (text : Text) : Bool :=
  text.all Url.isAddressChar && (Url.ofText text).isWellFormed

end SealedToken
