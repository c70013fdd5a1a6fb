import ProcTrace.Idna.Label
import ProcTrace.Url.Address

/-!
# Hosts

What stands between the user and the port of a URL. The hosts of special URLs are domain names in
ASCII or addresses; other URLs have hosts that are not interpreted, apart from IPv6 addresses in
brackets.
-/

namespace ProcTrace.Url

/-- The host of a URL. -/
inductive Host where
  | domain (name : List Char)
  | ipv4 (address : Nat)
  | ipv6 (pieces : List Nat)
  | opaqueName (name : List Char)
  deriving DecidableEq, Repr

/-- The text of a host. -/
def Host.write : Host → List Char
  | .domain name => name
  | .ipv4 n => writeIpv4 n
  | .ipv6 ps => '[' :: writeIpv6 ps ++ [']']
  | .opaqueName name => name

/-- A character of ASCII that no host may hold. -/
def isForbiddenInHost (c : Char) : Bool :=
  ['\x00', '\t', '\n', '\r', ' ', '#', '/', ':', '<', '>', '?', '@', '[', '\\', ']', '^',
    '|'].contains c

/-- A character of ASCII that no domain name may hold. -/
def isForbiddenInDomain (c : Char) : Bool :=
  isForbiddenInHost c || c.toNat < 0x20 || c = '%' || c = '\x7f'

/-- The address between brackets. -/
def bracketed? (cs : List Char) : Option Host :=
  if cs.getLast? = some ']' then (ipv6? cs.dropLast).map .ipv6 else none

/-- The host of a special URL. -/
def Host.parse (cs : List Char) : Option Host :=
  match cs with
  | '[' :: r => bracketed? r
  | _ => do
    let decoded ← Text.Utf8.decode? (percentDecode cs)
    let name ← Idna.toAscii decoded
    if name = [] ∨ name.any isForbiddenInDomain then none
    else if endsInNumber name then (ipv4? name).map .ipv4
    else some (.domain name)

/-- The host of a URL that is not special; it may be empty. -/
def Host.parseOpaque (cs : List Char) : Option Host :=
  match cs with
  | '[' :: r => bracketed? r
  | _ => if cs.any isForbiddenInHost then none else some (.opaqueName (percentEncode isControl cs))

/-- The host names something. -/
def Host.isPresent : Host → Bool
  | .opaqueName name => name ≠ []
  | .domain name => name ≠ []
  | _ => true

end ProcTrace.Url
