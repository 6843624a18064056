import ToolPack.Url.Idna
import ToolPack.Url.Ipv4
import ToolPack.Url.Ipv6
import ToolPack.Url.Percent

/-!
# Hosts of addresses

What stands between the slashes and the port.  The hosts of browser addresses are domain names or
numbers; those of other schemes are kept as they are, and only a few characters are refused.
-/

set_option autoImplicit false

namespace ToolPack
namespace Url

/-- Why a text is no address. -/
inductive Fault where
  | noScheme
  | emptyHost
  | invalidPort
  | invalidIpv4
  | invalidIpv6
  | forbiddenHostCharacter
  | invalidDomainName
  deriving DecidableEq, Repr

/-- The wording of a fault. -/
def Fault.message : Fault → String
  | noScheme => "relative URL without a base"
  | emptyHost => "empty host"
  | invalidPort => "invalid port number"
  | invalidIpv4 => "invalid IPv4 address"
  | invalidIpv6 => "invalid IPv6 address"
  | forbiddenHostCharacter => "invalid domain character"
  | invalidDomainName => "invalid international domain name"

/-- A host: an address in numbers or a name. -/
inductive Host where
  | ipv6
  | ipv4
  | name (chars : List Char)
  deriving DecidableEq, Repr

/-- An address in brackets. -/
def bracketHost (cs : List Char) : Except Fault Host :=
  if cs.getLast? = some ']' ∧ Ipv6.isAddress cs.tail.dropLast then .ok .ipv6
  else .error .invalidIpv6

/-- The host of a browser address: its percent-encoded bytes are a domain name in any script,
which must not come out empty, and is an address if it ends in a number. -/
def domainHost (cs : List Char) : Except Fault Host :=
  if cs.head? = some '[' then bracketHost cs
  else match (percentDecode? cs).bind Idna.toAscii? with
    | none => .error .invalidDomainName
    | some [] => .error .emptyHost
    | some name =>
      if Ipv4.endsInNumber name then
        if Ipv4.isAddress name then .ok .ipv4 else .error .invalidIpv4
      else .ok (.name name)

/-- The characters that end or escape a part of any address. -/
def isForbiddenAnywhere (c : Char) : Bool :=
  ['\x00', '\t', '\n', '\r', ' ', '#', '/', ':', '<', '>', '?', '@', '[', '\\', ']', '^',
   '|'].contains c

/-- The host of another scheme. -/
def opaqueHost (cs : List Char) : Except Fault Host :=
  if cs.head? = some '[' then bracketHost cs
  else if cs.any isForbiddenAnywhere then .error .forbiddenHostCharacter
  else .ok (.name cs)

end Url
end ToolPack
