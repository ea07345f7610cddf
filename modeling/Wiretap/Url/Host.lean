import Wiretap.Url.Idna
import Wiretap.Url.Ipv4
import Wiretap.Url.Ipv6
import Wiretap.Url.Percent

/-!
# Hosts of addresses

* `Host` is what an address names as its host.
* `Host.parse` reads the host of a special scheme: an IPv6 address in brackets,
  an IPv4 address if the last part is a number, a domain name otherwise.
* `Host.parsePlain` reads the host of any other scheme, which is taken as it stands.
-/

namespace Wiretap

/-- Why a text is no address. -/
inductive UrlFault where
  | emptyHost
  | invalidDomain
  | invalidPort
  | invalidIpv4
  | invalidIpv6
  | invalidHostCharacter
  | relativeWithoutBase
deriving DecidableEq

/-- What is said of a text that is no address. -/
def UrlFault.message : UrlFault → String
  | .emptyHost => "empty host"
  | .invalidDomain => "invalid international domain name"
  | .invalidPort => "invalid port number"
  | .invalidIpv4 => "invalid IPv4 address"
  | .invalidIpv6 => "invalid IPv6 address"
  | .invalidHostCharacter => "invalid domain character"
  | .relativeWithoutBase => "relative URL without a base"

/-- A host. -/
inductive Host where
  /-- A host that is there but empty. -/
  | empty
  /-- A name. -/
  | domain (name : String)
  /-- An IPv4 address. -/
  | ipv4 (address : Nat)
  /-- An IPv6 address. -/
  | ipv6 (address : Ipv6.Address)
deriving DecidableEq

namespace Host

/-- The host as it stands in an address. -/
def text : Host → String
  | .empty => ""
  | .domain name => name
  | .ipv4 address => Ipv4.text address
  | .ipv6 address => "[" ++ Ipv6.text address ++ "]"

/-- The ASCII characters that no domain name holds. -/
def isDenied (c : Char) : Bool :=
  c.toNat ≤ 32 || c.toNat == 127 || "%#/:<>?@[\\]^|".toList.contains c

/-- The characters that no plain host holds. -/
def isDeniedPlain (c : Char) : Bool :=
  c.toNat == 0 || "\t\n\r #/:<>?@[\\]^|".toList.contains c

/-- Reads an IPv6 address between brackets, of which the first has been seen. -/
def parseBracketed (rest : List Char) : Except UrlFault Host :=
  match rest.getLast? with
  | some ']' =>
    match Ipv6.parse? rest.dropLast with
    | some address => .ok (.ipv6 address)
    | none => .error .invalidIpv6
  | _ => .error .invalidIpv6

/-- Reads the host of a special scheme. -/
def parse (chars : List Char) : Except UrlFault Host :=
  match chars with
  | '[' :: rest => parseBracketed rest
  | _ =>
    match Idna.toAscii? isDenied (Percent.decode (Bytes.ofChars chars)) with
    | none => .error .invalidDomain
    | some ascii =>
      if ascii.isEmpty then .error .emptyHost
      else if Ipv4.endsInNumber ascii then
        match Ipv4.parse? ascii with
        | some address => .ok (.ipv4 address)
        | none => .error .invalidIpv4
      else .ok (.domain (String.ofList ascii))

/-- Reads the host of a scheme that is not special. -/
def parsePlain (chars : List Char) : Except UrlFault Host :=
  match chars with
  | [] => .ok .empty
  | '[' :: rest => parseBracketed rest
  | _ =>
    if chars.any isDeniedPlain then .error .invalidHostCharacter
    else .ok (.domain (String.ofList (Percent.encodeChars Percent.control chars)))

end Host
end Wiretap
