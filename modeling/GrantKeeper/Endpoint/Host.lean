import GrantKeeper.Endpoint.Domain
import GrantKeeper.Endpoint.Ipv4
import GrantKeeper.Endpoint.Ipv6
import GrantKeeper.Endpoint.Percent

/-! Hosts. For the schemes of the web a name that ends in a number is an IPv4
address; for all other schemes a host is a name without further meaning. -/
namespace GrantKeeper.Endpoint

inductive Host
  | domain (name : String)
  | ipv4 (address : Nat)
  | ipv6 (pieces : List Nat)
  deriving DecidableEq, Repr

namespace Host

def text : Host → String
  | .domain name => name
  | .ipv4 address => Ipv4.text address
  | .ipv6 pieces => "[" ++ Ipv6.text pieces ++ "]"

def isLoopback : Host → Bool
  | .domain name => name.toLower = "localhost"
  | .ipv4 address => Ipv4.isLoopback address
  | .ipv6 pieces => Ipv6.isLoopback pieces

def readBracketed (cs : List Char) : Except Fault Host :=
  if cs.getLast? = some ']' then (Ipv6.parse cs.dropLast).map .ipv6 else .error .badIpv6

def readWeb (cs : List Char) : Except Fault Host :=
  match cs with
  | '[' :: rest => readBracketed rest
  | cs =>
    match Text.decode? (percentDecode (Text.encode (String.ofList cs))) with
    | none => .error .badDomain
    | some name => do
      let name ← Domain.normalize name.toList
      if Ipv4.endsInNumber name then (Ipv4.parse name).map .ipv4
      else .ok (.domain (String.ofList name))

def isForbidden (c : Char) : Bool :=
  ['\x00','\t','\n','\r',' ','#','/',':','<','>','?','@','[','\\',']','^','|'].contains c

def readPlain (cs : List Char) : Except Fault Host :=
  match cs with
  | '[' :: rest => readBracketed rest
  | cs =>
    if cs.any isForbidden then .error .badDomainCharacter
    else .ok (.domain (String.ofList (percentEncode isControl cs)))

end Host

end GrantKeeper.Endpoint
