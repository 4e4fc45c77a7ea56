import GrantKeeper.Text.Inspect
import GrantKeeper.Text.Utf8

/-! Orders for an exchange and the form that carries one. -/
namespace GrantKeeper.Exchange
open Text (Octets)

structure Order where
  clientId : String
  clientSecret : String
  refresh : String
  deriving DecidableEq, Repr

namespace Order

def inspect (o : Order) : String :=
  Text.inspectRecord "RefreshRequest" [
    ("client_id",Text.inspect o.clientId),
    ("client_secret",Text.inspect (Text.redact o.clientSecret)),
    ("refresh_token",Text.inspect (Text.redact o.refresh))] false

def parameters (o : Order) : List (String × String) :=
  [("grant_type","refresh_token"),("client_id",o.clientId)] ++
    (if o.clientSecret.isEmpty then [] else [("client_secret",o.clientSecret)]) ++
    [("refresh_token",o.refresh)]

end Order

namespace Form

def isPlain (b : UInt8) : Bool :=
  (0x30 ≤ b && b ≤ 0x39) || (0x41 ≤ b && b ≤ 0x5A) || (0x61 ≤ b && b ≤ 0x7A) ||
    b == 0x2A || b == 0x2D || b == 0x2E || b == 0x5F

def upperHex (n : UInt8) : UInt8 := if n < 10 then 0x30 + n else 0x41 + (n - 10)

def encodeOctet (b : UInt8) : Octets :=
  if isPlain b then [b]
  else if b == 0x20 then [0x2B]
  else [0x25,upperHex (b / 16),upperHex (b % 16)]

def encodeText (s : String) : Octets := (Text.encode s).flatMap encodeOctet

def encodePair (pair : String × String) : Octets :=
  encodeText pair.1 ++ 0x3D :: encodeText pair.2

def encode : List (String × String) → Octets
  | [] => []
  | [pair] => encodePair pair
  | pair :: pairs => encodePair pair ++ 0x26 :: encode pairs

end Form

def Order.body (o : Order) : Octets := Form.encode o.parameters

end GrantKeeper.Exchange
