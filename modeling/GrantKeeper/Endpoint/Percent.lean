import GrantKeeper.Text.Decimal
import GrantKeeper.Text.Utf8

/-! Percent-encoding of the parts of an address. Each part has a set of ASCII
characters that are encoded in it; all other characters are encoded if they are
not ASCII. Percent signs themselves stay. -/
namespace GrantKeeper.Endpoint
open Text (Octets)

def isControl (c : Char) : Bool := c.toNat < 0x20 || c.toNat = 0x7F

def inFragmentSet (c : Char) : Bool := isControl c || [' ','"','<','>','\x60'].contains c

def inPathSet (c : Char) : Bool := inFragmentSet c || ['#','?','\x7b','\x7d'].contains c

def inUserSet (c : Char) : Bool :=
  inPathSet c || ['/',':',';','=','@','[','\\',']','^','|'].contains c

def inQuerySet (c : Char) : Bool := isControl c || [' ','"','#','<','>'].contains c

def inSpecialQuerySet (c : Char) : Bool := inQuerySet c || c = '\''

def upperHexDigit (n : Nat) : Char :=
  if n < 10 then Char.ofNat (0x30 + n) else Char.ofNat (0x41 + (n - 10))

def percentOctet (b : UInt8) : List Char :=
  ['%',upperHexDigit (b.toNat / 16),upperHexDigit (b.toNat % 16)]

def encodeChar (inSet : Char → Bool) (c : Char) : List Char :=
  if c.toNat < 0x80 && !inSet c then [c]
  else (String.utf8EncodeChar c).flatMap percentOctet

def percentEncode (inSet : Char → Bool) (cs : List Char) : List Char := cs.flatMap (encodeChar inSet)

def percentDecode : Octets → Octets
  | 0x25 :: a :: b :: rest =>
    match Text.hexValue? a, Text.hexValue? b with
    | some high, some low => UInt8.ofNat (high * 16 + low) :: percentDecode rest
    | _, _ => 0x25 :: percentDecode (a :: b :: rest)
  | b :: rest => b :: percentDecode rest
  | [] => []

end GrantKeeper.Endpoint
