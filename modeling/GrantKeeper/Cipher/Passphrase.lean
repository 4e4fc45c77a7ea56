import GrantKeeper.Cipher.Gcm
import GrantKeeper.Cipher.Sha256
import GrantKeeper.Text.Base64
import GrantKeeper.Text.Blank

/-! Keys from text: the key itself in Base64, blanks around it aside, or any
other passphrase, whose digest is then the key. -/
namespace GrantKeeper.Cipher
open Text (Octets)

theorem Sha256.lengthDigest (octets : Octets) : (Sha256.digest octets).length = 32 := by
  simp [Sha256.digest,lengthBigEndian,List.length_flatMap,List.map_const']

example : Sha256.digest (Text.encode "abc") =
    [0xba,0x78,0x16,0xbf,0x8f,0x01,0xcf,0xea,0x41,0x41,0x40,0xde,0x5d,0xae,0x22,0x23,
      0xb0,0x03,0x61,0xa3,0x96,0x17,0x7a,0x9c,0xb4,0x10,0xff,0x61,0xf2,0x00,0x15,0xad] := by
  decide +kernel

namespace Key

def ofOctets? (octets : Octets) : Option Key :=
  if h : octets.length = 32 then some ⟨octets,h⟩ else none

def ofText? (s : String) : Option Key :=
  (Text.Base64.decode? (Text.encode (Text.trim s))).bind ofOctets?

def ofPassphrase (s : String) : Key :=
  (ofText? s).getD ⟨Sha256.digest (Text.encode s),Sha256.lengthDigest _⟩

def text (key : Key) : String := (Text.decode? (Text.Base64.encode key.octets)).getD ""

end Key

end GrantKeeper.Cipher
