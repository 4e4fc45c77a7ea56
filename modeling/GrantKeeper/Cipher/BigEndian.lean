import GrantKeeper.Text.Utf8

/-! Numbers as octets, the highest first. -/
namespace GrantKeeper.Cipher
open Text (Octets)

def bigEndian (size n : Nat) : Octets :=
  (List.range size).map fun i => UInt8.ofNat (n >>> (8 * (size - 1 - i)))

def numberOf (octets : Octets) : Nat := octets.foldl (fun n b => n * 256 + b.toNat) 0

theorem lengthBigEndian (size n : Nat) : (bigEndian size n).length = size := by
  simp [bigEndian]

end GrantKeeper.Cipher
