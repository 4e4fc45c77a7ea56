import GrantKeeper.Cipher.Gcm

/-! Nonces counted from a start, no two alike before 2^96 of them are used up. -/
namespace GrantKeeper.Cipher

def Nonce.numbered (n : Nat) : Nonce := ⟨bigEndian 12 n,lengthBigEndian 12 n⟩

def Nonce.countFrom (start : Nat) (i : Nat) : Nonce := .numbered (start + i)

end GrantKeeper.Cipher
