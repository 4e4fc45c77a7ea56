import GrantKeeper.Text.Utf8

/-! Base64 with the standard alphabet and padding. Decoding accepts only what
encoding writes: whole groups of four, padding in the last one only, and no bits
set that stand for nothing. -/
namespace GrantKeeper.Text.Base64

def symbol (n : Nat) : UInt8 :=
  if n < 26 then UInt8.ofNat (0x41 + n)
  else if n < 52 then UInt8.ofNat (0x61 + (n - 26))
  else if n < 62 then UInt8.ofNat (0x30 + (n - 52))
  else if n = 62 then 0x2B
  else 0x2F

def value? (b : UInt8) : Option Nat :=
  if 0x41 ≤ b ∧ b ≤ 0x5A then some (b.toNat - 0x41)
  else if 0x61 ≤ b ∧ b ≤ 0x7A then some (b.toNat - 0x61 + 26)
  else if 0x30 ≤ b ∧ b ≤ 0x39 then some (b.toNat - 0x30 + 52)
  else if b = 0x2B then some 62
  else if b = 0x2F then some 63
  else none

def pad : UInt8 := 0x3D

def encode : Octets → Octets
  | [] => []
  | [a] => [symbol (a.toNat / 4),symbol (a.toNat % 4 * 16),pad,pad]
  | [a,b] =>
    [symbol (a.toNat / 4),symbol (a.toNat % 4 * 16 + b.toNat / 16),symbol (b.toNat % 16 * 4),pad]
  | a :: b :: c :: rest =>
    symbol (a.toNat / 4) :: symbol (a.toNat % 4 * 16 + b.toNat / 16) ::
      symbol (b.toNat % 16 * 4 + c.toNat / 64) :: symbol (c.toNat % 64) :: encode rest

def oneOctet? (a b : UInt8) : Option Octets := do
  let a ← value? a
  let b ← value? b
  if b % 16 = 0 then some [UInt8.ofNat (a * 4 + b / 16)] else none

def twoOctets? (a b c : UInt8) : Option Octets := do
  let a ← value? a
  let b ← value? b
  let c ← value? c
  if c % 4 = 0 then some [UInt8.ofNat (a * 4 + b / 16),UInt8.ofNat (b % 16 * 16 + c / 4)] else none

def threeOctets? (a b c d : UInt8) : Option Octets := do
  let a ← value? a
  let b ← value? b
  let c ← value? c
  let d ← value? d
  some [UInt8.ofNat (a * 4 + b / 16),UInt8.ofNat (b % 16 * 16 + c / 4),UInt8.ofNat (c % 4 * 64 + d)]

def decode? : Octets → Option Octets
  | [] => some []
  | [a,b,c,d] =>
    if d = pad then if c = pad then oneOctet? a b else twoOctets? a b c
    else threeOctets? a b c d
  | a :: b :: c :: d :: rest => do
    let group ← threeOctets? a b c d
    let others ← decode? rest
    some (group ++ others)
  | _ => none

end GrantKeeper.Text.Base64
