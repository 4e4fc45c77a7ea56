import GrantKeeper.Cipher.BigEndian

/-! The SHA-256 digest of octets. -/
namespace GrantKeeper.Cipher.Sha256
open Text (Octets)

def constants : List UInt32 := [
  0x428A2F98,0x71374491,0xB5C0FBCF,0xE9B5DBA5,0x3956C25B,0x59F111F1,0x923F82A4,0xAB1C5ED5,
  0xD807AA98,0x12835B01,0x243185BE,0x550C7DC3,0x72BE5D74,0x80DEB1FE,0x9BDC06A7,0xC19BF174,
  0xE49B69C1,0xEFBE4786,0x0FC19DC6,0x240CA1CC,0x2DE92C6F,0x4A7484AA,0x5CB0A9DC,0x76F988DA,
  0x983E5152,0xA831C66D,0xB00327C8,0xBF597FC7,0xC6E00BF3,0xD5A79147,0x06CA6351,0x14292967,
  0x27B70A85,0x2E1B2138,0x4D2C6DFC,0x53380D13,0x650A7354,0x766A0ABB,0x81C2C92E,0x92722C85,
  0xA2BFE8A1,0xA81A664B,0xC24B8B70,0xC76C51A3,0xD192E819,0xD6990624,0xF40E3585,0x106AA070,
  0x19A4C116,0x1E376C08,0x2748774C,0x34B0BCB5,0x391C0CB3,0x4ED8AA4A,0x5B9CCA4F,0x682E6FF3,
  0x748F82EE,0x78A5636F,0x84C87814,0x8CC70208,0x90BEFFFA,0xA4506CEB,0xBEF9A3F7,0xC67178F2]

def start : Vector UInt32 8 := #v[
  0x6A09E667,0xBB67AE85,0x3C6EF372,0xA54FF53A,0x510E527F,0x9B05688C,0x1F83D9AB,0x5BE0CD19]

def turn (w : UInt32) (n : UInt32) : UInt32 := (w >>> n) ||| (w <<< (32 - n))

def padding (length : Nat) : Octets :=
  0x80 :: List.replicate ((119 - length % 64) % 64) 0 ++ bigEndian 8 (8 * length)

def wordOf (octets : Octets) : UInt32 := octets.foldl (fun w b => (w <<< 8) ||| b.toUInt32) 0

def wordsOf (octets : Octets) : List UInt32 :=
  (List.range (octets.length / 4)).map fun i => wordOf ((octets.drop (4 * i)).take 4)

def schedule (block : Array UInt32) : Nat → Array UInt32
  | 0 => block
  | n + 1 =>
    let ws := schedule block n
    let i := n + 16
    let late := ws.getD (i - 2) 0
    let early := ws.getD (i - 15) 0
    let s0 := turn early 7 ^^^ turn early 18 ^^^ (early >>> 3)
    let s1 := turn late 17 ^^^ turn late 19 ^^^ (late >>> 10)
    ws.push (ws.getD (i - 16) 0 + s0 + ws.getD (i - 7) 0 + s1)

def round (state : Vector UInt32 8) (input : UInt32 × UInt32) : Vector UInt32 8 :=
  let a := state[0]
  let b := state[1]
  let c := state[2]
  let e := state[4]
  let f := state[5]
  let g := state[6]
  let t1 := state[7] + (turn e 6 ^^^ turn e 11 ^^^ turn e 25) + ((e &&& f) ^^^ (~~~e &&& g)) +
    input.1 + input.2
  let t2 := (turn a 2 ^^^ turn a 13 ^^^ turn a 22) + ((a &&& b) ^^^ (a &&& c) ^^^ (b &&& c))
  #v[t1 + t2,a,b,c,state[3] + t1,e,f,g]

def compress (state : Vector UInt32 8) (block : Octets) : Vector UInt32 8 :=
  let words := (schedule (wordsOf block).toArray 48).toList
  Vector.zipWith (· + ·) state ((constants.zip words).foldl round state)

def digest (octets : Octets) : Octets :=
  let message := octets ++ padding octets.length
  let blocks := (List.range (message.length / 64)).map fun i => (message.drop (64 * i)).take 64
  (blocks.foldl compress start).toList.flatMap fun w => bigEndian 4 w.toNat

end GrantKeeper.Cipher.Sha256
