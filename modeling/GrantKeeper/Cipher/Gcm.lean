import GrantKeeper.Cipher.Aes
import GrantKeeper.Cipher.BigEndian

/-! Sealing of octets with AES-256 in Galois/counter mode, without associated
data. A sealed text is the nonce, the covered octets and a tag over them. -/
namespace GrantKeeper.Cipher
open Text (Octets)

structure Key where
  octets : Octets
  sized : octets.length = 32
  deriving DecidableEq, Repr

structure Nonce where
  octets : Octets
  sized : octets.length = 12
  deriving DecidableEq, Repr

inductive Fault
  | missingNonce
  | notAuthentic
  deriving DecidableEq, Repr

def Fault.message : Fault → String
  | .missingNonce => "ciphertext too short: missing nonce"
  | .notAuthentic => "decryption failed: aead::Error"

namespace Gcm

def nonceLength : Nat := 12
def tagLength : Nat := 16

def multiplyFrom (x : Nat) : Nat → Nat → Nat → Nat
  | 0, z, _ => z
  | bits + 1, z, v =>
    multiplyFrom x bits (if x.testBit bits then z ^^^ v else z)
      (if v % 2 = 1 then (v >>> 1) ^^^ (0xE1 <<< 120) else v >>> 1)

def multiply (x y : Nat) : Nat := multiplyFrom x 128 0 y

def blocks (octets : Octets) : List Octets :=
  (List.range ((octets.length + 15) / 16)).map fun i =>
    let block := (octets.drop (16 * i)).take 16
    block ++ List.replicate (16 - block.length) 0

def hash (h : Nat) (octets : Octets) : Nat :=
  let lengths := 8 * octets.length
  let sum := (blocks octets).foldl (fun y block => multiply (y ^^^ numberOf block) h) 0
  multiply (sum ^^^ lengths) h

def counterBlock (keys : List Aes.Block) (nonce : Nonce) (i : Nat) : Octets :=
  (Aes.encrypt keys (Aes.blockOf (nonce.octets ++ bigEndian 4 i))).toList

def keystream (keys : List Aes.Block) (nonce : Nonce) (length : Nat) : Octets :=
  ((List.range ((length + 15) / 16)).flatMap fun i => counterBlock keys nonce (i + 2)).take length

def cover (keys : List Aes.Block) (nonce : Nonce) (octets : Octets) : Octets :=
  List.zipWith (· ^^^ ·) octets (keystream keys nonce octets.length)

def tag (keys : List Aes.Block) (nonce : Nonce) (covered : Octets) : Octets :=
  let h := numberOf (Aes.encrypt keys (Vector.replicate 16 0)).toList
  List.zipWith (· ^^^ ·) (bigEndian 16 (hash h covered)) (counterBlock keys nonce 1)

end Gcm

open Gcm

def Key.seal (key : Key) (nonce : Nonce) (plain : Octets) : Octets :=
  let keys := Aes.roundKeys key.octets
  let covered := cover keys nonce plain
  nonce.octets ++ covered ++ tag keys nonce covered

def Key.unseal (key : Key) (box : Octets) : Except Fault Octets :=
  if h : (box.take nonceLength).length = nonceLength then
    let nonce : Nonce := ⟨box.take nonceLength,h⟩
    let rest := box.drop nonceLength
    if rest.length < tagLength then .error .notAuthentic
    else
      let keys := Aes.roundKeys key.octets
      let covered := rest.take (rest.length - tagLength)
      if tag keys nonce covered = rest.drop (rest.length - tagLength) then
        .ok (cover keys nonce covered)
      else .error .notAuthentic
  else .error .missingNonce

end GrantKeeper.Cipher
