import GrantKeeper.Cipher.Gcm

/-! A sealed text is opened by the key that sealed it. -/
namespace GrantKeeper.Cipher
open Text (Octets)
open Gcm

namespace Gcm

theorem blockLength (keys : List Aes.Block) (nonce : Nonce) (i : Nat) :
    (counterBlock keys nonce i).length = 16 := by
  simp [counterBlock]

theorem streamLength (keys : List Aes.Block) (nonce : Nonce) (n : Nat) :
    (keystream keys nonce n).length = n := by
  simp only [keystream,List.length_take,List.length_flatMap,blockLength,List.map_const',
    List.sum_replicate_nat,List.length_range]
  omega

theorem coverLength (keys : List Aes.Block) (nonce : Nonce) (octets : Octets) :
    (cover keys nonce octets).length = octets.length := by
  simp [cover,streamLength]

theorem addedTwice {xs ks : Octets} (same : xs.length = ks.length) :
    List.zipWith (· ^^^ ·) (List.zipWith (· ^^^ ·) xs ks) ks = xs := by
  induction xs generalizing ks with
  | nil => rfl
  | cons x xs ih =>
    cases ks with
    | nil => cases same
    | cons k ks =>
      rw [List.zipWith_cons_cons,List.zipWith_cons_cons,ih (Nat.succ.inj same),UInt8.xor_assoc,
        UInt8.xor_self,UInt8.xor_zero]

theorem coverCover (keys : List Aes.Block) (nonce : Nonce) (octets : Octets) :
    cover keys nonce (cover keys nonce octets) = octets := by
  have twice : cover keys nonce (cover keys nonce octets) =
      List.zipWith (· ^^^ ·) (cover keys nonce octets)
        (keystream keys nonce (cover keys nonce octets).length) := rfl
  rw [coverLength] at twice
  rw [twice]
  exact addedTwice (streamLength keys nonce octets.length).symm

theorem tagLengthOf (keys : List Aes.Block) (nonce : Nonce) (covered : Octets) :
    (tag keys nonce covered).length = tagLength := by
  simp [tag,lengthBigEndian,blockLength,tagLength]

end Gcm

theorem Key.unsealSeal (key : Key) (nonce : Nonce) (plain : Octets) :
    key.unseal (key.seal nonce plain) = .ok plain := by
  generalize stated : Aes.roundKeys key.octets = keys
  have length : nonce.octets.length = nonceLength := nonce.sized
  have box : key.seal nonce plain = nonce.octets ++ (cover keys nonce plain ++
      tag keys nonce (cover keys nonce plain)) := by
    unfold Key.seal
    rw [stated,List.append_assoc]
  have front : (key.seal nonce plain).take nonceLength = nonce.octets := by
    rw [box,← length,List.take_left']
    rfl
  have rest : (key.seal nonce plain).drop nonceLength = cover keys nonce plain ++
      tag keys nonce (cover keys nonce plain) := by
    rw [box,← length,List.drop_left']
    rfl
  have size := tagLengthOf keys nonce (cover keys nonce plain)
  unfold Key.unseal
  have fits : ((key.seal nonce plain).take nonceLength).length = nonceLength := by rw [front,length]
  rw [dif_pos fits]
  simp only [front,rest,stated,List.length_append,size,Nat.add_sub_cancel,List.take_left',List.drop_left',
    if_true,coverCover]
  exact if_neg (by omega)

end GrantKeeper.Cipher
