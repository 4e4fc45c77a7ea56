import GrantKeeper.Proofs.Cipher.Seal

/-! What a key opens is what it sealed, octet for octet: the nonce in front, the covered text behind
it and the tag over that. -/
namespace GrantKeeper.Cipher
open Text (Octets)
open Gcm
variable {key : Key} {box plain : Octets}

theorem Key.ofUnseal (opened : key.unseal box = .ok plain) : ∃ (nonce : Nonce) (covered : Octets),
    box = nonce.octets ++ covered ++ tag (Aes.roundKeys key.octets) nonce covered ∧
      plain = cover (Aes.roundKeys key.octets) nonce covered := by
  unfold Key.unseal at opened
  split at opened
  · dsimp only at opened
    split at opened
    · cases opened
    · split at opened
      · rename_i agrees
        cases opened
        refine ⟨_,_,?_,rfl⟩
        rw [agrees,List.append_assoc,List.take_append_drop,List.take_append_drop]
      · cases opened
  · cases opened

theorem Key.sealUnsealed (opened : key.unseal box = .ok plain) :
    ∃ nonce : Nonce, nonce.octets = box.take nonceLength ∧ box = key.seal nonce plain := by
  obtain ⟨nonce,covered,rfl,rfl⟩ := Key.ofUnseal opened
  have length : nonce.octets.length = nonceLength := nonce.sized
  refine ⟨nonce,?_,?_⟩
  · rw [List.append_assoc,List.take_left' length]
  · simp only [Key.seal,coverCover]

theorem Key.sealLength (key : Key) (nonce : Nonce) (plain : Octets) :
    (key.seal nonce plain).length = nonceLength + plain.length + tagLength := by
  have length : nonce.octets.length = nonceLength := nonce.sized
  simp only [Key.seal,List.length_append,length,coverLength,tagLengthOf]

theorem Key.unsealShort (short : box.length < nonceLength + tagLength) :
    key.unseal box = .error (if box.length < nonceLength then .missingNonce else .notAuthentic) := by
  have taken : (box.take nonceLength).length = min nonceLength box.length := List.length_take
  unfold Key.unseal
  split
  · rename_i fits
    have enough : ¬ box.length < nonceLength := by omega
    have small : (box.drop nonceLength).length < tagLength := by
      rw [List.length_drop]
      omega
    simp only [if_pos small,if_neg enough]
  · have lacking : box.length < nonceLength := by omega
    rw [if_pos lacking]

structure Key.SealsExactly (key : Key) : Prop where
  framed : ∀ nonce plain, (key.seal nonce plain).length = 12 + plain.length + 16 ∧
    nonce.octets <+: key.seal nonce plain
  opened : ∀ nonce plain, key.unseal (key.seal nonce plain) = .ok plain
  made : ∀ box plain, key.unseal box = .ok plain →
    ∃ nonce : Nonce, nonce.octets = box.take 12 ∧ box = key.seal nonce plain
  short : ∀ box, box.length < 28 →
    key.unseal box = .error (if box.length < 12 then .missingNonce else .notAuthentic)

theorem sealsExactly (key : Key) : key.SealsExactly where
  framed nonce plain := by
    refine ⟨key.sealLength nonce plain,?_⟩
    rw [Key.seal,List.append_assoc]
    exact List.prefix_append _ _
  opened := key.unsealSeal
  made _ _ := Key.sealUnsealed
  short _ := Key.unsealShort

theorem sealedWordOpens :
    let key : Key := ⟨List.replicate 32 0,rfl⟩
    let nonce : Nonce := ⟨List.replicate 12 7,rfl⟩
    let plain : Octets := [0x77,0x6F,0x72,0x64]
    let box := key.seal nonce plain
    key.unseal box = .ok plain ∧ (∃ other : Nonce, other.octets = box.take 12 ∧ box = key.seal other plain) ∧
    (box.take 27).length < 28 ∧ key.unseal (box.take 27) = .error .notAuthentic := by
  intro key nonce plain box
  have exactly := sealsExactly key
  have opened : key.unseal box = .ok plain := exactly.opened nonce plain
  have length : box.length = 12 + 4 + 16 := (exactly.framed nonce plain).1
  have cut : (box.take 27).length = 27 := by
    rw [List.length_take,length]
    rfl
  have short : (box.take 27).length < 28 := by omega
  have refused := exactly.short (box.take 27) short
  rw [if_neg (by omega)] at refused
  exact ⟨opened,exactly.made box plain opened,short,refused⟩

end GrantKeeper.Cipher
