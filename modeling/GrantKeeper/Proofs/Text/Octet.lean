import GrantKeeper.Text.Utf8

/-! The octets of texts, part by part. -/
namespace GrantKeeper.Text

@[simp] theorem encodeAppend (s t : String) : encode (s ++ t) = encode s ++ encode t := by
  simp [encode]

theorem encodeOfList (cs : List Char) :
    encode (String.ofList cs) = cs.flatMap String.utf8EncodeChar := by
  simp [encode,List.utf8Encode]

theorem encodeChars (s : String) : encode s = s.toList.flatMap String.utf8EncodeChar := by
  rw [← encodeOfList,String.ofList_toList]

theorem octetOfAscii {c : Char} (h : c.toNat < 0x80) :
    String.utf8EncodeChar c = [UInt8.ofNat c.toNat] := by
  have low : c.val.toNat ≤ 0x7f := Nat.le_of_lt_succ h
  simp only [String.utf8EncodeChar,low,if_true]
  rfl

theorem highOctet {n : Nat} (low : 0x80 ≤ n) (small : n < 0x100) : (0x80 : UInt8) ≤ UInt8.ofNat n := by
  rw [UInt8.le_iff_toNat_le,UInt8.toNat_ofNat_of_lt' small]
  exact low

theorem octetsOfOther {c : Char} (h : 0x80 ≤ c.toNat) :
    ∀ b ∈ String.utf8EncodeChar c, (0x80 : UInt8) ≤ b := by
  have low : ¬ c.val.toNat ≤ 0x7f := Nat.not_le_of_lt h
  intro b member
  simp only [String.utf8EncodeChar,low,if_false] at member
  split at member
  · simp only [List.mem_cons,List.not_mem_nil,or_false] at member
    rcases member with rfl | rfl <;> exact highOctet (by omega) (by omega)
  · split at member
    · simp only [List.mem_cons,List.not_mem_nil,or_false] at member
      rcases member with rfl | rfl | rfl <;> exact highOctet (by omega) (by omega)
    · simp only [List.mem_cons,List.not_mem_nil,or_false] at member
      rcases member with rfl | rfl | rfl | rfl <;> exact highOctet (by omega) (by omega)

end GrantKeeper.Text
