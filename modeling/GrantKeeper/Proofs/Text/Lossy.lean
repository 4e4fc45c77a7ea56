import GrantKeeper.Proofs.Text.Octet

/-! Lossy decoding loses nothing of a text that was encoded: a character has the octets that its
first one announces, so that the next character begins behind them. -/
namespace GrantKeeper.Text

theorem octetBetween (least most : Nat) {n : Nat} (low : least ≤ n) (high : n ≤ most) (small : most < 0x100) :
    UInt8.ofNat least ≤ UInt8.ofNat n ∧ UInt8.ofNat n ≤ UInt8.ofNat most := by
  simp only [UInt8.le_iff_toNat_le,UInt8.toNat_ofNat_of_lt' small,
    UInt8.toNat_ofNat_of_lt' (Nat.lt_of_le_of_lt high small),
    UInt8.toNat_ofNat_of_lt' (Nat.lt_of_le_of_lt (Nat.le_trans low high) small)]
  exact ⟨low,high⟩

theorem octetNumber (m : Nat) {n : Nat} (same : UInt8.ofNat n = UInt8.ofNat m) (small : n < 0x100)
    (octet : m < 0x100) : n = m := by
  have numbers := congrArg UInt8.toNat same
  rwa [UInt8.toNat_ofNat_of_lt' small,UInt8.toNat_ofNat_of_lt' octet] at numbers

theorem tailOctet (n : Nat) : 0x80 ≤ UInt8.ofNat (n % 64 + 128) ∧ UInt8.ofNat (n % 64 + 128) ≤ 0xBF :=
  octetBetween 0x80 0xBF (by omega) (by omega) (by decide)

variable {a b c d : UInt8}

theorem leadingOne (first : a < 0x80) (rest : Octets) : leadingPart (a :: rest) = (1,true) := by
  simp [leadingPart,first]

theorem leadingTwo (first : 0xC2 ≤ a ∧ a ≤ 0xDF) (second : 0x80 ≤ b ∧ b ≤ 0xBF) (rest : Octets) :
    leadingPart (a :: b :: rest) = (2,true) := by
  have high : ¬ a < 0x80 := by
    simp only [UInt8.lt_iff_toNat_lt,UInt8.le_iff_toNat_le,UInt8.reduceToNat] at *
    omega
  simp [leadingPart,high,first,second]

theorem leadingThree (first : 0xE0 ≤ a ∧ a ≤ 0xEF) (second : 0x80 ≤ b ∧ b ≤ 0xBF)
    (third : 0x80 ≤ c ∧ c ≤ 0xBF) (long : a = 0xE0 → 0xA0 ≤ b) (scalar : a = 0xED → b ≤ 0x9F)
    (rest : Octets) : leadingPart (a :: b :: c :: rest) = (3,true) := by
  have high : ¬ a < 0x80 ∧ ¬ a ≤ 0xDF := by
    simp only [UInt8.lt_iff_toNat_lt,UInt8.le_iff_toNat_le,UInt8.reduceToNat] at *
    omega
  by_cases least : a = 0xE0
  · simp [leadingPart,least,long least,second,third]
  · by_cases surrogate : a = 0xED
    · simp [leadingPart,surrogate,scalar surrogate,second,third]
    · have above : 0xE1 ≤ a := by
        simp only [UInt8.le_iff_toNat_le,UInt8.reduceToNat,← UInt8.toNat_inj] at *
        omega
      simp [leadingPart,high,least,surrogate,first,above,second,third]

theorem leadingFour (first : 0xF0 ≤ a ∧ a ≤ 0xF4) (second : 0x80 ≤ b ∧ b ≤ 0xBF)
    (third : 0x80 ≤ c ∧ c ≤ 0xBF) (fourth : 0x80 ≤ d ∧ d ≤ 0xBF) (long : a = 0xF0 → 0x90 ≤ b)
    (scalar : a = 0xF4 → b ≤ 0x8F) (rest : Octets) :
    leadingPart (a :: b :: c :: d :: rest) = (4,true) := by
  have high : ¬ a < 0x80 ∧ ¬ a ≤ 0xDF ∧ ¬ a ≤ 0xEF ∧ a ≠ 0xE0 ∧ a ≠ 0xED := by
    simp only [UInt8.lt_iff_toNat_lt,UInt8.le_iff_toNat_le,UInt8.reduceToNat,ne_eq,← UInt8.toNat_inj] at *
    omega
  by_cases least : a = 0xF0
  · simp [leadingPart,least,long least,second,third,fourth]
  · by_cases most : a = 0xF4
    · simp [leadingPart,most,scalar most,second,third,fourth]
    · have within : 0xF1 ≤ a ∧ a ≤ 0xF3 := by
        simp only [UInt8.le_iff_toNat_le,UInt8.reduceToNat,← UInt8.toNat_inj] at *
        omega
      simp [leadingPart,high,least,most,within,second,third,fourth]

theorem leadingPartOfChar (c : Char) (rest : Octets) :
    leadingPart (String.utf8EncodeChar c ++ rest) = ((String.utf8EncodeChar c).length,true) := by
  have valid := c.valid
  change c.val.toNat < 0xD800 ∨ 0xDFFF < c.val.toNat ∧ c.val.toNat < 0x110000 at valid
  unfold String.utf8EncodeChar
  generalize c.val.toNat = v at valid ⊢
  dsimp only
  split
  · refine leadingOne ?_ rest
    rw [UInt8.lt_iff_toNat_lt,UInt8.toNat_ofNat_of_lt' (by omega : v < 0x100)]
    exact Nat.lt_succ_of_le ‹_›
  · split
    · exact leadingTwo (octetBetween 0xC2 0xDF (by omega) (by omega) (by decide)) (tailOctet _) rest
    · split
      · refine leadingThree (octetBetween 0xE0 0xEF (by omega) (by omega) (by decide)) (tailOctet _)
          (tailOctet _) ?_ ?_ rest
        · intro least
          have lead := octetNumber 0xE0 least (by omega) (by decide)
          exact (octetBetween 0xA0 0xBF (by omega) (by omega) (by decide)).1
        · intro surrogate
          have lead := octetNumber 0xED surrogate (by omega) (by decide)
          exact (octetBetween 0x80 0x9F (by omega) (by omega) (by decide)).2
      · refine leadingFour (octetBetween 0xF0 0xF4 (by omega) (by omega) (by decide)) (tailOctet _)
          (tailOctet _) (tailOctet _) ?_ ?_ rest
        · intro least
          have lead := octetNumber 0xF0 least (by omega) (by decide)
          exact (octetBetween 0x90 0xBF (by omega) (by omega) (by decide)).1
        · intro most
          have lead := octetNumber 0xF4 most (by omega) (by decide)
          exact (octetBetween 0x80 0x8F (by omega) (by omega) (by decide)).2

theorem decodeChar (c : Char) : decode? (String.utf8EncodeChar c) = some (String.singleton c) := by
  have one : encode (String.singleton c) = String.utf8EncodeChar c := by
    rw [encodeChars]
    simp
  rw [← one,decodeEncoded]

theorem decodeLossyChar (c : Char) (rest : Octets) :
    decodeLossy (String.utf8EncodeChar c ++ rest) = String.singleton c ++ decodeLossy rest := by
  have lead := leadingPartOfChar c rest
  have char := decodeChar c
  obtain ⟨a,more,octets⟩ := List.exists_cons_of_ne_nil (String.utf8EncodeChar_ne_nil (c := c))
  rw [octets,List.cons_append] at lead
  rw [octets] at char
  rw [octets,List.cons_append,decodeLossy]
  simp [lead,char]

theorem decodeLossyEncode (s : String) : decodeLossy (encode s) = s := by
  have chars : ∀ cs : List Char, decodeLossy (cs.flatMap String.utf8EncodeChar) = String.ofList cs := by
    intro cs
    induction cs with
    | nil => simp [decodeLossy]
    | cons c cs ih => rw [List.flatMap_cons,decodeLossyChar,ih,String.ofList_cons]
  rw [encodeChars,chars,String.ofList_toList]

end GrantKeeper.Text
