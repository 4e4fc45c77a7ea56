import GrantKeeper.Json.Lexeme
import GrantKeeper.Proofs.Text.Numeral
import GrantKeeper.Proofs.Text.Octet

/-! A numeral of 64 bits is one lexeme, which carries the number. -/
namespace GrantKeeper.Json
open GrantKeeper.Text (Octets digits digitChar)

def Stops (b : UInt8) : Prop := isDigit b = false ∧ b ≠ 0x2E ∧ b ≠ 0x65 ∧ b ≠ 0x45

def Ends (rest : Octets) : Prop := ∀ b ∈ rest.head?, Stops b

theorem stopsSpace {b : UInt8} (space : isSpace b = true) : Stops b := by
  simp only [isSpace,Bool.or_eq_true,beq_iff_eq] at space
  rcases space with ((rfl | rfl) | rfl) | rfl <;> exact ⟨rfl,by decide,by decide,by decide⟩

theorem lexBlank {blanks : Octets} (each : ∀ b ∈ blanks, isSpace b = true) (rest : Octets) :
    lex (blanks ++ rest) = lex rest := by
  induction blanks with
  | nil => rfl
  | cons b s ih =>
    obtain ⟨space,more⟩ := List.forall_mem_cons.mp each
    rw [List.cons_append,lex,if_pos space]
    exact ih more

def digitOctets (n : Nat) : Octets := (digits n).flatMap String.utf8EncodeChar

theorem digitOctet {d : Nat} (h : d < 10) :
    String.utf8EncodeChar (digitChar d) = [UInt8.ofNat (0x30 + d)] ∧
      isDigit (UInt8.ofNat (0x30 + d)) = true ∧ digitValue (UInt8.ofNat (0x30 + d)) = d := by
  revert d
  decide

theorem digitOctetsDigits {n : Nat} : ∀ b ∈ digitOctets n, isDigit b = true := by
  intro b member
  obtain ⟨c,there,octet⟩ := List.mem_flatMap.mp member
  obtain ⟨d,small,rfl⟩ := Text.digitOfDigits there
  obtain ⟨written,digit,-⟩ := digitOctet small
  rw [written,List.mem_singleton] at octet
  rw [octet]
  exact digit

theorem accumulateAppend {significand m : Nat} {ds : Octets}
    (h : accumulate significand ds = (m,0)) (es : Octets) :
    accumulate significand (ds ++ es) = accumulate m es := by
  induction ds generalizing significand with
  | nil =>
    cases h
    rfl
  | cons d ds ih =>
    simp only [List.cons_append,accumulate] at h ⊢
    split
    · rename_i fits
      rw [if_pos fits] at h
      exact ih h
    · rename_i beyond
      rw [if_neg beyond] at h
      cases h

theorem accumulateDigits {n : Nat} (fits : n ≤ unsignedMax) : accumulate 0 (digitOctets n) = (n,0) := by
  -- One digit more, behind the number `m`.
  have last : ∀ m d, d < 10 → m * 10 + d ≤ unsignedMax →
      accumulate m (String.utf8EncodeChar (digitChar d)) = (m * 10 + d,0) := by
    intro m d small fits
    obtain ⟨written,-,value⟩ := digitOctet small
    simp only [written,accumulate,value,fits,if_true]
  induction n using Text.digits.induct with
  | case1 n small =>
    have step := last 0 n small (by simpa using fits)
    rw [digitOctets,digits,if_pos small]
    simpa using step
  | case2 n large ih =>
    have sum : n / 10 * 10 + n % 10 = n := by omega
    have front := ih (by omega)
    have step := last (n / 10) (n % 10) (Nat.mod_lt _ (by decide)) (by rwa [sum])
    rw [sum] at step
    rw [digitOctets,digits,if_neg large,List.flatMap_append]
    exact (accumulateAppend front _).trans (by simpa using step)

theorem digitsLead {n : Nat} (positive : 0 < n) : ∃ d cs, 0 < d ∧ d < 10 ∧ digits n = digitChar d :: cs := by
  induction n using Text.digits.induct with
  | case1 n small => exact ⟨n,[],positive,small,by rw [digits,if_pos small]⟩
  | case2 n large ih =>
    obtain ⟨d,cs,low,high,same⟩ := ih (by omega)
    exact ⟨d,cs ++ [digitChar (n % 10)],low,high,by rw [digits,if_neg large,same]; rfl⟩

theorem zeroOctets : digitOctets 0 = [0x30] := by
  rw [digitOctets,digits]
  rfl

theorem digitOctetsLead (n : Nat) : digitOctets n ≠ [] ∧
    ∀ b more, digitOctets n ≠ 0x30 :: b :: more := by
  rcases Nat.eq_zero_or_pos n with rfl | positive
  · rw [zeroOctets]
    exact ⟨by simp,by simp⟩
  · obtain ⟨d,cs,low,high,same⟩ := digitsLead positive
    obtain ⟨written,-,value⟩ := digitOctet high
    rw [digitOctets,same,List.flatMap_cons,written]
    refine ⟨by simp,?_⟩
    intro b more equal
    have first := (List.cons.inj equal).1
    rw [first] at value
    have zero : digitValue 0x30 = 0 := by decide
    omega

theorem digitsTake {ds rest : Octets} (each : ∀ b ∈ ds, isDigit b = true)
    (ends : ∀ b ∈ rest.head?, isDigit b = false) :
    (ds ++ rest).takeWhile isDigit = ds ∧ (ds ++ rest).dropWhile isDigit = rest := by
  rw [List.takeWhile_append_of_pos each,List.dropWhile_append_of_pos each]
  cases rest with
  | nil => simp
  | cons b rest => simp [ends b rfl]

structure Leading (whole : Octets) : Prop where
  digits : ∀ b ∈ whole, isDigit b = true
  filled : whole ≠ []
  lead : ∀ b more, whole ≠ 0x30 :: b :: more

theorem digitOctetsLeading (n : Nat) : Leading (digitOctets n) := by
  obtain ⟨filled,lead⟩ := digitOctetsLead n
  exact ⟨digitOctetsDigits,filled,lead⟩

variable {whole behind rest : Octets}

theorem readWhole (negative : Bool) (leading : Leading whole)
    (ends : ∀ b ∈ behind.head?, isDigit b = false ∧ b ≠ 0x2E) :
    readNumeral negative (whole ++ behind) = readEnd negative whole none behind := by
  obtain ⟨digits,filled,lead⟩ := leading
  obtain ⟨taken,left⟩ := digitsTake digits fun b first => (ends b first).1
  unfold readNumeral
  -- The digits are neither none nor led by a zero, so the first two branches fall away.
  simp only [taken,left]
  split
  · exact absurd rfl (ends 0x2E rfl).2
  · rfl

theorem readPlaces (negative : Bool) (leading : Leading whole) {places : Octets}
    (within : ∀ b ∈ places, isDigit b = true) (some : places ≠ [])
    (ends : ∀ b ∈ behind.head?, isDigit b = false) :
    readNumeral negative (whole ++ 0x2E :: (places ++ behind)) = readEnd negative whole (.some places) behind := by
  obtain ⟨digits,filled,lead⟩ := leading
  have point : ∀ b ∈ (0x2E :: (places ++ behind)).head?, isDigit b = false := by
    intro b first
    cases Option.some.inj first
    rfl
  obtain ⟨taken,left⟩ := digitsTake digits point
  obtain ⟨inner,outer⟩ := digitsTake within ends
  unfold readNumeral
  simp only [taken,left,inner,outer]
  rw [if_neg (by simpa using some)]

theorem readNothing (negative : Bool) (whole : Octets) (places : Option Octets) (ends : Ends rest) :
    readEnd negative whole places rest = .ok (Number.ofDigits? negative whole places none,rest) := by
  unfold readEnd
  split
  · exact absurd rfl (ends 0x65 rfl).2.2.1
  · exact absurd rfl (ends 0x45 rfl).2.2.2
  · rfl

theorem readNumeralOf (negative : Bool) (n : Nat) (ends : Ends rest) :
    readNumeral negative (digitOctets n ++ rest) =
      .ok (Number.ofDigits? negative (digitOctets n) none none,rest) := by
  rw [readWhole negative (digitOctetsLeading n) fun b first => ⟨(ends b first).1,(ends b first).2.1⟩]
  exact readNothing negative _ none ends

theorem digitApart {b c : UInt8} (digit : isDigit b = true) (other : isDigit c = false) : b ≠ c := by
  rintro rfl
  rw [digit] at other
  cases other

theorem spaceOfDigit {b : UInt8} (digit : isDigit b = true) : isSpace b = false := by
  simp [isSpace,digitApart digit (c := 0x20) rfl,digitApart digit (c := 0x0A) rfl,
    digitApart digit (c := 0x09) rfl,digitApart digit (c := 0x0D) rfl]

theorem lexOneDigit {b : UInt8} (digit : isDigit b = true) (s : Octets) :
    lexOne b s = lexNumber false (b :: s) := by
  have apart := fun c => digitApart (b := b) (c := c) digit
  unfold lexOne
  rw [if_neg (apart 0x7B rfl),if_neg (apart 0x7D rfl),if_neg (apart 0x5B rfl),if_neg (apart 0x5D rfl),
    if_neg (apart 0x2C rfl),if_neg (apart 0x3A rfl),if_neg (apart 0x22 rfl),if_neg (apart 0x6E rfl),
    if_neg (apart 0x74 rfl),if_neg (apart 0x66 rfl),if_neg (apart 0x2D rfl),if_pos digit]

theorem lexNatural {n : Nat} (fits : n ≤ unsignedMax) {rest : Octets} (ends : Ends rest) :
    lex (digitOctets n ++ rest) = .number (some (.integer n)) :: lex rest := by
  have read : lexNumber false (digitOctets n ++ rest) = (.number (some (.integer n)),rest) := by
    unfold lexNumber
    simp only [readNumeralOf false _ ends,Number.ofDigits?,accumulateDigits fits]
    rfl
  obtain ⟨b,more,same⟩ := List.exists_cons_of_ne_nil (digitOctetsLead n).1
  have digit : isDigit b = true := digitOctetsDigits b (by rw [same]; exact List.mem_cons_self)
  rw [same,List.cons_append] at read ⊢
  rw [lex,spaceOfDigit digit,lexOneDigit digit,read]
  rfl

theorem lexNegated {n : Nat} (positive : 0 < n) (fits : n ≤ 9223372036854775808) {rest : Octets}
    (ends : Ends rest) :
    lex (0x2D :: (digitOctets n ++ rest)) = .number (some (.integer (-n))) :: lex rest := by
  have summed := accumulateDigits (n := n) (by unfold unsignedMax; omega)
  have read : lexNumber true (digitOctets n ++ rest) = (.number (some (.integer (-n))),rest) := by
    have inside : ¬ (n = 0 ∨ 9223372036854775808 < n) := by omega
    unfold lexNumber
    simp only [readNumeralOf true _ ends,Number.ofDigits?,summed,if_true,if_neg inside]
  rw [lex]
  change lexOne 0x2D _ = _ at read
  rw [read]
  rfl

theorem lexInteger {n : Int} (fits : Text.inWord n = true) {rest : Octets} (ends : Ends rest) :
    lex (Text.encode (Text.ofInt n) ++ rest) = .number (some (.integer n)) :: lex rest := by
  have fits := Text.inWordBounds fits
  rw [Text.encodeChars,Text.toListOfInt]
  by_cases negative : n < 0
  · have value : -(n.natAbs : Int) = n := by omega
    have read := lexNegated (n := n.natAbs) (by omega) (by omega) ends
    rw [value] at read
    rw [if_pos negative]
    exact read
  · have value : (n.natAbs : Int) = n := by omega
    have read := lexNatural (n := n.natAbs) (by unfold unsignedMax; omega) ends
    rw [value] at read
    rw [if_neg negative]
    exact read

end GrantKeeper.Json
