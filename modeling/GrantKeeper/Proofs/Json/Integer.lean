import GrantKeeper.Proofs.Json.Numeral

/-! Which texts are one integer: decimals without leading zeros, with a minus in front or none, among
blanks. Only minus zero is no integer to a reader. -/
namespace GrantKeeper.Json
open GrantKeeper.Text (Octets digitChar digits)

inductive Integral : Octets → Int → Prop
  | natural (n : Nat) : Integral (digitOctets n) n
  | negated (n : Nat) : Integral (0x2D :: digitOctets n) (-n)

def minusZero : Octets := [0x2D,0x30]

theorem minusZeroIntegral : Integral minusZero 0 := by
  have written := Integral.negated 0
  rwa [zeroOctets] at written

theorem digitOctetsMore {m d : Nat} (positive : 0 < m) (small : d < 10) :
    digitOctets (m * 10 + d) = digitOctets m ++ [UInt8.ofNat (0x30 + d)] := by
  have large : ¬ m * 10 + d < 10 := by omega
  have front : (m * 10 + d) / 10 = m := by omega
  have last : (m * 10 + d) % 10 = d := by omega
  rw [digitOctets,digits,if_neg large,front,last,List.flatMap_append,List.flatMap_singleton,(digitOctet small).1]
  rfl

theorem octetOfDigit {b : UInt8} (digit : isDigit b = true) :
    digitValue b < 10 ∧ b = UInt8.ofNat (0x30 + digitValue b) := by
  simp only [isDigit,Bool.and_eq_true,decide_eq_true_eq] at digit
  have low : 0x30 ≤ b.toNat := UInt8.le_iff_toNat_le.mp digit.1
  have high : b.toNat ≤ 0x39 := UInt8.le_iff_toNat_le.mp digit.2
  have back : 0x30 + digitValue b = b.toNat := by
    unfold digitValue
    omega
  rw [back,UInt8.ofNat_toNat]
  exact ⟨by omega,rfl⟩

theorem accumulatedMore {m k : Nat} {ds : Octets} (positive : 0 < m) (each : ∀ b ∈ ds, isDigit b = true)
    (summed : accumulate m ds = (k,0)) (fits : m ≤ unsignedMax) :
    digitOctets m ++ ds = digitOctets k ∧ k ≤ unsignedMax := by
  induction ds generalizing m with
  | nil =>
    cases summed
    exact ⟨List.append_nil _,fits⟩
  | cons b ds ih =>
    obtain ⟨digit,rest⟩ := List.forall_mem_cons.mp each
    obtain ⟨small,same⟩ := octetOfDigit digit
    rw [accumulate] at summed
    split at summed
    · rename_i fits
      have next := ih (by omega) rest summed fits
      rw [digitOctetsMore positive small,← same,List.append_assoc] at next
      exact next
    · cases summed

theorem accumulatedDigits {k : Nat} {ds : Octets} (each : ∀ b ∈ ds, isDigit b = true) (filled : ds ≠ [])
    (lead : ∀ b more, ds ≠ 0x30 :: b :: more) (summed : accumulate 0 ds = (k,0)) :
    ds = digitOctets k ∧ k ≤ unsignedMax := by
  cases ds with
  | nil => exact absurd rfl filled
  | cons b ds =>
    obtain ⟨digit,rest⟩ := List.forall_mem_cons.mp each
    obtain ⟨small,same⟩ := octetOfDigit digit
    have fits : digitValue b ≤ unsignedMax := by
      unfold unsignedMax
      omega
    rw [accumulate,Nat.zero_mul,Nat.zero_add,if_pos fits] at summed
    rcases Nat.eq_zero_or_pos (digitValue b) with zero | positive
    · -- a zero that leads is the only digit
      rw [zero] at same summed
      cases ds with
      | nil =>
        cases summed
        rw [zeroOctets,same]
        exact ⟨rfl,by decide⟩
      | cons c more => exact absurd (by rw [same]; rfl) (lead c more)
    · have first : digitOctets (digitValue b) = [b] := by
        rw [digitOctets,digits,if_pos small,List.flatMap_singleton,(digitOctet small).1,← same]
      have next := accumulatedMore positive rest summed fits
      rwa [first,List.singleton_append] at next

theorem ofDigitsInteger {negative : Bool} {whole : Octets} {fraction : Option Octets} {power : Option Int}
    {n : Int} (integer : Number.ofDigits? negative whole fraction power = some (.integer n)) :
    fraction = none ∧ power = none ∧ ∃ m, accumulate 0 whole = (m,0) ∧
      if negative then 0 < m ∧ m ≤ 9223372036854775808 ∧ n = -m else n = m := by
  unfold Number.ofDigits? at integer
  generalize accumulate 0 whole = summed at integer
  obtain ⟨m,excess⟩ := summed
  dsimp only at integer
  split at integer
  · refine ⟨rfl,rfl,m,rfl,?_⟩
    cases negative with
    | false =>
      cases integer
      exact rfl
    | true =>
      simp only [if_true] at integer ⊢
      split at integer
      · cases integer
      · rename_i inside
        cases integer
        exact ⟨by omega,by omega,rfl⟩
  · split at integer <;> cases integer

theorem powerNoInteger {negative : Bool} {whole s rest : Octets} {fraction : Option Octets} {n : Int} :
    readPower negative whole fraction s ≠ .ok (some (.integer n),rest) := by
  intro read
  simp only [readPower] at read
  split at read
  · cases read
  · have integer := congrArg Prod.fst (Except.ok.inj read)
    cases (ofDigitsInteger integer).2.1

theorem endInteger {negative : Bool} {whole s rest : Octets} {fraction : Option Octets} {n : Int}
    (read : readEnd negative whole fraction s = .ok (some (.integer n),rest)) :
    Number.ofDigits? negative whole fraction none = some (.integer n) ∧ s = rest := by
  unfold readEnd at read
  split at read
  · exact absurd read powerNoInteger
  · exact absurd read powerNoInteger
  · exact Prod.mk.inj (Except.ok.inj read)

theorem numeralInteger {negative : Bool} {s rest : Octets} {n : Int}
    (read : readNumeral negative s = .ok (some (.integer n),rest)) :
    ∃ m, s = digitOctets m ++ rest ∧ m ≤ unsignedMax ∧
      if negative then 0 < m ∧ m ≤ 9223372036854775808 ∧ n = -m else n = m := by
  have parts := List.takeWhile_append_dropWhile (p := isDigit) (l := s)
  have each : ∀ b ∈ s.takeWhile isDigit, isDigit b = true := List.all_eq_true.mp List.all_takeWhile
  unfold readNumeral at read
  simp only at read
  generalize s.takeWhile isDigit = whole at parts each read
  generalize s.dropWhile isDigit = behind at parts read
  split at read
  · cases read
  · cases read
  · rename_i filled lead
    split at read
    · split at read
      · cases read
      · cases (ofDigitsInteger (endInteger read).1).1
    · obtain ⟨integer,rfl⟩ := endInteger read
      obtain ⟨-,-,m,summed,value⟩ := ofDigitsInteger integer
      obtain ⟨rfl,fits⟩ := accumulatedDigits each filled lead summed
      exact ⟨m,parts.symm,fits,value⟩

theorem lexWordKinds (lexeme : Lexeme) (word s : Octets) :
    (lexWord lexeme word s).1 = lexeme ∨ ∃ fault, (lexWord lexeme word s).1 = .torn fault fault := by
  fun_induction lexWord lexeme word s with
  | case1 => exact .inl rfl
  | case2 => exact .inr ⟨_,rfl⟩
  | case3 word b s ih => exact ih
  | case4 => exact .inr ⟨_,rfl⟩

theorem lexTextKinds (s : Octets) {value : Option Number} : (lexText s).1 ≠ .number value := by
  unfold lexText
  split <;> nofun

theorem lexNumberInteger {negative : Bool} {s rest : Octets} {n : Int}
    (read : lexNumber negative s = (.number (some (.integer n)),rest)) :
    readNumeral negative s = .ok (some (.integer n),rest) := by
  unfold lexNumber at read
  split at read
  · rename_i taken
    cases read
    exact taken
  · cases read

theorem otherwise {α : Type} {p : Prop} [Decidable p] {a b c : α} (first : a ≠ c) (second : b ≠ c) :
    (if p then a else b) ≠ c := by
  split
  · exact first
  · exact second

theorem lexOneOther {b : UInt8} (minus : b ≠ 0x2D) (digit : isDigit b ≠ true) {s rest : Octets}
    {value : Option Number} : lexOne b s ≠ (.number value,rest) := by
  have words : ∀ {lexeme word}, lexeme ≠ .number value → lexWord lexeme word s ≠ (.number value,rest) := by
    intro lexeme word other same
    rcases lexWordKinds lexeme word s with own | ⟨fault,torn⟩
    · exact other (own.symm.trans (congrArg Prod.fst same))
    · cases torn.symm.trans (congrArg Prod.fst same)
  have text : lexText s ≠ (.number value,rest) := fun same => lexTextKinds s (congrArg Prod.fst same)
  unfold lexOne
  rw [if_neg minus,if_neg digit]
  exact otherwise nofun <| otherwise nofun <| otherwise nofun <| otherwise nofun <| otherwise nofun <|
    otherwise nofun <| otherwise text <| otherwise (words nofun) <| otherwise (words nofun) <|
    otherwise (words nofun) nofun

theorem lexOneInteger {b : UInt8} {s rest : Octets} {n : Int}
    (read : lexOne b s = (.number (some (.integer n)),rest)) :
    b = 0x2D ∧ lexNumber true s = (.number (some (.integer n)),rest) ∨
      lexNumber false (b :: s) = (.number (some (.integer n)),rest) := by
  by_cases minus : b = 0x2D
  · subst minus
    exact .inl ⟨rfl,read⟩
  · by_cases digit : isDigit b = true
    · rw [lexOneDigit digit] at read
      exact .inr read
    · exact absurd read (lexOneOther minus digit)

theorem lexNone {octets : Octets} (none : lex octets = []) : ∀ b ∈ octets, isSpace b = true := by
  induction octets with
  | nil => nofun
  | cons b s ih =>
    rw [lex] at none
    split at none
    · rename_i space
      exact List.forall_mem_cons.mpr ⟨space,ih none⟩
    · cases none

theorem lexFirst {octets : Octets} {lexeme : Lexeme} {more : List Lexeme} (read : lex octets = lexeme :: more) :
    ∃ blanks b s, octets = blanks ++ b :: s ∧ (∀ b ∈ blanks, isSpace b = true) ∧
      (lexOne b s).1 = lexeme ∧ lex (lexOne b s).2 = more := by
  induction octets with
  | nil =>
    rw [lex] at read
    cases read
  | cons b s ih =>
    rw [lex] at read
    split at read
    · rename_i space
      obtain ⟨blanks,c,rest,rfl,each,first,last⟩ := ih read
      exact ⟨b :: blanks,c,rest,rfl,List.forall_mem_cons.mpr ⟨space,each⟩,first,last⟩
    · obtain ⟨first,last⟩ := List.cons.inj read
      exact ⟨[],b,s,rfl,List.forall_mem_nil _,first,last⟩

theorem endsBlank {blanks : Octets} (each : ∀ b ∈ blanks, isSpace b = true) : Ends blanks :=
  fun b first => stopsSpace (each b (List.mem_of_mem_head? first))

theorem lexIntegerIff {octets : Octets} {n : Int} : lex octets = [.number (some (.integer n))] ↔
    ∃ front literal back, octets = front ++ (literal ++ back) ∧ (∀ b ∈ front, isSpace b = true) ∧
      (∀ b ∈ back, isSpace b = true) ∧ Integral literal n ∧ literal ≠ minusZero ∧
      -9223372036854775808 ≤ n ∧ n ≤ 18446744073709551615 := by
  constructor
  · intro read
    obtain ⟨front,b,s,rfl,before,first,last⟩ := lexFirst read
    obtain ⟨rest,same⟩ : ∃ rest, lexOne b s = (.number (some (.integer n)),rest) := ⟨_,Prod.ext first rfl⟩
    rw [same] at last
    have behind := lexNone last
    rcases lexOneInteger same with ⟨rfl,negative⟩ | natural
    · obtain ⟨m,rfl,-,value⟩ := numeralInteger (lexNumberInteger negative)
      simp only [if_true] at value
      obtain ⟨positive,fits,rfl⟩ := value
      refine ⟨front,0x2D :: digitOctets m,rest,rfl,before,behind,.negated m,?_,by omega,by omega⟩
      intro zero
      have summed := accumulateDigits (n := m) (by unfold unsignedMax; omega)
      rw [(List.cons.inj zero).2] at summed
      exact absurd (congrArg Prod.fst summed) (Nat.ne_of_lt positive)
    · obtain ⟨m,written,fits,value⟩ := numeralInteger (lexNumberInteger natural)
      simp only [Bool.false_eq_true,if_false] at value
      subst value
      unfold unsignedMax at fits
      refine ⟨front,digitOctets m,rest,by rw [written],before,behind,.natural m,?_,by omega,by omega⟩
      intro zero
      have digit := digitOctetsDigits (n := m) 0x2D (by rw [zero]; exact List.mem_cons_self)
      cases digit
  · rintro ⟨front,literal,back,rfl,before,behind,integral,apart,low,high⟩
    have nothing : lex back = [] := by
      have read := lexBlank behind []
      rw [List.append_nil] at read
      rw [read,lex]
    rw [lexBlank before]
    cases integral with
    | natural m =>
      rw [lexNatural (by unfold unsignedMax; omega) (endsBlank behind),nothing]
    | negated m =>
      have positive : 0 < m := by
        refine Nat.pos_of_ne_zero ?_
        rintro rfl
        exact apart (congrArg (0x2D :: ·) zeroOctets)
      exact (lexNegated positive (by omega) (endsBlank behind)).trans (by rw [nothing])

end GrantKeeper.Json
