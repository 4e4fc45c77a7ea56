import GrantKeeper.Text.Blank
import GrantKeeper.Text.Decimal

/-! Numerals are read back as the numbers they were written for. A word is read from any run of digits
with a sign or none, and from nothing else. -/
namespace GrantKeeper.Text

theorem keptOfNone {α : Type} {p : α → Bool} (xs : List α) (none : ∀ x ∈ xs, p x = false) :
    xs.dropWhile p = xs := by
  cases xs with
  | nil => rfl
  | cons x xs => simp [none x (by simp)]

theorem stripOfNone {α : Type} {p : α → Bool} {xs : List α} (none : ∀ x ∈ xs, p x = false) :
    strip p xs = xs := by
  unfold strip
  rw [keptOfNone xs none,keptOfNone xs.reverse (by simpa using none),List.reverse_reverse]

theorem stripWithin {α : Type} {p : α → Bool} {front back : List α} (before : ∀ x ∈ front, p x = true)
    (behind : ∀ x ∈ back, p x = true) (xs : List α) : strip p (front ++ (xs ++ back)) = strip p xs := by
  have last : ∀ ys : List α, (ys ++ back).reverse.dropWhile p = ys.reverse.dropWhile p := by
    intro ys
    rw [List.reverse_append]
    exact List.dropWhile_append_of_pos (by simpa using behind)
  unfold strip
  rw [List.dropWhile_append_of_pos before,List.dropWhile_append]
  split
  · rename_i nothing
    have all : (back ++ []).dropWhile p = [] := List.dropWhile_append_of_pos behind
    rw [List.append_nil] at all
    rw [all,List.isEmpty_iff.mp nothing]
  · rw [last]

theorem stripOfEnds {α : Type} {p : α → Bool} {front xs back : List α} (before : ∀ x ∈ front, p x = true)
    (inside : ∀ x ∈ xs, p x = false) (behind : ∀ x ∈ back, p x = true) :
    strip p (front ++ (xs ++ back)) = xs := (stripWithin before behind xs).trans (stripOfNone inside)

theorem stripParts {α : Type} (p : α → Bool) (xs : List α) : ∃ front back,
    xs = front ++ (strip p xs ++ back) ∧ (∀ x ∈ front, p x = true) ∧ ∀ x ∈ back, p x = true := by
  have first := List.takeWhile_append_dropWhile (p := p) (l := xs)
  have last := List.takeWhile_append_dropWhile (p := p) (l := (xs.dropWhile p).reverse)
  refine ⟨xs.takeWhile p,((xs.dropWhile p).reverse.takeWhile p).reverse,?_,?_,?_⟩
  · unfold strip
    rw [← List.reverse_append,last,List.reverse_reverse,first]
  · exact List.all_eq_true.mp List.all_takeWhile
  · exact fun x member => List.all_eq_true.mp List.all_takeWhile x (List.mem_reverse.mp member)

theorem digitsNonempty (n : Nat) : digits n ≠ [] := by
  unfold digits
  split <;> simp

theorem digitOfDigits {n : Nat} {c : Char} (h : c ∈ digits n) : ∃ d, d < 10 ∧ c = digitChar d := by
  induction n using digits.induct with
  | case1 n small =>
    rw [digits,if_pos small] at h
    exact ⟨n,small,by simpa using h⟩
  | case2 n large ih =>
    rw [digits,if_neg large,List.mem_append] at h
    rcases h with front | last
    · exact ih front
    · exact ⟨n % 10,Nat.mod_lt _ (by decide),by simpa using last⟩

theorem digitOfNat {n : Nat} {c : Char} (h : c ∈ (ofNat n).toList) : ∃ d, d < 10 ∧ c = digitChar d := by
  rw [ofNat,String.toList_ofList] at h
  exact digitOfDigits h

theorem digitRead {d : Nat} (h : d < 10) : digit? (digitChar d) = some d := by
  revert d
  decide

theorem digitsLack {c : Char} (other : digit? c = none) (n : Nat) : c ∉ digits n := by
  intro member
  obtain ⟨d,small,rfl⟩ := digitOfDigits member
  rw [digitRead small] at other
  cases other

theorem digitPlain {d : Nat} (h : d < 10) :
    digitChar d ≠ '+' ∧ digitChar d ≠ '-' ∧ isBlank (digitChar d) = false := by
  revert d
  decide

theorem absorbAppend (negative : Bool) (acc : Int) (cs ds : List Char) :
    absorbDigits negative acc (cs ++ ds) =
      (absorbDigits negative acc cs).bind fun next => absorbDigits negative next ds := by
  induction cs generalizing acc with
  | nil => rfl
  | cons c cs ih =>
    simp only [List.cons_append,absorbDigits]
    cases digit? c with
    | none => rfl
    | some d =>
      simp only
      generalize (if negative then acc * 10 - (d : Int) else acc * 10 + d) = next
      cases inWord next with
      | false => rfl
      | true => exact ih next

theorem inWordBounds {n : Int} (h : inWord n = true) :
    -9223372036854775808 ≤ n ∧ n ≤ 9223372036854775807 := by
  simp only [inWord,Bool.and_eq_true,decide_eq_true_eq] at h
  exact h

def signed (negative : Bool) (n : Nat) : Int := if negative then -n else n

inductive Numeral : List Char → Nat → Prop
  | one {d} (small : d < 10) : Numeral [digitChar d] d
  | more {cs m d} (front : Numeral cs m) (small : d < 10) : Numeral (cs ++ [digitChar d]) (m * 10 + d)

inductive SignedNumeral : List Char → Int → Prop
  | bare {cs m} (digits : Numeral cs m) : SignedNumeral cs m
  | plus {cs m} (digits : Numeral cs m) : SignedNumeral ('+' :: cs) m
  | minus {cs m} (digits : Numeral cs m) : SignedNumeral ('-' :: cs) (-m)

theorem numeralDigits (n : Nat) : Numeral (digits n) n := by
  induction n using digits.induct with
  | case1 n small =>
    rw [digits,if_pos small]
    exact .one small
  | case2 n large ih =>
    have split : n / 10 * 10 + n % 10 = n := by omega
    have next := Numeral.more ih (Nat.mod_lt n (by decide))
    rw [digits,if_neg large]
    rwa [split] at next

theorem numeralHead {cs : List Char} {m : Nat} (numeral : Numeral cs m) :
    ∃ d ds, d < 10 ∧ cs = digitChar d :: ds := by
  induction numeral with
  | @one d small => exact ⟨d,[],small,rfl⟩
  | @more cs m e front last ih =>
    obtain ⟨d,ds,small,rfl⟩ := ih
    exact ⟨d,ds ++ [digitChar e],small,rfl⟩

theorem numeralUnique {cs : List Char} {m k : Nat} (first : Numeral cs m) (second : Numeral cs k) : m = k := by
  have digitSame : ∀ {d e}, d < 10 → e < 10 → digitChar d = digitChar e → d = e := by
    intro d e small less same
    have read := digitRead small
    rw [same,digitRead less] at read
    exact (Option.some.inj read).symm
  induction first generalizing k with
  | @one d small =>
    generalize written : [digitChar d] = cs at second
    cases second with
    | one less => exact digitSame small less (List.cons.inj written).1
    | @more cs m e front less =>
      obtain ⟨x,xs,-,rfl⟩ := numeralHead front
      have length := congrArg List.length written
      simp at length
  | @more cs m d front small ih =>
    generalize written : cs ++ [digitChar d] = ds at second
    cases second with
    | one less =>
      obtain ⟨x,xs,-,rfl⟩ := numeralHead front
      have length := congrArg List.length written
      simp at length
    | @more ds k e other less =>
      obtain ⟨rfl,last⟩ := List.append_inj' written rfl
      rw [ih other,digitSame small less (List.cons.inj last).1]

theorem signedUnique {cs : List Char} {n k : Int} (first : SignedNumeral cs n) (second : SignedNumeral cs k) :
    n = k := by
  have unsigned : ∀ {c : Char} {cs : List Char} {m : Nat}, Numeral (c :: cs) m → c ≠ '+' ∧ c ≠ '-' := by
    intro c cs m digits
    obtain ⟨d,ds,small,same⟩ := numeralHead digits
    obtain ⟨plus,minus,-⟩ := digitPlain small
    rw [(List.cons.inj same).1]
    exact ⟨plus,minus⟩
  cases first with
  | bare digits =>
    cases second with
    | bare others => rw [numeralUnique digits others]
    | plus => exact absurd rfl (unsigned digits).1
    | minus => exact absurd rfl (unsigned digits).2
  | plus digits =>
    cases second with
    | bare others => exact absurd rfl (unsigned others).1
    | plus others => rw [numeralUnique digits others]
  | minus digits =>
    cases second with
    | bare others => exact absurd rfl (unsigned others).2
    | minus others => rw [numeralUnique digits others]

theorem numeralPlain {cs : List Char} {m : Nat} (numeral : Numeral cs m) : ∀ c ∈ cs, isBlank c = false := by
  induction numeral with
  | one small =>
    intro c member
    rw [List.mem_singleton.mp member]
    exact (digitPlain small).2.2
  | more front small ih =>
    intro c member
    rcases List.mem_append.mp member with early | last
    · exact ih c early
    · rw [List.mem_singleton.mp last]
      exact (digitPlain small).2.2

theorem signedPlain {cs : List Char} {n : Int} (numeral : SignedNumeral cs n) :
    ∀ c ∈ cs, isBlank c = false := by
  cases numeral with
  | bare digits => exact numeralPlain digits
  | plus digits => exact List.forall_mem_cons.mpr ⟨by decide,numeralPlain digits⟩
  | minus digits => exact List.forall_mem_cons.mpr ⟨by decide,numeralPlain digits⟩

theorem digitOf {c : Char} {d : Nat} (digit : digit? c = some d) : d < 10 ∧ c = digitChar d := by
  unfold digit? at digit
  split at digit
  · rename_i range
    have low : 48 ≤ c.toNat := range.1
    have high : c.toNat ≤ 57 := range.2
    have value : c.toNat - 48 = d := Option.some.inj digit
    refine ⟨by omega,?_⟩
    have back : 48 + d = c.toNat := by omega
    change c = Char.ofNat (48 + d)
    rw [back,Char.ofNat_toNat]
  · cases digit

theorem absorbDigit (negative : Bool) (m : Nat) {d : Nat} (small : d < 10) :
    absorbDigits negative (signed negative m) [digitChar d] =
      if inWord (signed negative (m * 10 + d)) then .ok (signed negative (m * 10 + d))
      else .error (if negative then .tooSmall else .tooLarge) := by
  have sum : (if negative then signed negative m * 10 - d else signed negative m * 10 + d) =
      signed negative (m * 10 + d) := by
    cases negative with
    | true =>
      simp [signed]
      omega
    | false => simp [signed]
  simp only [absorbDigits,digitRead small,sum]

theorem absorbNumeral (negative : Bool) {cs : List Char} {m : Nat} (numeral : Numeral cs m)
    (fits : inWord (signed negative m) = true) : absorbDigits negative 0 cs = .ok (signed negative m) := by
  have zero : signed negative 0 = 0 := by cases negative <;> rfl
  induction numeral with
  | @one d small =>
    have step := absorbDigit negative 0 small
    rw [zero,Nat.zero_mul,Nat.zero_add,if_pos fits] at step
    exact step
  | @more cs m d front small ih =>
    have before : inWord (signed negative m) = true := by
      cases negative <;> simp [inWord,wordMin,wordMax,signed] at fits ⊢ <;> omega
    rw [absorbAppend,ih before]
    exact (absorbDigit negative m small).trans (if_pos fits)

theorem absorbedDigit {negative : Bool} {m : Nat} {c : Char} {ds : List Char} {n : Int}
    (absorbed : absorbDigits negative (signed negative m) (c :: ds) = .ok n) :
    ∃ d, d < 10 ∧ c = digitChar d ∧ inWord (signed negative (m * 10 + d)) = true ∧
      absorbDigits negative (signed negative (m * 10 + d)) ds = .ok n := by
  have split := absorbAppend negative (signed negative m) [c] ds
  rw [List.singleton_append,absorbed] at split
  cases digit : digit? c with
  | none =>
    simp only [absorbDigits,digit] at absorbed
    cases absorbed
  | some d =>
    obtain ⟨small,rfl⟩ := digitOf digit
    rw [absorbDigit negative m small] at split
    refine ⟨d,small,rfl,?_⟩
    split at split
    · exact ⟨‹_›,split.symm⟩
    · cases split

theorem numeralAbsorbing {negative : Bool} {cs ds : List Char} {m : Nat} {n : Int} (front : Numeral cs m)
    (fits : inWord (signed negative m) = true) (absorbed : absorbDigits negative (signed negative m) ds = .ok n) :
    ∃ k, Numeral (cs ++ ds) k ∧ n = signed negative k ∧ inWord n = true := by
  induction ds generalizing cs m with
  | nil =>
    cases absorbed
    exact ⟨m,by rwa [List.append_nil],rfl,fits⟩
  | cons c ds ih =>
    obtain ⟨d,small,rfl,more,rest⟩ := absorbedDigit absorbed
    have next := ih (front.more small) more rest
    rwa [List.append_assoc] at next

theorem numeralAbsorbed {negative : Bool} {cs : List Char} {n : Int} (filled : cs ≠ [])
    (absorbed : absorbDigits negative 0 cs = .ok n) :
    ∃ m, Numeral cs m ∧ n = signed negative m ∧ inWord n = true := by
  have zero : (0 : Int) = signed negative 0 := by cases negative <;> rfl
  cases cs with
  | nil => exact absurd rfl filled
  | cons c ds =>
    rw [zero] at absorbed
    obtain ⟨d,small,rfl,fits,rest⟩ := absorbedDigit absorbed
    rw [Nat.zero_mul,Nat.zero_add] at fits rest
    exact numeralAbsorbing (.one small) fits rest

theorem toListOfInt (n : Int) :
    (ofInt n).toList = (if n < 0 then ['-'] else []) ++ digits n.natAbs := by
  unfold ofInt ofNat
  split <;> simp

theorem readWordIff {s : String} {n : Int} :
    readWord s = .ok n ↔ SignedNumeral s.toList n ∧ inWord n = true := by
  unfold readWord
  generalize s.toList = cs
  constructor
  · intro read
    split at read
    · cases read
    · cases read
    · cases read
    · rename_i cs other
      obtain ⟨m,digits,rfl,fits⟩ := numeralAbsorbed (by rintro rfl; exact other rfl) read
      exact ⟨.plus digits,fits⟩
    · rename_i cs other
      obtain ⟨m,digits,rfl,fits⟩ := numeralAbsorbed (by rintro rfl; exact other rfl) read
      exact ⟨.minus digits,fits⟩
    · rename_i filled _ _ _ _
      obtain ⟨m,digits,rfl,fits⟩ := numeralAbsorbed filled read
      exact ⟨.bare digits,fits⟩
  · rintro ⟨numeral,fits⟩
    cases numeral with
    | plus digits =>
      obtain ⟨d,ds,small,rfl⟩ := numeralHead digits
      exact absorbNumeral false digits fits
    | minus digits =>
      obtain ⟨d,ds,small,rfl⟩ := numeralHead digits
      exact absorbNumeral true digits fits
    | bare digits =>
      have absorbed := absorbNumeral false digits fits
      obtain ⟨d,ds,small,rfl⟩ := numeralHead digits
      obtain ⟨plus,minus,-⟩ := digitPlain small
      split
      · contradiction
      · rename_i only
        exact absurd (List.cons.inj only).1 plus
      · rename_i only
        exact absurd (List.cons.inj only).1 minus
      · rename_i only
        exact absurd (List.cons.inj only).1 plus
      · rename_i only
        exact absurd (List.cons.inj only).1 minus
      · exact absorbed

def Spells (s : String) (n : Int) : Prop :=
  ∃ front core back, s.toList = front ++ (core ++ back) ∧ (∀ c ∈ front, isBlank c = true) ∧
    SignedNumeral core n ∧ ∀ c ∈ back, isBlank c = true

theorem spellsTrimmed {s : String} {n : Int} : Spells s n ↔ SignedNumeral (trim s).toList n := by
  rw [trim,String.toList_ofList]
  constructor
  · rintro ⟨front,core,back,same,before,numeral,behind⟩
    rw [same,stripOfEnds before (signedPlain numeral) behind]
    exact numeral
  · intro numeral
    obtain ⟨front,back,same,before,behind⟩ := stripParts isBlank s.toList
    exact ⟨front,strip isBlank s.toList,back,same,before,numeral,behind⟩

theorem spellsOnce {s : String} {n m : Int} (spells : Spells s n) (again : Spells s m) : n = m :=
  signedUnique (spellsTrimmed.mp spells) (spellsTrimmed.mp again)

theorem readTrimmed {s : String} {n : Int} :
    readWord (trim s) = .ok n ↔ Spells s n ∧ inWord n = true := by
  rw [readWordIff,spellsTrimmed]

theorem signedOfInt (n : Int) : SignedNumeral (ofInt n).toList n := by
  rw [toListOfInt]
  split
  · have value : -(n.natAbs : Int) = n := by omega
    have numeral := SignedNumeral.minus (numeralDigits n.natAbs)
    rwa [value] at numeral
  · have value : (n.natAbs : Int) = n := by omega
    have numeral := SignedNumeral.bare (numeralDigits n.natAbs)
    rwa [value] at numeral

theorem readWordOfInt {n : Int} (fits : inWord n = true) : readWord (ofInt n) = .ok n :=
  readWordIff.mpr ⟨signedOfInt n,fits⟩

theorem trimOfInt (n : Int) : trim (ofInt n) = ofInt n := by
  unfold trim
  rw [stripOfNone (signedPlain (signedOfInt n)),String.ofList_toList]

end GrantKeeper.Text
