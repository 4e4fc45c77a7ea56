import GrantKeeper.Text.Base64
import GrantKeeper.Text.Blank

/-! What Base64 writes it reads, and it reads nothing else. No symbol is blank. -/
namespace GrantKeeper.Text.Base64

theorem symbolPlain {n : Nat} (small : n < 64) : value? (symbol n) = some n ∧ symbol n ≠ pad ∧
    isBlankOctet (symbol n) = false ∧ symbol n ≠ 0x7B := by
  revert n
  decide

theorem oneRead (a : UInt8) :
    oneOctet? (symbol (a.toNat / 4)) (symbol (a.toNat % 4 * 16)) = some [a] := by
  have low := a.toNat_lt
  have first := (symbolPlain (n := a.toNat / 4) (by omega)).1
  have second := (symbolPlain (n := a.toNat % 4 * 16) (by omega)).1
  have whole : a.toNat / 4 * 4 + a.toNat % 4 * 16 / 16 = a.toNat := by omega
  simp only [oneOctet?,first,second,Option.bind_eq_bind,Option.bind_some,whole,UInt8.ofNat_toNat]
  exact if_pos (by omega)

theorem twoRead (a b : UInt8) : twoOctets? (symbol (a.toNat / 4))
    (symbol (a.toNat % 4 * 16 + b.toNat / 16)) (symbol (b.toNat % 16 * 4)) = some [a,b] := by
  have lowA := a.toNat_lt
  have lowB := b.toNat_lt
  have first := (symbolPlain (n := a.toNat / 4) (by omega)).1
  have second := (symbolPlain (n := a.toNat % 4 * 16 + b.toNat / 16) (by omega)).1
  have third := (symbolPlain (n := b.toNat % 16 * 4) (by omega)).1
  have wholeA : a.toNat / 4 * 4 + (a.toNat % 4 * 16 + b.toNat / 16) / 16 = a.toNat := by omega
  have wholeB : (a.toNat % 4 * 16 + b.toNat / 16) % 16 * 16 + b.toNat % 16 * 4 / 4 = b.toNat := by omega
  simp only [twoOctets?,first,second,third,Option.bind_eq_bind,Option.bind_some,wholeA,wholeB,
    UInt8.ofNat_toNat]
  exact if_pos (by omega)

theorem threeRead (a b c : UInt8) : threeOctets? (symbol (a.toNat / 4))
    (symbol (a.toNat % 4 * 16 + b.toNat / 16)) (symbol (b.toNat % 16 * 4 + c.toNat / 64))
    (symbol (c.toNat % 64)) = some [a,b,c] := by
  have lowA := a.toNat_lt
  have lowB := b.toNat_lt
  have lowC := c.toNat_lt
  have first := (symbolPlain (n := a.toNat / 4) (by omega)).1
  have second := (symbolPlain (n := a.toNat % 4 * 16 + b.toNat / 16) (by omega)).1
  have third := (symbolPlain (n := b.toNat % 16 * 4 + c.toNat / 64) (by omega)).1
  have fourth := (symbolPlain (n := c.toNat % 64) (by omega)).1
  have wholeA : a.toNat / 4 * 4 + (a.toNat % 4 * 16 + b.toNat / 16) / 16 = a.toNat := by omega
  have wholeB : (a.toNat % 4 * 16 + b.toNat / 16) % 16 * 16 + (b.toNat % 16 * 4 + c.toNat / 64) / 4 =
      b.toNat := by omega
  have wholeC : (b.toNat % 16 * 4 + c.toNat / 64) % 4 * 64 + c.toNat % 64 = c.toNat := by omega
  simp only [threeOctets?,first,second,third,fourth,Option.bind_eq_bind,Option.bind_some,wholeA,wholeB,
    wholeC,UInt8.ofNat_toNat]

theorem decodeEncode (octets : Octets) : decode? (encode octets) = some octets := by
  induction octets using encode.induct with
  | case1 => rfl
  | case2 a =>
    simp only [encode,decode?,if_true]
    exact oneRead a
  | case3 a b =>
    have third := (symbolPlain (n := b.toNat % 16 * 4) (by omega)).2.1
    simp only [encode,decode?,if_true,if_neg third]
    exact twoRead a b
  | case4 a b c rest ih =>
    have group := threeRead a b c
    have fourth := (symbolPlain (n := c.toNat % 64) (by omega)).2.1
    simp only [encode]
    cases more : encode rest with
    | nil =>
      rw [more] at ih
      cases Option.some.inj ih
      simp only [decode?,if_neg fourth]
      exact group
    | cons x xs =>
      rw [more] at ih
      simp [decode?,group,ih]

theorem encodeEach {P : UInt8 → Prop} (symbols : ∀ n < 64, P (symbol n)) (padding : P pad)
    (octets : Octets) : ∀ x ∈ encode octets, P x := by
  induction octets using encode.induct with
  | case1 =>
    intro x member
    cases member
  | case2 a =>
    have low := a.toNat_lt
    simp only [encode,List.forall_mem_cons]
    exact ⟨symbols _ (by omega),symbols _ (by omega),padding,padding,fun _ member => by cases member⟩
  | case3 a b =>
    have lowA := a.toNat_lt
    have lowB := b.toNat_lt
    simp only [encode,List.forall_mem_cons]
    exact ⟨symbols _ (by omega),symbols _ (by omega),symbols _ (by omega),padding,
      fun _ member => by cases member⟩
  | case4 a b c rest ih =>
    have lowA := a.toNat_lt
    have lowB := b.toNat_lt
    have lowC := c.toNat_lt
    simp only [encode,List.forall_mem_cons]
    exact ⟨symbols _ (by omega),symbols _ (by omega),symbols _ (by omega),symbols _ (by omega),ih⟩

theorem encodePlain (octets : Octets) :
    ∀ x ∈ encode octets, isBlankOctet x = false ∧ x ≠ 0x7B :=
  encodeEach (fun _ small => (symbolPlain small).2.2) (by decide) octets

theorem encodeAscii (octets : Octets) :
    ∀ x ∈ encode octets, x < 0x80 ∧ isBlank (Char.ofNat x.toNat) = false :=
  encodeEach (by decide) (by decide) octets

variable {a b c d : UInt8} {octets : Octets}

theorem symbolOfValue {n : Nat} (value : value? b = some n) : n < 64 ∧ symbol n = b := by
  have whole : UInt8.ofNat b.toNat = b := UInt8.ofNat_toNat
  unfold value? at value
  simp only [UInt8.le_iff_toNat_le,UInt8.reduceToNat] at value
  split at value
  · cases value
    have sum : 0x41 + (b.toNat - 0x41) = b.toNat := by omega
    rw [symbol,if_pos (by omega),sum]
    exact ⟨by omega,whole⟩
  · split at value
    · cases value
      have sum : 0x61 + (b.toNat - 0x61 + 26 - 26) = b.toNat := by omega
      rw [symbol,if_neg (by omega),if_pos (by omega),sum]
      exact ⟨by omega,whole⟩
    · split at value
      · cases value
        have sum : 0x30 + (b.toNat - 0x30 + 52 - 52) = b.toNat := by omega
        rw [symbol,if_neg (by omega),if_neg (by omega),if_pos (by omega),sum]
        exact ⟨by omega,whole⟩
      · split at value
        · rename_i plus
          cases value
          exact ⟨by decide,plus.symm⟩
        · split at value
          · rename_i slash
            cases value
            exact ⟨by decide,slash.symm⟩
          · cases value

theorem octetOfSum {n : Nat} (small : n < 256) : (UInt8.ofNat n).toNat = n :=
  UInt8.toNat_ofNat_of_lt' small

theorem oneWritten (read : oneOctet? a b = some octets) :
    ∃ x : UInt8, octets = [x] ∧ a = symbol (x.toNat / 4) ∧ b = symbol (x.toNat % 4 * 16) := by
  simp only [oneOctet?,Option.bind_eq_bind,Option.bind_eq_some_iff] at read
  obtain ⟨m,first,n,second,read⟩ := read
  obtain ⟨smallM,rfl⟩ := symbolOfValue first
  obtain ⟨smallN,rfl⟩ := symbolOfValue second
  split at read
  · cases read
    have high := octetOfSum (n := m * 4 + n / 16) (by omega)
    refine ⟨_,rfl,congrArg symbol ?_,congrArg symbol ?_⟩ <;> omega
  · cases read

theorem twoWritten (read : twoOctets? a b c = some octets) : ∃ x y : UInt8, octets = [x,y] ∧
    a = symbol (x.toNat / 4) ∧ b = symbol (x.toNat % 4 * 16 + y.toNat / 16) ∧
    c = symbol (y.toNat % 16 * 4) := by
  simp only [twoOctets?,Option.bind_eq_bind,Option.bind_eq_some_iff] at read
  obtain ⟨m,first,n,second,k,third,read⟩ := read
  obtain ⟨smallM,rfl⟩ := symbolOfValue first
  obtain ⟨smallN,rfl⟩ := symbolOfValue second
  obtain ⟨smallK,rfl⟩ := symbolOfValue third
  split at read
  · cases read
    have high := octetOfSum (n := m * 4 + n / 16) (by omega)
    have low := octetOfSum (n := n % 16 * 16 + k / 4) (by omega)
    refine ⟨_,_,rfl,congrArg symbol ?_,congrArg symbol ?_,congrArg symbol ?_⟩ <;> omega
  · cases read

theorem threeWritten (read : threeOctets? a b c d = some octets) : ∃ x y z : UInt8,
    octets = [x,y,z] ∧ a = symbol (x.toNat / 4) ∧ b = symbol (x.toNat % 4 * 16 + y.toNat / 16) ∧
    c = symbol (y.toNat % 16 * 4 + z.toNat / 64) ∧ d = symbol (z.toNat % 64) := by
  simp only [threeOctets?,Option.bind_eq_bind,Option.bind_eq_some_iff] at read
  obtain ⟨m,first,n,second,k,third,l,fourth,read⟩ := read
  obtain ⟨smallM,rfl⟩ := symbolOfValue first
  obtain ⟨smallN,rfl⟩ := symbolOfValue second
  obtain ⟨smallK,rfl⟩ := symbolOfValue third
  obtain ⟨smallL,rfl⟩ := symbolOfValue fourth
  cases read
  have high := octetOfSum (n := m * 4 + n / 16) (by omega)
  have middle := octetOfSum (n := n % 16 * 16 + k / 4) (by omega)
  have low := octetOfSum (n := k % 4 * 64 + l) (by omega)
  refine ⟨_,_,_,rfl,congrArg symbol ?_,congrArg symbol ?_,congrArg symbol ?_,congrArg symbol ?_⟩ <;> omega

theorem encodeDecode {s : Octets} (read : decode? s = some octets) : s = encode octets := by
  fun_induction decode? s generalizing octets with
  | case1 =>
    cases read
    rfl
  | case2 a b =>
    obtain ⟨x,rfl,rfl,rfl⟩ := oneWritten read
    rfl
  | case3 a b c =>
    obtain ⟨x,y,rfl,rfl,rfl,rfl⟩ := twoWritten read
    rfl
  | case4 a b c d =>
    obtain ⟨x,y,z,rfl,rfl,rfl,rfl,rfl⟩ := threeWritten read
    rfl
  | case5 a b c d rest more ih =>
    simp only [Option.bind_eq_bind,Option.bind_eq_some_iff,Option.some.injEq] at read
    obtain ⟨group,first,others,later,rfl⟩ := read
    obtain ⟨x,y,z,rfl,rfl,rfl,rfl,rfl⟩ := threeWritten first
    rw [ih later]
    rfl
  | case6 => cases read

theorem decodeIff {s : Octets} : decode? s = some octets ↔ s = encode octets :=
  ⟨encodeDecode,fun same => same ▸ decodeEncode octets⟩

end GrantKeeper.Text.Base64
