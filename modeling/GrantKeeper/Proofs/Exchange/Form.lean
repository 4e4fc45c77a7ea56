import GrantKeeper.Exchange.Refresher
import GrantKeeper.Proofs.Text.Lossy

/-! Forms as their readers take them apart. A form gives back the parameters it was made of, so
that no value ends its parameter or begins another, and an exchange posts one form or nothing. -/
namespace GrantKeeper.Exchange
open Endpoint (percentDecode)
open Text (Octets)

namespace Form

def spaceOfPlus (b : UInt8) : UInt8 := if b = 0x2B then 0x20 else b

def decodeText (bs : Octets) : String := Text.decodeLossy (percentDecode (bs.map spaceOfPlus))

def decodePair (bs : Octets) : String × String :=
  (decodeText (bs.takeWhile (· ≠ 0x3D)),decodeText (bs.dropWhile (· ≠ 0x3D)).tail)

def decode (bs : Octets) : List (String × String) :=
  ((bs.splitOn 0x26).filter (!·.isEmpty)).map decodePair

theorem hexRead : ∀ d < 16, Text.hexValue? (spaceOfPlus (upperHex (UInt8.ofNat d))) = some d := by
  decide

theorem hexApart : ∀ d < 16, upperHex (UInt8.ofNat d) ≠ 0x26 ∧ upperHex (UInt8.ofNat d) ≠ 0x3D := by
  decide

theorem octetHalves (b : UInt8) : ∃ high < 16, ∃ low < 16, b / 16 = UInt8.ofNat high ∧
    b % 16 = UInt8.ofNat low ∧ b = UInt8.ofNat (high * 16 + low) := by
  have small := b.toNat_lt
  refine ⟨b.toNat / 16,by omega,b.toNat % 16,by omega,?_,?_,?_⟩
  · rw [← UInt8.toNat_inj,UInt8.toNat_ofNat_of_lt' (by omega : b.toNat / 16 < 0x100)]
    exact UInt8.toNat_div b 16
  · rw [← UInt8.toNat_inj,UInt8.toNat_ofNat_of_lt' (by omega : b.toNat % 16 < 0x100)]
    exact UInt8.toNat_mod b 16
  · rw [Nat.div_add_mod',UInt8.ofNat_toNat]

theorem plainApart {b : UInt8} (plain : isPlain b = true) :
    b ≠ 0x25 ∧ b ≠ 0x26 ∧ b ≠ 0x2B ∧ b ≠ 0x3D := by
  refine ⟨?_,?_,?_,?_⟩ <;>
  · rintro rfl
    exact absurd plain (by decide)

theorem percentDecodeOther {b : UInt8} (other : b ≠ 0x25) (rest : Octets) :
    percentDecode (b :: rest) = b :: percentDecode rest := by
  rw [percentDecode]
  intro a c more same _
  exact other same

theorem percentDecodeHex {a b : UInt8} {high low : Nat} (first : Text.hexValue? a = some high)
    (second : Text.hexValue? b = some low) (rest : Octets) :
    percentDecode (0x25 :: a :: b :: rest) = UInt8.ofNat (high * 16 + low) :: percentDecode rest := by
  rw [percentDecode,first,second]

theorem octetRead (b : UInt8) (rest : Octets) :
    percentDecode ((encodeOctet b ++ rest).map spaceOfPlus) = b :: percentDecode (rest.map spaceOfPlus) := by
  rw [List.map_append]
  unfold encodeOctet
  split
  · rename_i plain
    obtain ⟨percent,-,plus,-⟩ := plainApart plain
    have kept : spaceOfPlus b = b := if_neg plus
    rw [List.map_singleton,kept,List.singleton_append,percentDecodeOther percent]
  · split
    · rename_i blank
      cases beq_iff_eq.mp blank
      exact percentDecodeOther (by decide) _
    · obtain ⟨high,highSmall,low,lowSmall,upper,lower,whole⟩ := octetHalves b
      rw [upper,lower,whole]
      exact percentDecodeHex (hexRead high highSmall) (hexRead low lowSmall) _

theorem octetApart (b : UInt8) : ∀ a ∈ encodeOctet b, a ≠ 0x26 ∧ a ≠ 0x3D := by
  intro a there
  unfold encodeOctet at there
  split at there
  · rename_i plain
    cases List.mem_singleton.mp there
    obtain ⟨-,ampersand,-,equals⟩ := plainApart plain
    exact ⟨ampersand,equals⟩
  · split at there
    · cases List.mem_singleton.mp there
      decide
    · obtain ⟨high,highSmall,low,lowSmall,upper,lower,-⟩ := octetHalves b
      rw [upper,lower] at there
      simp only [List.mem_cons,List.not_mem_nil,or_false] at there
      rcases there with rfl | rfl | rfl
      · decide
      · exact hexApart high highSmall
      · exact hexApart low lowSmall

theorem octetsRead (bs rest : Octets) :
    percentDecode ((bs.flatMap encodeOctet ++ rest).map spaceOfPlus) =
      bs ++ percentDecode (rest.map spaceOfPlus) := by
  induction bs with
  | nil => rfl
  | cons b bs ih => rw [List.flatMap_cons,List.append_assoc,octetRead,ih,List.cons_append]

theorem textRead (s : String) : decodeText (encodeText s) = s := by
  have read := octetsRead (Text.encode s) []
  rw [List.append_nil] at read
  rw [decodeText,encodeText,read,List.map_nil,percentDecode,List.append_nil,Text.decodeLossyEncode]

theorem textApart {s : String} {a : UInt8} (there : a ∈ encodeText s) : a ≠ 0x26 ∧ a ≠ 0x3D := by
  obtain ⟨b,-,within⟩ := List.mem_flatMap.mp there
  exact octetApart b a within

theorem pairRead (pair : String × String) : decodePair (encodePair pair) = pair := by
  have name : ∀ a ∈ encodeText pair.1, decide (a ≠ 0x3D) = true := fun a there =>
    decide_eq_true (textApart there).2
  unfold decodePair encodePair
  rw [List.takeWhile_append_of_pos name,List.dropWhile_append_of_pos name]
  simp [textRead]

theorem pairApart (pair : String × String) : 0x26 ∉ encodePair pair := by
  unfold encodePair
  intro there
  rcases List.mem_append.mp there with name | value
  · exact (textApart name).1 rfl
  · rcases List.mem_cons.mp value with equals | value
    · cases equals
    · exact (textApart value).1 rfl

theorem encodeJoined (pairs : List (String × String)) :
    encode pairs = [0x26].intercalate (pairs.map encodePair) := by
  fun_induction encode pairs with
  | case1 => rfl
  | case2 pair => simp
  | case3 pair pairs more ih =>
    cases pairs with
    | nil => exact absurd rfl more
    | cons next rest => simp [ih,List.intercalate_cons_cons]

theorem formRead (pairs : List (String × String)) : decode (encode pairs) = pairs := by
  cases pairs with
  | nil => rfl
  | cons pair pairs =>
    have apart : ∀ l ∈ (pair :: pairs).map encodePair, 0x26 ∉ l := by
      intro l there
      obtain ⟨one,-,rfl⟩ := List.mem_map.mp there
      exact pairApart one
    have filled : ∀ l ∈ (pair :: pairs).map encodePair, (!l.isEmpty) = true := by
      intro l there
      obtain ⟨one,-,rfl⟩ := List.mem_map.mp there
      simp [encodePair]
    rw [decode,encodeJoined,List.splitOn_intercalate _ apart (by simp),List.filter_eq_self.mpr filled,
      List.map_map]
    exact List.map_id'' pairRead _

end Form

theorem Answer.faultHeard (a : Answer) (url : String) : a.fault ≠ .transport url := by
  unfold Answer.fault
  split <;> exact nofun

namespace Refresher

def conclude (r : Refresher) : Option (Status × Octets) → Except Fault Reply
  | none => .error (.transport r.url)
  | some (status,body) => (Answer.mk status (Text.decodeLossy body)).read

def Posts (r : Refresher) (order : Order) (body : Octets) : Prop :=
  ∀ network, r.exchange network order = r.conclude (network r.url body)

variable {r : Refresher} {order : Order}

theorem exchangeEmpty (empty : order.refresh = "") (network : Network) :
    r.exchange network order = .error .noRefreshToken :=
  if_pos (String.isEmpty_iff.mpr empty)

theorem postsBody (filled : order.refresh ≠ "") : r.Posts order order.body := by
  intro network
  have there : ¬ order.refresh.isEmpty = true := fun empty => filled (String.isEmpty_iff.mp empty)
  rw [exchange,if_neg there]
  cases network r.url order.body <;> rfl

-- a network that is silent for one body only tells that body from every other
theorem postsOnce {body other : Octets} (posts : r.Posts order body) (again : r.Posts order other) :
    other = body := by
  refine Decidable.byContradiction fun apart => ?_
  let network : Network := fun _ asked => if asked = body then none else some (⟨0⟩,[])
  have silent : network r.url body = none := if_pos rfl
  have heard : network r.url other = some (⟨0⟩,[]) := if_neg apart
  have same := (posts network).symm.trans (again network)
  rw [silent,heard] at same
  exact Answer.faultHeard _ _ (Except.error.inj same).symm

/-- With a refresh token an exchange posts one form and nothing else, which is read as the order's
own parameters and no others; without one it posts nothing. -/
theorem formCarriesOrder (r : Refresher) (order : Order) :
    (order.refresh = "" → ∀ network, r.exchange network order = .error .noRefreshToken) ∧
    (order.refresh ≠ "" → ∃ body, (∀ other, r.Posts order other ↔ other = body) ∧
      Form.decode body = ("grant_type","refresh_token") :: ("client_id",order.clientId) ::
        ((if order.clientSecret = "" then [] else [("client_secret",order.clientSecret)]) ++
          [("refresh_token",order.refresh)])) := by
  refine ⟨exchangeEmpty,fun filled => ⟨order.body,fun other => ⟨?_,?_⟩,?_⟩⟩
  · exact postsOnce (postsBody filled)
  · rintro rfl
    exact postsBody filled
  · rw [Order.body,Form.formRead,Order.parameters]
    by_cases bare : order.clientSecret = ""
    · simp [bare]
    · simp [bare]

theorem formCarriesForged :
    (∀ network, Refresher.exchange network ⟨"https://e.org/t"⟩ ⟨"c","s",""⟩ = .error .noRefreshToken) ∧
    ∃ body, (∀ other, Refresher.Posts ⟨"https://e.org/t"⟩ ⟨"c&client_secret=x+%41 é","","R=&grant_type"⟩ other ↔
      other = body) ∧
      Form.decode body = [("grant_type","refresh_token"),("client_id","c&client_secret=x+%41 é"),
        ("refresh_token","R=&grant_type")] :=
  ⟨(formCarriesOrder ⟨"https://e.org/t"⟩ ⟨"c","s",""⟩).1 rfl,
    (formCarriesOrder ⟨"https://e.org/t"⟩ ⟨"c&client_secret=x+%41 é","","R=&grant_type"⟩).2 (by decide)⟩

end Refresher
end GrantKeeper.Exchange
