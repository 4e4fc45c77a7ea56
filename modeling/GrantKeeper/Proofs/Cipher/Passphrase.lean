import GrantKeeper.Cipher.Nonce
import GrantKeeper.Command.Run
import GrantKeeper.Proofs.Cipher.Unseal
import GrantKeeper.Proofs.Text.Base64
import GrantKeeper.Proofs.Text.Numeral
import GrantKeeper.Proofs.Text.Octet

/-! Passphrases and the keys they stand for. The Base64 text of a key stands for that key, with
whatever blanks around it, and any other text for its digest. -/
namespace GrantKeeper
open Text (Octets)

namespace Text

theorem octetsOfAscii {bs : Octets} (ascii : ∀ b ∈ bs, b < 0x80) :
    encode (String.ofList (bs.map fun b => Char.ofNat b.toNat)) = bs := by
  have one : ∀ n < 128, (Char.ofNat n).toNat = n := by decide
  rw [encodeOfList]
  induction bs with
  | nil => rfl
  | cons b bs ih =>
    have low := ascii b List.mem_cons_self
    rw [UInt8.lt_iff_toNat_lt] at low
    change b.toNat < 128 at low
    have number := one b.toNat low
    have char : String.utf8EncodeChar (Char.ofNat b.toNat) = [b] := by
      rw [octetOfAscii (by omega),number,UInt8.ofNat_toNat]
    rw [List.map_cons,List.flatMap_cons,char,ih fun a member => ascii a (List.mem_cons_of_mem b member)]
    rfl

end Text

namespace Cipher

def Key.SpelledBy (key : Key) (p : String) : Prop :=
  Text.encode (Text.trim p) = Text.Base64.encode key.octets

theorem Key.ofTextIff {key : Key} {p : String} : Key.ofText? p = some key ↔ key.SpelledBy p := by
  unfold Key.ofText? Key.SpelledBy
  rw [Option.bind_eq_some_iff]
  constructor
  · rintro ⟨octets,read,fits⟩
    unfold Key.ofOctets? at fits
    split at fits
    · cases fits
      exact Text.Base64.encodeDecode read
    · cases fits
  · intro same
    refine ⟨key.octets,Text.Base64.decodeIff.mpr same,?_⟩
    unfold Key.ofOctets?
    exact dif_pos key.sized

theorem Key.textChars (key : Key) :
    key.text = String.ofList ((Text.Base64.encode key.octets).map fun b => Char.ofNat b.toNat) := by
  have octets := Text.octetsOfAscii fun b member => (Text.Base64.encodeAscii key.octets b member).1
  unfold Key.text
  rw [← octets,Text.decodeEncoded,octets,Option.getD_some]

theorem Key.textOctets (key : Key) : Text.encode key.text = Text.Base64.encode key.octets := by
  rw [Key.textChars]
  exact Text.octetsOfAscii fun b member => (Text.Base64.encodeAscii key.octets b member).1

theorem Key.textSpells (key : Key) {before behind : String}
    (leading : ∀ c ∈ before.toList, Text.isBlank c = true)
    (trailing : ∀ c ∈ behind.toList, Text.isBlank c = true) :
    key.SpelledBy (before ++ key.text ++ behind) := by
  have inside : ∀ c ∈ key.text.toList, Text.isBlank c = false := by
    rw [Key.textChars,String.toList_ofList]
    intro c member
    obtain ⟨b,there,rfl⟩ := List.mem_map.mp member
    exact (Text.Base64.encodeAscii key.octets b there).2
  have bare : Text.trim (before ++ key.text ++ behind) = key.text := by
    unfold Text.trim
    rw [String.toList_append,String.toList_append,List.append_assoc,
      Text.stripOfEnds leading inside trailing,String.ofList_toList]
  rw [Key.SpelledBy,bare,Key.textOctets]

structure Key.ReadsFrom (p : String) : Prop where
  spelled : ∀ key : Key, key.SpelledBy p → Key.ofPassphrase p = key
  once : ∀ key other : Key, key.SpelledBy p → other.SpelledBy p → key = other
  digested : (∀ key : Key, ¬ key.SpelledBy p) →
    (Key.ofPassphrase p).octets = Sha256.digest (Text.encode p)

theorem Key.readsFrom (p : String) : Key.ReadsFrom p where
  spelled key spelled := by
    rw [Key.ofPassphrase,Key.ofTextIff.mpr spelled,Option.getD_some]
  once key other spelled again :=
    Option.some.inj ((Key.ofTextIff.mpr spelled).symm.trans (Key.ofTextIff.mpr again))
  digested unspelled := by
    have unread : Key.ofText? p = none :=
      Option.eq_none_iff_forall_ne_some.mpr fun key read => unspelled key (Key.ofTextIff.mp read)
    rw [Key.ofPassphrase,unread]
    rfl

theorem Key.opensSealed (key : Key) (box plain : Octets) :
    key.unseal box = .ok plain ↔ ∃ nonce, box = key.seal nonce plain := by
  constructor
  · intro opened
    obtain ⟨nonce,-,made⟩ := Key.sealUnsealed opened
    exact ⟨nonce,made⟩
  · rintro ⟨nonce,rfl⟩
    exact key.unsealSeal nonce plain

end Cipher

namespace Command
open Cipher (Key)

/-- A passphrase that is the Base64 text of some key, blank ends aside, stands for that key and no
other; what is no such text stands for the digest of all its octets. The key that is printed opens,
whatever blanks come to stand around it, the boxes that were sealed with the key itself. -/
theorem passphrasesRead : (∀ p, Key.ReadsFrom p) ∧
    ∀ (s : Surroundings) (globals : Globals) (disk : Disk) (before behind : String),
      (∀ c ∈ before.toList, Text.isBlank c = true) → (∀ c ∈ behind.toList, Text.isBlank c = true) →
      ∃ printed, run s ⟨globals,.keygen⟩ disk = (done [printed],disk) ∧
        ∀ box plain, (Key.ofPassphrase (before ++ printed ++ behind)).unseal box = .ok plain ↔
          ∃ nonce, box = s.freshKey.seal nonce plain := by
  refine ⟨Key.readsFrom,?_⟩
  intro s globals disk before behind leading trailing
  refine ⟨s.freshKey.text,rfl,?_⟩
  have spelled := s.freshKey.textSpells leading trailing
  rw [(Key.readsFrom _).spelled s.freshKey spelled]
  exact s.freshKey.opensSealed

theorem passphraseUnpadded :
    let key : Key := ⟨List.replicate 32 0,rfl⟩
    let unpadded := String.ofList (List.replicate 43 'A')
    let s : Surroundings := ⟨fun _ => none,.epoch,.countFrom 0,key,fun _ _ => .error .noRefreshToken⟩
    (∀ other : Key, ¬ other.SpelledBy unpadded) ∧
    (Key.ofPassphrase unpadded).octets = Cipher.Sha256.digest (Text.encode unpadded) ∧
    key.SpelledBy "\n AAAAAAAAAAAAAAAAAAAAAAAAAAAAAAAAAAAAAAAAAAA=" ∧
    Key.ofPassphrase "\n AAAAAAAAAAAAAAAAAAAAAAAAAAAAAAAAAAAAAAAAAAA=" = key ∧
    (∀ c ∈ "\n".toList, Text.isBlank c = true) ∧ (∀ c ∈ "\u3000".toList, Text.isBlank c = true) ∧
    ∃ printed, (run s ⟨⟨none,none,none,none,false⟩,.keygen⟩ (.ofTree .empty 1)).1 = done [printed] ∧
      (Key.ofPassphrase ("\n" ++ printed ++ "\u3000")).unseal (key.seal (.numbered 1) [7]) = .ok [7] := by
  intro key unpadded s
  obtain ⟨reads,prints⟩ := passphrasesRead
  have unread : Key.ofText? unpadded = none := by decide +kernel
  have unspelled : ∀ other : Key, ¬ other.SpelledBy unpadded := by
    intro other spelled
    cases unread.symm.trans (Cipher.Key.ofTextIff.mpr spelled)
  have spelled : key.SpelledBy "\n AAAAAAAAAAAAAAAAAAAAAAAAAAAAAAAAAAAAAAAAAAA=" := by
    unfold Key.SpelledBy
    decide +kernel
  have leading : ∀ c ∈ "\n".toList, Text.isBlank c = true := List.all_eq_true.mp rfl
  have trailing : ∀ c ∈ "\u3000".toList, Text.isBlank c = true := List.all_eq_true.mp rfl
  obtain ⟨printed,shown,opens⟩ := prints s ⟨none,none,none,none,false⟩ (.ofTree .empty 1) "\n" "\u3000"
    leading trailing
  exact ⟨unspelled,(reads unpadded).digested unspelled,spelled,(reads _).spelled key spelled,leading,trailing,
    printed,congrArg Prod.fst shown,(opens _ _).mpr ⟨_,rfl⟩⟩

end Command

end GrantKeeper
