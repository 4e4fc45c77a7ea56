import GrantKeeper.Vault.Folder
import GrantKeeper.Proofs.Cipher.Seal
import GrantKeeper.Proofs.Grant.Record
import GrantKeeper.Proofs.Json.Formed
import GrantKeeper.Proofs.Text.Base64

/-! Records, plain or sealed, give back the grant they were written for. -/
namespace GrantKeeper.Vault.Folder
open Text (Octets)

theorem readPlainRecord (g : Grant) : readPlain (plainRecord g) = .ok g.floored := by
  unfold readPlain plainRecord
  rw [g.decodeDocument]

theorem objectLooks {rows : List Json.Row} {text : Octets} (object : Json.Object rows text) :
    looksPlain text = true := by
  obtain ⟨before,rest,blank,rfl⟩ := Json.objectBegins object
  have skipped : ∀ b ∈ before, Text.isBlankOctet b = true := by
    intro b member
    have one := blank b member
    simp only [List.mem_cons,List.not_mem_nil,or_false] at one
    rcases one with rfl | rfl | rfl | rfl <;> rfl
  rw [looksPlain,List.dropWhile_append_of_pos skipped]
  rfl

theorem plainLooks (g : Grant) : looksPlain (plainRecord g) = true :=
  objectLooks (Json.objectPretty _)

theorem sealedLooks (octets : Octets) : looksPlain (Text.Base64.encode octets) = false := by
  have plain := Text.Base64.encodePlain octets
  unfold looksPlain
  cases written : Text.Base64.encode octets with
  | nil => rfl
  | cons x xs =>
    obtain ⟨filled,other⟩ := plain x (by simp [written])
    simp [filled,other]

theorem readSealed (key : Cipher.Key) (nonce : Cipher.Nonce) (plain : Octets) :
    readRecord (some key) (Text.Base64.encode (key.seal nonce plain)) = readPlain plain := by
  have bare := Text.stripOfNone fun x member => (Text.Base64.encodePlain (key.seal nonce plain) x member).1
  simp only [readRecord,sealedLooks,Bool.false_eq_true,if_false,bare,Text.Base64.decodeEncode,
    key.unsealSeal]

theorem readRecordOf (key : Option Cipher.Key) (nonce : Cipher.Nonce) (g : Grant) :
    readRecord key (record key nonce g) = .ok g.floored := by
  cases key with
  | none => exact readPlainRecord g
  | some key => exact (readSealed key nonce _).trans (readPlainRecord g)

end GrantKeeper.Vault.Folder
