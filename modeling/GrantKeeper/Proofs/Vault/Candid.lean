import GrantKeeper.Proofs.Vault.Folder
import GrantKeeper.Proofs.Vault.Unsteady

/-! Vaults that give out no grant but the recorded one. Their loads may fail, and may
even pass a record off as missing. -/
namespace GrantKeeper.Vault
open Lawful (record?)

class Candid (ω : Type) [Vault ω] [Lawful ω] : Prop where
  found {v v' : ω} {id : String} {g : Grant} (load : Vault.load v id = (.ok (some g),v')) :
    record? v id = some (some g)

instance : Candid Memory where
  found load := Lawful.loaded trivial load

instance : Candid Folder where
  found {f f' id g} load := by
    change f.load id = _ at load
    change f.record? id = _
    unfold Folder.load at load
    by_cases usable : Enrollment.isUsableId id = true
    · simp only [Folder.recordPathOf usable] at load
      unfold Folder.record? Folder.recordIn? Disk.Tree.content?
      rw [if_pos usable]
      split at load
      · cases load
      · cases load
      · rename_i octets d read
        rw [Disk.lookOk read]
        split at load
        · rename_i grant readable
          cases load
          simp [Except.toOption,readable]
        · cases load
    · simp only [Folder.noRecordPath usable] at load
      cases load

instance {ω : Type} [Vault ω] [Lawful ω] [Candid ω] : Candid (Unsteady ω) where
  found {u u' id g} load := by
    have passed := u.passes (Vault.load · id)
    change u.pass _ = _ at load
    change record? u.below id = _
    rw [load] at passed
    cases passed with
    | went done => exact Candid.found done

end GrantKeeper.Vault
