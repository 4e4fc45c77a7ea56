import GrantKeeper.Vault.Memory
import GrantKeeper.Proofs.Grant.Whole

/-! Vaults that can be relied on: what they say was saved is there from then on,
and what fails leaves all records as they were. -/
namespace GrantKeeper.Vault

class Lawful (ω : Type) [Vault ω] where
  record? : ω → String → Option (Option Grant)
  Honest : ω → Prop
  saved {v v' : ω} {id : String} {g : Grant} (whole : g.IsWhole) (save : Vault.save v id g = (.ok (),v'))
    (other : String) : record? v' other = if id = other then some (some g) else record? v other
  unsaved {v v' : ω} {id : String} {g : Grant} {fault : Fault}
    (save : Vault.save v id g = (.error fault,v')) (other : String) : record? v' other = record? v other
  loadKeeps (v : ω) (id other : String) : record? (Vault.load v id).2 other = record? v other
  loaded {v v' : ω} {id : String} {stored : Option Grant} (honest : Honest v)
    (load : Vault.load v id = (.ok stored,v')) : record? v id = stored.map some
  erased {v v' : ω} {id : String} (honest : Honest v) (erase : Vault.erase v id = (.ok (),v')) :
    record? v' id = none
  eraseKeeps (v : ω) (id other : String) : record? (Vault.erase v id).2 other = record? v other ∨
    id = other ∧ record? (Vault.erase v id).2 other = none

theorem Lawful.erasedOk {ω : Type} [Vault ω] [Lawful ω] {v : ω} {id : String} (honest : Honest v)
    (ok : (Vault.erase v id).1.isOk = true) : record? (Vault.erase v id).2 id = none := by
  cases erase : Vault.erase v id with
  | mk result v' =>
    rw [erase] at ok
    cases result with
    | error fault => cases ok
    | ok u => exact erased honest erase

namespace Memory

instance : Lawful Memory where
  record? m id := m.grants[id]?.map some
  Honest _ := True
  saved {v v' id g} whole save other := by
    cases save
    rw [Std.ExtTreeMap.getElem?_insert]
    by_cases same : id = other <;> simp [same]
  unsaved {v v' id g fault} save other := by cases save
  loadKeeps v id other := rfl
  loaded {v v' id g} honest load := by
    cases load
    rfl
  erased {v v' id} honest erase := by
    cases erase
    simp
  eraseKeeps v id other := by
    change (v.grants.erase id)[other]?.map some = v.grants[other]?.map some ∨
      id = other ∧ (v.grants.erase id)[other]?.map some = none
    rw [Std.ExtTreeMap.getElem?_erase]
    by_cases same : id = other <;> simp [same]

end Memory

end GrantKeeper.Vault
