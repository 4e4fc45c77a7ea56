import GrantKeeper.Proofs.Vault.Lawful

/-! A vault whose operations fail whenever something outside has them fail. What
lies below is then left as it was, so that the vault is as lawful as that. -/
namespace GrantKeeper.Vault

structure Unsteady (ω : Type) where
  below : ω
  failures : List (Option Fault)

namespace Unsteady
variable {ω : Type}

def pass {α : Type} (u : Unsteady ω) (f : ω → Outcome Fault α ω) : Outcome Fault α (Unsteady ω) :=
  match u.failures.head?.join with
  | some fault => (.error fault,⟨u.below,u.failures.tail⟩)
  | none => (f u.below).mapState fun below => ⟨below,u.failures.tail⟩

inductive Passes {α : Type} (u : Unsteady ω) (f : ω → Outcome Fault α ω) :
    Outcome Fault α (Unsteady ω) → Prop
  | failed (fault failures) : Passes u f (.error fault,⟨u.below,failures⟩)
  | went {result below} (done : f u.below = (result,below)) (failures) :
      Passes u f (result,⟨below,failures⟩)

theorem passes {α : Type} (u : Unsteady ω) (f : ω → Outcome Fault α ω) : Passes u f (u.pass f) := by
  unfold pass
  split
  · exact .failed _ _
  · cases done : f u.below with
    | mk result below => exact .went done _

variable [Vault ω]

instance : Vault (Unsteady ω) where
  save u id g := u.pass (Vault.save · id g)
  load u id := u.pass (Vault.load · id)
  erase u id := u.pass (Vault.erase · id)
  ids u := u.pass Vault.ids

instance [Lawful ω] : Lawful (Unsteady ω) where
  record? u := Lawful.record? u.below
  Honest u := Lawful.Honest u.below
  saved {u u' id g} whole save other := by
    have passed := u.passes (Vault.save · id g)
    change u.pass _ = _ at save
    rw [save] at passed
    cases passed with
    | went done => exact Lawful.saved whole done other
  unsaved {u u' id g fault} save other := by
    have passed := u.passes (Vault.save · id g)
    change u.pass _ = _ at save
    rw [save] at passed
    cases passed with
    | failed => rfl
    | went done => exact Lawful.unsaved done other
  loadKeeps u id other := by
    have passed := u.passes (Vault.load · id)
    change Lawful.record? (u.pass (Vault.load · id)).2.below other = _
    generalize u.pass (Vault.load · id) = result at passed ⊢
    cases passed with
    | failed => rfl
    | went done =>
      have kept := Lawful.loadKeeps u.below id other
      rwa [done] at kept
  loaded {u u' id stored} honest load := by
    have passed := u.passes (Vault.load · id)
    change u.pass _ = _ at load
    rw [load] at passed
    cases passed with
    | went done => exact Lawful.loaded honest done
  erased {u u' id} honest erase := by
    have passed := u.passes (Vault.erase · id)
    change u.pass _ = _ at erase
    rw [erase] at passed
    cases passed with
    | went done => exact Lawful.erased honest done
  eraseKeeps u id other := by
    have passed := u.passes (Vault.erase · id)
    change Lawful.record? (u.pass (Vault.erase · id)).2.below other = _ ∨
      id = other ∧ Lawful.record? (u.pass (Vault.erase · id)).2.below other = none
    generalize u.pass (Vault.erase · id) = result at passed ⊢
    cases passed with
    | failed => exact .inl rfl
    | went done =>
      have kept := Lawful.eraseKeeps u.below id other
      rwa [done] at kept

end Unsteady

end GrantKeeper.Vault
