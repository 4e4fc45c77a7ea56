import GrantKeeper.Proofs.Keeper.Outcomes
import GrantKeeper.Proofs.Traffic.Basic
import GrantKeeper.Proofs.Vault.Lawful

/-! All that an event can do to roster and vault together. -/
namespace GrantKeeper
open Time (Instant Span)
open Vault (Lawful)
open Vault.Lawful (record?)
variable {ω τ : Type} [Vault ω] [Lawful ω]

namespace Keeper

inductive Changes (k : Keeper ω τ) : Event → Keeper ω τ → Prop
  | rests {e vault} (kept : ∀ other, record? vault other = record? k.vault other) :
      Changes k e { k with vault }
  | marks {e id slot next vault} (found : k.roster.slot? id = some slot)
      (account : next.account = slot.account) (epoch : next.epoch = slot.epoch)
      (kept : ∀ other, record? vault other = record? k.vault other) :
      Changes k e { k with vault, roster := k.roster.put id next }
  | saves {e id slot next vault} (found : k.roster.slot? id = some slot) (epoch : next.epoch = slot.epoch)
      (saved : ∀ other, record? vault other =
        if id = other then some (some next.account.grant) else record? k.vault other) :
      Changes k e { k with vault, roster := k.roster.put id next }
  | enrolls {e loaded vault} (usable : Enrollment.isUsableId e.id = true)
      (load : Vault.load k.vault e.id = (loaded,vault)) :
      Changes k (.register e) { k with vault, roster := k.roster.enroll e (loaded.toOption.getD none) }
  | removes (id : String) : Changes k (.delete id)
      { k with vault := (Vault.erase k.vault id).2, roster := k.roster.remove id }

variable (k : Keeper ω τ) (now : Instant)

theorem changesRegister (e : Enrollment) : k.Changes (.register e) (k.register e).2 := by
  have registered := k.registers e
  generalize k.register e = result at registered ⊢
  cases registered with
  | refused unusable => exact .rests fun _ => rfl
  | enrolled usable load => exact .enrolls usable load

theorem changesStore (e : Event) (id access refresh : String) (lifetime : Int) :
    k.Changes e (k.storeTokens now id access refresh lifetime).2 := by
  have stored := k.stores now id access refresh lifetime
  generalize k.storeTokens now id access refresh lifetime = result at stored ⊢
  cases stored with
  | unknown absent => exact .rests fun _ => rfl
  | saved found save =>
    exact .saves found (by rfl)
      (Lawful.saved (Grant.scopedWhole (Grant.issuedWhole now access refresh lifetime) _) save)
  | unsaved found save => exact .rests (Lawful.unsaved save)

theorem changesOpen (e : Event) (id : String) (within : Option Span) (ticket : Option Ticket) :
    k.Changes e (k.openRefresh now id within ticket).2 := by
  have opened := k.opens now id within ticket
  generalize k.openRefresh now id within ticket = result at opened ⊢
  cases opened with
  | begins found => exact .marks found (by rfl) (by rfl) fun _ => rfl
  | _ => exact .rests fun _ => rfl

theorem changesSettle (e : Event) (a : Attempt τ) (outcome : Except Exchange.Fault Reply) :
    k.Changes e (k.settle now a outcome).2 := by
  have settled := k.settles now a outcome
  generalize k.settle now a outcome = result at settled ⊢
  cases settled with
  | gone absent => exact .rests fun _ => rfl
  | refused found => exact .marks (slotOfFound found).1 (by rfl) (by rfl) fun _ => rfl
  | kept found other => exact .marks (slotOfFound found).1 (by rfl) (by rfl) fun _ => rfl
  | saved found same save =>
    exact .saves (slotOfFound found).1 (by rfl)
      (Lawful.saved (Grant.refreshedWhole a.previous now _) save)
  | unsaved found same save =>
    exact .marks (slotOfFound found).1 (by rfl) (by rfl) (Lawful.unsaved save)

theorem changesAbandon (e : Event) (a : Attempt τ) : k.Changes e (k.abandon a) := by
  have ended := k.abandons a
  generalize k.abandon a = next at ended ⊢
  cases ended with
  | gone absent => exact .rests fun _ => rfl
  | broken found => exact .marks (slotOfFound found).1 (by rfl) (by rfl) fun _ => rfl

def Relates (R : Option (Option Grant) → Grant → Prop) (k : Keeper ω τ) : Prop :=
  ∀ id slot, k.roster.slot? id = some slot → R (record? k.vault id) slot.account.grant

variable {k : Keeper ω τ} {next : Keeper ω τ} {e : Event} {R : Option (Option Grant) → Grant → Prop}

theorem relatesPut (h : k.Relates R) {id : String} {slot : Slot} {vault : ω}
    (kept : ∀ other, id ≠ other → record? vault other = record? k.vault other)
    (own : R (record? vault id) slot.account.grant) :
    Relates R { k with vault, roster := k.roster.put id slot } := by
  intro other new there
  change (k.roster.put id slot).slot? other = some new at there
  change R (record? vault other) new.account.grant
  rw [Roster.slotPut] at there
  split at there
  · rename_i here
    subst here
    cases Option.some.inj there
    exact own
  · rename_i apart
    rw [kept other apart]
    exact h other new there

theorem relatesEnroll (h : k.Relates R) {enrollment : Enrollment} {stored : Option Grant} {vault : ω}
    (kept : ∀ other, record? vault other = record? k.vault other)
    (given : ∀ held, held = .absent ∨ R (record? k.vault enrollment.id) held →
      R (record? k.vault enrollment.id) (stored.getD held)) :
    Relates R { k with vault, roster := k.roster.enroll enrollment stored } := by
  intro other slot there
  change (k.roster.enroll enrollment stored).slot? other = some slot at there
  change R (record? vault other) slot.account.grant
  rw [kept]
  cases known : k.roster.slot? enrollment.id with
  | some old =>
    rw [Roster.slotEnrollKnown known] at there
    split at there
    · rename_i here
      subst here
      cases Option.some.inj there
      exact given _ (.inr (h enrollment.id old known))
    · exact h other slot there
  | none =>
    rw [Roster.slotEnrollNew known] at there
    split at there
    · rename_i here
      subst here
      cases Option.some.inj there
      exact given _ (.inl rfl)
    · exact h other slot there

theorem relatesRemove (h : k.Relates R) (id : String) :
    Relates R { k with vault := (Vault.erase k.vault id).2, roster := k.roster.remove id } := by
  intro other slot there
  change (k.roster.remove id).slot? other = some slot at there
  change R (record? (Vault.erase k.vault id).2 other) slot.account.grant
  rw [Roster.slotRemove] at there
  split at there
  · cases there
  · rename_i apart
    rcases Lawful.eraseKeeps k.vault id other with kept | ⟨same,-⟩
    · rw [kept]
      exact h other slot there
    · exact absurd same apart

theorem relatesChanged (saved : ∀ g, R (some (some g)) g)
    (enrolled : ∀ enrollment loaded vault held, e = .register enrollment →
      Enrollment.isUsableId enrollment.id = true →
      Vault.load k.vault enrollment.id = (loaded,vault) →
      held = .absent ∨ R (record? k.vault enrollment.id) held →
      R (record? k.vault enrollment.id) ((loaded.toOption.getD none).getD held))
    (h : k.Relates R) (changed : k.Changes e next) : next.Relates R := by
  cases changed with
  | @rests _ vault kept =>
    intro other slot there
    change R (record? vault other) slot.account.grant
    rw [kept]
    exact h other slot there
  | @marks _ id slot next vault found account epoch kept =>
    refine relatesPut h (fun other _ => kept other) ?_
    rw [kept,account]
    exact h id slot found
  | @saves _ id slot next vault found epoch written =>
    refine relatesPut h (fun other apart => (written other).trans (if_neg apart)) ?_
    rw [written,if_pos rfl]
    exact saved _
  | @enrolls e loaded vault usable load =>
    refine relatesEnroll h ?_ fun held => enrolled e loaded vault held rfl usable load
    intro other
    have kept := Lawful.loadKeeps k.vault e.id other
    rwa [load] at kept
  | removes id => exact relatesRemove h id

end Keeper

theorem Traffic.changes (t : Traffic ω τ) (now : Instant) (e : Event) :
    t.keeper.Changes e (t.step now e).keeper := by
  have moved := t.moves now e
  generalize (t.step now e).keeper = next at moved ⊢
  cases moved with
  | register e => exact t.keeper.changesRegister e
  | storeTokens id access refresh lifetime => exact t.keeper.changesStore now _ id access refresh lifetime
  | delete id => exact .removes id
  | opens n id within ticket => exact t.keeper.changesOpen now _ id within ticket
  | settle n outcome a => exact t.keeper.changesSettle now _ a outcome
  | abandon n a => exact t.keeper.changesAbandon _ a
  | stays e => exact .rests fun _ => rfl

end GrantKeeper
