import GrantKeeper.Proofs.Keeper.Outcomes

/-! What is done for one account leaves the slots of all others as they are. -/
namespace GrantKeeper.Keeper
open Time (Instant Span)
variable {ω τ : Type} {k : Keeper ω τ} {id other : String}

theorem putApart (apart : other ≠ id) (slot : Slot) :
    (k.roster.put other slot).slot? id = k.roster.slot? id := by
  rw [Roster.slotPut,if_neg apart]

theorem openApart (apart : other ≠ id) (now : Instant) (within : Option Span) (ticket : Option Ticket) :
    (k.openRefresh now other within ticket).2.roster.slot? id = k.roster.slot? id := by
  have opened := k.opens now other within ticket
  generalize k.openRefresh now other within ticket = result at opened ⊢
  cases opened with
  | begins found => exact putApart apart _
  | _ => rfl

theorem abandonApart {a : Attempt τ} (apart : a.id ≠ id) :
    (k.abandon a).roster.slot? id = k.roster.slot? id := by
  have ended := k.abandons a
  generalize k.abandon a = next at ended ⊢
  cases ended with
  | gone absent => rfl
  | broken found => exact putApart apart _

variable [Vault ω]

theorem settleApart {a : Attempt τ} (apart : a.id ≠ id) (now : Instant)
    (outcome : Except Exchange.Fault Reply) :
    (k.settle now a outcome).2.roster.slot? id = k.roster.slot? id := by
  have settled := k.settles now a outcome
  generalize k.settle now a outcome = result at settled ⊢
  cases settled with
  | gone absent => rfl
  | _ => exact putApart apart _

theorem registerApart {e : Enrollment} (apart : e.id ≠ id) :
    (k.register e).2.roster.slot? id = k.roster.slot? id := by
  have registered := k.registers e
  generalize k.register e = result at registered ⊢
  cases registered with
  | refused unusable => rfl
  | enrolled usable load => exact Roster.slotEnrollOther k.roster apart _

theorem storeApart (apart : other ≠ id) (now : Instant) (access refresh : String) (lifetime : Int) :
    (k.storeTokens now other access refresh lifetime).2.roster.slot? id = k.roster.slot? id := by
  have stored := k.stores now other access refresh lifetime
  generalize k.storeTokens now other access refresh lifetime = result at stored ⊢
  cases stored with
  | saved found save => exact putApart apart _
  | _ => rfl

theorem deleteSlot (k : Keeper ω τ) (other id : String) :
    (k.delete other).2.roster.slot? id = if other = id then none else k.roster.slot? id :=
  Roster.slotRemove k.roster other id

end GrantKeeper.Keeper
