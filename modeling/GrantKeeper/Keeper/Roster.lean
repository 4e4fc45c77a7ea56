import Std.Data.ExtTreeMap
import GrantKeeper.Account.Basic

/-! The roster of accounts. Each account has a slot, which also says whether an
exchange for it is under way and how the last one ended. A slot is told from
earlier slots of the same id by its epoch. Epochs and ended exchanges are counted in
64 bits by the program: no run gets as far as to the end of them, so that here they
are numbers without a bound. -/
namespace GrantKeeper

structure Slot where
  account : Account
  epoch : Nat
  inFlight : Bool
  ended : Nat
  lastSucceeded : Bool
  deriving DecidableEq, Repr

structure Roster where
  slots : Std.ExtTreeMap String Slot
  nextEpoch : Nat

namespace Roster

def empty : Roster := ⟨∅,0⟩

def slot? (r : Roster) (id : String) : Option Slot := r.slots[id]?

def grant? (r : Roster) (id : String) : Option Grant := (r.slot? id).map (·.account.grant)

def put (r : Roster) (id : String) (slot : Slot) : Roster := { r with slots := r.slots.insert id slot }

def setGrant (r : Roster) (id : String) (slot : Slot) (g : Grant) : Roster :=
  r.put id { slot with account := { slot.account with grant := g } }

def hold (r : Roster) (id : String) (g : Grant) : Roster :=
  match r.slot? id with
  | some slot => r.setGrant id slot g
  | none => r

/-- A first enrollment opens a slot; a later one changes the enrollment in it.
A grant that was stored takes the place of the one held. -/
def enroll (r : Roster) (e : Enrollment) (stored : Option Grant) : Roster :=
  match r.slot? e.id with
  | some slot => r.put e.id { slot with account := ⟨e,stored.getD slot.account.grant⟩ }
  | none =>
    { slots := r.slots.insert e.id ⟨⟨e,stored.getD .absent⟩,r.nextEpoch,false,0,false⟩
      nextEpoch := r.nextEpoch + 1 }

def remove (r : Roster) (id : String) : Roster := { r with slots := r.slots.erase id }

def ids (r : Roster) : List String := r.slots.keys

def size (r : Roster) : Nat := r.slots.size

theorem idsAscend (r : Roster) : r.ids.Pairwise (· < ·) :=
  r.slots.ordered_keys.imp compareOfLessAndEq_eq_lt.mp

theorem inIds {r : Roster} {id : String} : id ∈ r.ids ↔ (r.slot? id).isSome = true := by
  rw [ids,slot?,Std.ExtTreeMap.mem_keys,Std.ExtTreeMap.mem_iff_isSome_getElem?]

@[simp] theorem slotEmpty (id : String) : empty.slot? id = none := by
  simp [empty,slot?]

theorem slotPut (r : Roster) (id other : String) (slot : Slot) :
    (r.put id slot).slot? other = if id = other then some slot else r.slot? other := by
  simp [put,slot?,Std.ExtTreeMap.getElem?_insert]

theorem putTwice (r : Roster) (id : String) (first second : Slot) :
    (r.put id first).put id second = r.put id second := by
  unfold put
  congr 1
  apply Std.ExtTreeMap.ext_getElem?
  intro other
  simp only [Std.ExtTreeMap.getElem?_insert]
  split <;> rfl

theorem slotRemove (r : Roster) (id other : String) :
    (r.remove id).slot? other = if id = other then none else r.slot? other := by
  simp [remove,slot?,Std.ExtTreeMap.getElem?_erase]

theorem slotEnrollKnown {r : Roster} {e : Enrollment} {slot : Slot} (known : r.slot? e.id = some slot)
    (stored : Option Grant) (other : String) :
    (r.enroll e stored).slot? other =
      if e.id = other then some { slot with account := ⟨e,stored.getD slot.account.grant⟩ }
      else r.slot? other := by
  simp only [enroll,known,slotPut]

theorem slotEnrollNew {r : Roster} {e : Enrollment} (new : r.slot? e.id = none)
    (stored : Option Grant) (other : String) :
    (r.enroll e stored).slot? other =
      if e.id = other then some ⟨⟨e,stored.getD .absent⟩,r.nextEpoch,false,0,false⟩
      else r.slot? other := by
  simp only [enroll,new]
  simp [slot?,Std.ExtTreeMap.getElem?_insert]

theorem slotEnrollKept {r : Roster} {id : String} (known : (r.slot? id).isSome = true) (e : Enrollment)
    (stored : Option Grant) : ((r.enroll e stored).slot? id).isSome = true := by
  cases old : r.slot? e.id with
  | some slot =>
    rw [slotEnrollKnown old]
    split
    · rfl
    · exact known
  | none =>
    rw [slotEnrollNew old]
    split
    · rfl
    · exact known

theorem slotEnrollOther (r : Roster) {e : Enrollment} {id : String} (other : e.id ≠ id)
    (stored : Option Grant) : (r.enroll e stored).slot? id = r.slot? id := by
  cases old : r.slot? e.id with
  | some slot => rw [slotEnrollKnown old,if_neg other]
  | none => rw [slotEnrollNew old,if_neg other]

end Roster

end GrantKeeper
