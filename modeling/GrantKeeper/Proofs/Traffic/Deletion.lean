import GrantKeeper.Proofs.Traffic.Changes
import GrantKeeper.Proofs.Traffic.Flights

/-! A deleted account stays deleted until it is enrolled again, and what was
begun for it before can no longer change anything. -/
namespace GrantKeeper
open Time (Instant)
open Vault (Lawful)
open Vault.Lawful (record? Honest)
variable {ω τ : Type}

namespace Keeper

structure Since (id : String) (epoch : Nat) (k : Keeper ω τ) : Prop where
  passed : epoch ≤ k.roster.nextEpoch
  slots : ∀ slot, k.roster.slot? id = some slot → epoch ≤ slot.epoch

theorem sinceGone {id : String} {epoch : Nat} {k : Keeper ω τ} (h : Since id epoch k) {a : Attempt τ}
    (mine : a.id = id) (early : a.epoch < epoch) : k.slotOf? a = none := by
  refine slotOfGone ?_
  intro slot there same
  have late := h.slots slot (mine ▸ there)
  omega

theorem sinceEnroll {id : String} {epoch : Nat} {k : Keeper ω τ} (h : Since id epoch k) (e : Enrollment)
    (vault : ω) (stored : Option Grant) :
    Since id epoch { k with vault, roster := k.roster.enroll e stored } := by
  cases known : k.roster.slot? e.id with
  | some old =>
    refine ⟨?_,?_⟩
    · simp only [Roster.enroll,known]
      exact h.passed
    · intro slot there
      change (k.roster.enroll e stored).slot? id = some slot at there
      rw [Roster.slotEnrollKnown known] at there
      split at there
      · rename_i here
        subst here
        cases Option.some.inj there
        exact h.slots old known
      · exact h.slots slot there
  | none =>
    refine ⟨?_,?_⟩
    · simp only [Roster.enroll,known]
      exact Nat.le_succ_of_le h.passed
    · intro slot there
      change (k.roster.enroll e stored).slot? id = some slot at there
      rw [Roster.slotEnrollNew known] at there
      split at there
      · cases Option.some.inj there
        exact h.passed
      · exact h.slots slot there

theorem sincePut {id other : String} {epoch : Nat} {k : Keeper ω τ} (h : Since id epoch k)
    {slot next : Slot} (found : k.roster.slot? other = some slot) (same : next.epoch = slot.epoch)
    (vault : ω) : Since id epoch { k with vault, roster := k.roster.put other next } where
  passed := h.passed
  slots new there := by
    change (k.roster.put other next).slot? id = some new at there
    rw [Roster.slotPut] at there
    split at there
    · rename_i here
      subst here
      cases Option.some.inj there
      exact same ▸ h.slots slot found
    · exact h.slots new there

variable [Vault ω]

theorem sinceDelete (k : Keeper ω τ) (id : String) : Since id k.roster.nextEpoch (k.delete id).2 where
  passed := Nat.le_refl _
  slots slot there := by
    change (k.roster.remove id).slot? id = some slot at there
    rw [Roster.slotRemove,if_pos rfl] at there
    cases there

variable [Lawful ω]

structure Lacks (k : Keeper ω τ) (id : String) : Prop where
  slot : k.roster.slot? id = none
  record : record? k.vault id = none

variable {k next : Keeper ω τ} {id : String} {e : Event}

theorem sinceChanged {epoch : Nat} (h : Since id epoch k) (changed : k.Changes e next) :
    Since id epoch next := by
  cases changed with
  | rests kept => exact ⟨h.passed,h.slots⟩
  | marks found account same kept => exact sincePut h found same _
  | saves found same saved => exact sincePut h found same _
  | @enrolls e loaded vault usable load => exact sinceEnroll h e vault _
  | removes other =>
    refine ⟨h.passed,?_⟩
    intro slot there
    change (k.roster.remove other).slot? id = some slot at there
    rw [Roster.slotRemove] at there
    split at there
    · cases there
    · exact h.slots slot there

theorem lacksPut (h : k.Lacks id) {other : String} {slot : Slot} (found : k.roster.slot? other = some slot)
    (next : Slot) {vault : ω} (kept : other ≠ id → record? vault id = record? k.vault id) :
    Lacks { k with vault, roster := k.roster.put other next } id := by
  have apart : other ≠ id := by
    rintro rfl
    rw [h.slot] at found
    cases found
  refine ⟨?_,(kept apart).trans h.record⟩
  change (k.roster.put other next).slot? id = none
  rw [Roster.slotPut,if_neg apart]
  exact h.slot

theorem lacksChanged (h : k.Lacks id) (changed : k.Changes e next)
    (other : ∀ enrollment, e = .register enrollment → enrollment.id ≠ id) : next.Lacks id := by
  cases changed with
  | rests kept => exact ⟨h.slot,(kept id).trans h.record⟩
  | marks found account same kept => exact lacksPut h found _ fun _ => kept id
  | saves found same saved => exact lacksPut h found _ fun apart => (saved id).trans (if_neg apart)
  | @enrolls e loaded vault usable load =>
    have kept := Lawful.loadKeeps k.vault e.id id
    rw [load] at kept
    exact ⟨(Roster.slotEnrollOther k.roster (other e rfl) _).trans h.slot,kept.trans h.record⟩
  | removes gone =>
    refine ⟨?_,?_⟩
    · change (k.roster.remove gone).slot? id = none
      rw [Roster.slotRemove]
      split
      · rfl
      · exact h.slot
    · rcases Lawful.eraseKeeps k.vault gone id with kept | ⟨-,erased⟩
      · exact kept.trans h.record
      · exact erased

theorem lacksDeleted (honest : Honest k.vault) (erases : (Vault.erase k.vault id).1.isOk = true) :
    (k.delete id).2.Lacks id where
  slot := by
    change (k.roster.remove id).slot? id = none
    rw [Roster.slotRemove,if_pos rfl]
  record := Lawful.erasedOk honest erases

end Keeper

namespace Traffic
variable [Vault ω] [Lawful ω]

def NoneEnrolls (id : String) (xs : List Turn) : Prop := ∀ x ∈ xs, ∀ e, x.event = .register e → e.id ≠ id

theorem lacksTurn {t : Traffic ω τ} {id : String} (h : t.keeper.Lacks id) {x : Turn}
    (other : ∀ e, x.event = .register e → e.id ≠ id) : (t.turn x).keeper.Lacks id :=
  Keeper.lacksChanged (k := t.keeper.under x) ⟨h.slot,h.record⟩ ((t.under x).changes x.now x.event) other

theorem lacksPlay {t : Traffic ω τ} {id : String} {xs : List Turn} (h : t.keeper.Lacks id)
    (none : NoneEnrolls id xs) : (t.play xs).keeper.Lacks id := by
  induction xs generalizing t with
  | nil => exact h
  | cons x xs ih =>
    obtain ⟨now,later⟩ := List.forall_mem_cons.mp none
    exact ih (lacksTurn h now) later

theorem sinceTurn {id : String} {epoch : Nat} (t : Traffic ω τ) (x : Turn)
    (h : Keeper.Since id epoch t.keeper) : Keeper.Since id epoch (t.turn x).keeper :=
  Keeper.sinceChanged (k := t.keeper.under x) ⟨h.passed,h.slots⟩ ((t.under x).changes x.now x.event)

/-- A deletion that erases the record leaves nothing of the account, and nothing comes back before
it is enrolled again. From any deletion on, whoever ends an exchange that was begun before it
changes nothing, and is told that the account is unknown. -/
theorem deletedStaysDeleted (k : Keeper ω τ) (before after : List Turn) (x : Turn) (id : String)
    (deletion : x.event = .delete id) :
    let t := (start k).play before
    let u := (t.turn x).play after
    (Honest t.keeper.vault → (Vault.erase t.keeper.vault id).1.isOk = true → NoneEnrolls id after →
      u.keeper.knows id = false ∧ record? u.keeper.vault id = none) ∧
    ∀ n errand a, u.attemptOf? n = some (errand,a) → a ∈ t.begun → a.id = id →
      (∀ y outcome, y.event = .settle n outcome → (u.turn y).keeper = u.keeper.under y ∧
        (u.turn y).ended = u.ended ++ [(a,some (.error (.unknownAccount id)))] ∧
        (u.turn y).callers =
          (u.under y).callers.set n (.after errand (.error (.unknownAccount id)))) ∧
      ∀ y, y.event = .abandon n → (u.turn y).keeper = u.keeper.under y := by
  intro t u
  have deleted : (t.turn x).keeper = ((t.keeper.under x).delete id).2 := by
    rw [turn,deletion]
    rfl
  have since : Keeper.Since id t.keeper.roster.nextEpoch u.keeper := by
    refine playKeeps sinceTurn after ?_
    rw [deleted]
    exact Keeper.sinceDelete (t.keeper.under x) id
  refine ⟨?_,?_⟩
  · intro honest erases none
    have lacks : u.keeper.Lacks id := by
      refine lacksPlay ?_ none
      rw [deleted]
      exact Keeper.lacksDeleted honest erases
    exact ⟨by rw [Keeper.knows,lacks.slot]; rfl,lacks.record⟩
  · intro n errand a there begun mine
    -- its slot had an epoch from before the deletion, and whatever has come since has later ones
    have early := (flightsPlay k before).early a begun
    have gone (y : Turn) : (u.keeper.under y).slotOf? a = none :=
      Keeper.sinceGone (k := u.keeper.under y) ⟨since.passed,since.slots⟩ mine early
    refine ⟨?_,?_⟩
    · intro y outcome settles
      have settled := Keeper.settleGone (gone y) y.now outcome
      rw [mine] at settled
      rw [turnSettles there settles]
      simp [close,Caller.settle,under,settled]
    · intro y breaks
      rw [turnAbandons there breaks]
      simp [close,Caller.abandon,under,Keeper.abandonGone (gone y)]

theorem lateFinishSpares :
    let t := (start Sample.keeper).play (Sample.turns (Sample.arrival ++ [.refresh "a",.proceed 0]))
    let deleted := t.turn (Sample.turn (.delete "a"))
    let finish := Sample.turn (.settle 0 (.ok Sample.reply))
    (deleted.turn finish).keeper.knows "a" = false ∧ record? (deleted.turn finish).keeper.vault "a" = none ∧
    let anew := deleted.play (Sample.turns Sample.arrival)
    (anew.turn finish).keeper = anew.keeper ∧ (anew.keeper.grant? "a").map (·.access) = some "A" := by
  intro t deleted finish
  have stays (after : List Turn) := deletedStaysDeleted Sample.keeper
    (Sample.turns (Sample.arrival ++ [.refresh "a",.proceed 0])) after (Sample.turn (.delete "a")) "a" rfl
  have noneEnrolls : NoneEnrolls "a" [finish] := by
    intro x member e event
    cases List.mem_singleton.mp member
    cases event
  obtain ⟨unknown,unrecorded⟩ := (stays [finish]).1 trivial rfl noneEnrolls
  refine ⟨unknown,unrecorded,?_⟩
  intro anew
  obtain ⟨kept,-⟩ := ((stays (Sample.turns Sample.arrival)).2 0 _ _ rfl (List.mem_singleton.mpr rfl) rfl).1
    finish _ rfl
  exact ⟨kept,by decide⟩

end Traffic

end GrantKeeper
