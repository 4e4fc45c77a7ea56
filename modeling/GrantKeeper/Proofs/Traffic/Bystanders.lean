import GrantKeeper.Proofs.Keeper.Apart
import GrantKeeper.Proofs.Traffic.Flights

/-! Callers that have nothing to do with an account. They stay so, and its slot stays
as they found it. -/
namespace GrantKeeper
open Time (Instant Span)
variable {ω τ : Type}

def Errand.minds (id : String) : Errand → Bool
  | .refresh other | .token other => other == id
  | .sweep other _ others _ => (other :: others).any (· == id)

def Caller.minds (id : String) : Caller τ → Bool
  | .opening errand _ _ | .waiting errand _ _ => errand.minds id
  | .exchanging errand a => errand.minds id || a.id == id
  | .reading other => other == id
  | .finished _ => false

theorem Errand.mindsOther {errand : Errand} {id : String} (apart : errand.minds id = false) :
    errand.id ≠ id := by
  cases errand with
  | sweep other buffer others done => exact beq_eq_false_iff_ne.mp (Bool.or_eq_false_iff.mp apart).1
  | _ => exact beq_eq_false_iff_ne.mp apart

namespace Caller
variable {caller : Caller τ} {id : String}

theorem mindsAttempt (apart : caller.minds id = false) {a : Attempt τ} (under : caller.attempt? = some a) :
    a.id ≠ id := by
  cases caller with
  | exchanging errand b =>
    cases under
    exact beq_eq_false_iff_ne.mp (Bool.or_eq_false_iff.mp apart).2
  | _ => cases under

theorem mindsWake (caller : Caller τ) (id : String) : caller.wake.minds id = caller.minds id := by
  cases caller <;> rfl

theorem mindsAfter {errand : Errand} (apart : errand.minds id = false) (result : Except Fault Unit) :
    (after errand result : Caller τ).minds id = false := by
  unfold after
  split
  · rfl
  · exact apart
  · rfl
  · exact (Bool.or_eq_false_iff.mp apart).2

theorem mindsStartToken {other : String} (apart : other ≠ id) (k : Keeper ω τ) (now : Instant) :
    (startToken k now other).minds id = false := by
  have other : (other == id) = false := beq_eq_false_iff_ne.mpr apart
  unfold startToken
  split
  · split <;> exact other
  · rfl

theorem mindsStep (apart : caller.minds id = false) (k : Keeper ω τ) (now : Instant) :
    (caller.step k now).1.minds id = false ∧
      (caller.step k now).2.roster.slot? id = k.roster.slot? id := by
  cases caller with
  | opening errand within ticket =>
    have other := Errand.mindsOther apart
    have kept := Keeper.openApart (k := k) other now within ticket
    have opened := k.opens now errand.id within ticket
    simp only [step]
    generalize k.openRefresh now errand.id within ticket = result at kept opened ⊢
    cases opened with
    | waits found flight => exact ⟨apart,kept⟩
    | begins found => exact ⟨Bool.or_eq_false_iff.mpr ⟨apart,beq_eq_false_iff_ne.mpr other⟩,kept⟩
    | _ => exact ⟨mindsAfter apart _,kept⟩
  | reading other => exact ⟨rfl,rfl⟩
  | _ => exact ⟨apart,rfl⟩

end Caller

namespace Traffic

def begunFor (t : Traffic ω τ) (id : String) : Nat := t.begun.countP (·.id == id)

variable {t : Traffic ω τ} {n : Nat} {next : Caller τ × Keeper ω τ} {id : String}

theorem begunFree (free : next.1.attempt? = none) (id : String) :
    (t.advance n next).begunFor id = t.begunFor id := by
  rw [begunFor,advance,free,Option.toList_none,List.append_nil]
  rfl

theorem begunOwn {a : Attempt τ} (under : next.1.attempt? = some a) (own : a.id = id) :
    (t.advance n next).begunFor id = t.begunFor id + 1 := by
  simp [begunFor,advance,under,own]

theorem begunApart (apart : next.1.minds id = false) :
    (t.advance n next).begunFor id = t.begunFor id := by
  cases under : next.1.attempt? with
  | none => exact begunFree under id
  | some a =>
    have other := Caller.mindsAttempt apart under
    simp [begunFor,advance,under,other]

end Traffic

end GrantKeeper
